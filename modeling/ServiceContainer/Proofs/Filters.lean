import ServiceContainer.Proofs.Execution.Mirroring
import ServiceContainer.Proofs.Strategies

/-! Observers and lifetime checks as filters. Main statement: a client finds and leaves the same,
whoever observes its provider; and the same, whether or not the provider checks lifetimes, as long
as no check fails. -/
namespace ServiceContainer

/-- Hides who observes an engine, and what they were told. -/
def Veil.observation (engine : EngineId) : Veil := ⟨engine, true, false⟩

/-- Hides whether an engine checks lifetimes, and what it remembers of its checks. -/
def Veil.validation (engine : EngineId) : Veil := ⟨engine, false, true⟩

theorem modify_concat (change : α → α) (items : List α) (last : α) :
    (items ++ [last]).modify items.length change = items ++ [change last] := by
  induction items with
  | nil => rfl
  | cons first rest ih => exact congrArg (first :: ·) ih

namespace Container

theorem id_of_build {world later : World} {blueprint : Blueprint} {options : Options}
    {observers : List Observer} {id : EngineId} {root : ScopeId}
    (built : build blueprint options observers world = .ok (id, root, later)) :
    id = world.engines.length := by
  unfold build at built
  cases made : Engine.build blueprint options observers with
  | error failure =>
    rw [made] at built
    cases built
  | ok engine =>
    rw [made] at built
    cases built
    rfl

theorem behind_build {world : World} {veil : Veil} (new : veil.engine = world.engines.length)
    (blueprint : Blueprint) (options : Options) (observers : List Observer) :
    build blueprint (veil.options options) (veil.observers observers) (world.behind veil) =
        (build blueprint options observers world).map
          (fun built => (built.1, built.2.1, built.2.2.behind veil)) ∨
      veil.lax = true ∧ ∃ failure,
        build blueprint options observers world = .error failure ∧
          failure.hasLifetime = true := by
  unfold build
  rcases @Engine.behind_build veil blueprint options observers with
    same | ⟨lax, failure, failed, broken⟩
  · refine .inl ?_
    rw [same]
    cases Engine.build blueprint options observers with
    | error failure => rfl
    | ok engine =>
      have before : (world.behind veil).engines = world.engines :=
        List.modify_eq_self (Nat.le_of_eq new.symm)
      have after : (world.engines ++ [engine]).modify veil.engine (·.behind veil) =
          world.engines ++ [engine.behind veil] := by
        rw [new]
        exact modify_concat (·.behind veil) world.engines engine
      change Except.ok ((world.behind veil).engines.length, world.scopes.length,
        ({ world.behind veil with
            engines := (world.behind veil).engines ++ [engine.behind veil]
            scopes := _ } : World)) = _
      rw [before, ← after]
      rfl
  · refine .inr ⟨lax, failure, ?_, broken⟩
    rw [failed]
    rfl

/-- What a client does in front of the veil, it does behind it, unless the way to consult engines
halts. -/
theorem run_behind {veil : Veil} {halts : Prop} {consult : Consultation}
    (consulted : consult.Mirrored veil halts) (fuel : Nat) (program : Program α) (world : World) :
    run fuel program (world.behind veil) =
        (program.exec (performBy consult fuel) world).map
          (fun ended => (ended.1, ended.2.behind veil)) ∨
      halts ∧ program.exec (performBy consult fuel) world = none := by
  have answers := mirrors_perform (fun _ answers => Run.paced_behind answers consulted) fuel
  exact Veil.mirrors_iff.1 (Run.mirrors_exec answers program) world

theorem serve_behind {world : World} {veil : Veil} (strict : veil.lax = false)
    (new : veil.engine = world.engines.length) (fuel : Nat) (blueprint : Blueprint)
    (options : Options) (observers : List Observer)
    (client : EngineId → ScopeId → Program α) :
    serve fuel blueprint (veil.options options) (veil.observers observers) client
        (world.behind veil) =
      (serve fuel blueprint options observers client world).map
        (Option.map fun ended => (ended.1, ended.2.behind veil)) := by
  unfold serve
  rcases behind_build new blueprint options observers with same | ⟨lax, _⟩
  · rw [same]
    cases build blueprint options observers world with
    | error failure => rfl
    | ok built =>
      obtain ⟨id, root, later⟩ := built
      have followed := run_behind (Run.mirrored_onEngine strict False) fuel (client id root) later
      rw [false_and, or_false, performBy_onEngine] at followed
      exact congrArg Except.ok followed
  · rw [strict] at lax
    cases lax

/-- Answers requests, but gets stuck as soon as a lifetime check of the watched engine fails,
whatever would become of the failure. -/
def attend (watched : EngineId) (fuel : Nat) : Handler := performBy (Run.vigilant watched) fuel

/-- Builds a provider and runs a client of it and its root scope; there is no end to it once a
lifetime check of the provider fails, at its build or at any later time. -/
def supervise (fuel : Nat) (blueprint : Blueprint) (options : Options) (observers : List Observer)
    (client : EngineId → ScopeId → Program α) (world : World) :
    Except Failure (Option (α × World)) :=
  match build blueprint options observers world with
  | .error failure => if failure.hasLifetime then .ok none else .error failure
  | .ok (id, root, world) => .ok ((client id root).exec (attend id fuel) world)

/-- A client that is attended to its end, does the same with nobody attending, and with the checks
off. -/
theorem run_of_attend {watched : EngineId} {fuel : Nat} {program : Program α} {world : World}
    (undisturbed : program.exec (attend watched fuel) world ≠ none) :
    run fuel program world = program.exec (attend watched fuel) world ∧
      run fuel program (world.behind (.validation watched)) =
        (program.exec (attend watched fuel) world).map
          fun ended => (ended.1, ended.2.behind (.validation watched)) := by
  have followed (lax : Bool) : run fuel program (world.behind ⟨watched, false, lax⟩) =
      (program.exec (attend watched fuel) world).map
        fun ended => (ended.1, ended.2.behind ⟨watched, false, lax⟩) := by
    rcases run_behind (Run.mirrored_vigilant ⟨watched, false, lax⟩) fuel program world with
      same | ⟨_, stuck⟩
    · exact same
    · exact absurd stuck undisturbed
  refine ⟨?_, followed true⟩
  have plain := followed false
  simp only [World.behind_clear] at plain
  exact plain.trans Option.map_id'

theorem serve_unobserved (fuel : Nat) (blueprint : Blueprint) (options : Options)
    (observers : List Observer) (client : EngineId → ScopeId → Program α) (world : World) :
    (serve fuel blueprint options observers client world).map
        (Option.map fun ended => (ended.1, ended.2.behind (.observation world.engines.length))) =
      serve fuel blueprint options [] client (world.behind (.observation world.engines.length)) :=
  (@serve_behind α world (.observation world.engines.length) rfl rfl fuel blueprint options
    observers client).symm

/-- Where no check fails, it makes no difference that all were made. -/
theorem serve_unchecked {fuel : Nat} {blueprint : Blueprint} {options : Options}
    {observers : List Observer} {client : EngineId → ScopeId → Program α} {world : World}
    (undisturbed : supervise fuel blueprint (options.withValidateScopes true) observers client
      world ≠ .ok none) :
    serve fuel blueprint (options.withValidateScopes true) observers client world =
        supervise fuel blueprint (options.withValidateScopes true) observers client world ∧
      serve fuel blueprint (options.withValidateScopes false) observers client world =
        (supervise fuel blueprint (options.withValidateScopes true) observers client world).map
          (Option.map fun ended =>
            (ended.1, ended.2.behind (.validation world.engines.length))) := by
  have uncovered : world.behind (.validation world.engines.length) = world :=
    World.behind_absent rfl (List.getElem?_eq_none (Nat.le_refl _))
  have off := @behind_build world (.validation world.engines.length) rfl blueprint
    (options.withValidateScopes true) observers
  rw [uncovered] at off
  change build blueprint (options.withValidateScopes false) observers world = _ ∨ _ at off
  unfold supervise at undisturbed ⊢
  unfold serve
  cases on : build blueprint (options.withValidateScopes true) observers world with
  | error failure =>
    rw [on] at off undisturbed
    have unbroken : failure.hasLifetime = false :=
      Bool.eq_false_iff.2 fun broken => undisturbed (if_pos broken)
    rcases off with same | ⟨_, other, failed, broken⟩
    · rw [same]
      simp only [unbroken, Bool.false_eq_true, if_false]
      exact ⟨rfl, rfl⟩
    · cases failed
      rw [unbroken] at broken
      cases broken
  | ok made =>
    obtain ⟨id, root, later⟩ := made
    obtain rfl := id_of_build on
    rw [on] at off undisturbed
    rcases off with same | ⟨_, other, failed, _⟩
    · rw [same]
      obtain ⟨plain, unchecked⟩ := run_of_attend fun stuck => undisturbed (congrArg Except.ok stuck)
      exact ⟨congrArg Except.ok plain, congrArg Except.ok unchecked⟩
    · cases failed

/-- Observers: any two lists of them leave the client's result and the world the same, apart from
themselves. Checks: if the client comes to an end with the checks on and none of them failing, the
outcome is the same with the checks off, and so is the world, apart from what is remembered of the
checks. -/
theorem serve_filtered (fuel : Nat) (blueprint : Blueprint) (options : Options)
    (observers : List Observer) (client : EngineId → ScopeId → Program α) (world : World) :
    (∀ others : List Observer,
      (serve fuel blueprint options observers client world).map
          (Option.map fun ended => (ended.1, ended.2.behind (.observation world.engines.length))) =
        (serve fuel blueprint options others client world).map
          (Option.map fun ended => (ended.1, ended.2.behind (.observation world.engines.length)))) ∧
    (supervise fuel blueprint (options.withValidateScopes true) observers client world ≠ .ok none →
      serve fuel blueprint (options.withValidateScopes true) observers client world =
          supervise fuel blueprint (options.withValidateScopes true) observers client world ∧
        serve fuel blueprint (options.withValidateScopes false) observers client world =
          (supervise fuel blueprint (options.withValidateScopes true) observers client world).map
            (Option.map fun ended =>
              (ended.1, ended.2.behind (.validation world.engines.length)))) := by
  refine ⟨fun others => ?_, serve_unchecked⟩
  rw [serve_unobserved, serve_unobserved]

section Sample

def reception : Blueprint where
  registry := ⟨[⟨.plain session, .scoped, .produced "Session" fun _ =>
      .done (.ok { value := .object { type := session, text := "session" } })⟩,
    ⟨.plain report, .scoped, .produced "Report" fun scope =>
      .ask (.resolve scope (.plain session)) fun _ =>
        .done (.ok { value := .object { type := report, text := "report" } })⟩]⟩

def visitor (_ : EngineId) (root : ScopeId) : Program (Except Failure (Option Value)) := do
  let scope ← Program.request (.createScope root)
  Program.request (.resolve scope (.plain report))

end Sample

/-- A scoped service that is resolved in a child scope, within the lifetime rules. -/
theorem serve_filtered_reception :
    let checked : Options := Options.withValidateScopes {} true
    let supervised := supervise 2 reception checked [.quiet] visitor {}
    supervised ≠ .ok none ∧
      serve 2 reception checked [.quiet] visitor {} = supervised ∧
      serve 2 reception (checked.withValidateScopes false) [.quiet] visitor {} =
        supervised.map (Option.map fun ended => (ended.1, ended.2.behind (.validation 0))) := by
  intro checked supervised
  have attended : supervised.toOption.join.isSome = true := by decide +kernel
  have undisturbed : supervised ≠ .ok none := by
    intro stuck
    rw [stuck] at attended
    cases attended
  exact ⟨undisturbed, (serve_filtered 2 reception {} [.quiet] visitor {}).2 undisturbed⟩

end Container
end ServiceContainer
