import ServiceContainer.Proofs.Execution.Indifference

/-! The modes of execution. Main statement: whatever a client does with a provider, it gets the same
replies in every mode, and leaves the same world but for the accessors of the graphs. -/
namespace ServiceContainer

theorem Container.exists_of_build {world later : World} {blueprint : Blueprint} {options : Options}
    {observers : List Observer} {id : EngineId} {root : ScopeId}
    (built : build blueprint options observers world = .ok (id, root, later)) :
    ∃ engine, Engine.build blueprint options observers = .ok engine ∧
      later = ({ world with engines := world.engines ++ [engine] : World }.addScope
        world.engines.length none).2 := by
  unfold build at built
  cases made : Engine.build blueprint options observers with
  | error failure =>
    rw [made] at built
    cases built
  | ok engine =>
    rw [made] at built
    cases built
    exact ⟨engine, rfl, rfl⟩

theorem World.Sound.build {world later : World} {blueprint : Blueprint} {options : Options}
    {observers : List Observer} {id : EngineId} {root : ScopeId} (sound : world.Sound)
    (built : Container.build blueprint options observers world = .ok (id, root, later)) :
    later.Sound := by
  obtain ⟨engine, made, rfl⟩ := Container.exists_of_build built
  intro id found (listed : (world.engines ++ [engine])[id]? = some found)
  obtain old | new := List.mem_append.1 (List.mem_of_getElem? listed)
  · obtain ⟨place, listed⟩ := List.mem_iff_getElem?.1 old
    exact sound place found listed
  · cases List.mem_singleton.1 new
    exact (Engine.sound_of_build made).1

theorem World.Reachable.sound {world : World} (reached : world.Reachable) : world.Sound := by
  induction reached with
  | start metrics => exact fun id engine listed => by cases listed
  | build _ built sound => exact sound.build built
  | run _ ran sound => exact Container.sound_run sound ran
  | @graph world later id service result _ asked sound =>
    have same := Run.indifferent_onEngine id (Engine.indifferent_callSite service)
      (Engine.keeps_callSite service)
    exact (same world sound).2 (result, later) asked

namespace Container

/-- Builds a provider and runs a client of it and its root scope. -/
def serve (fuel : Nat) (blueprint : Blueprint) (options : Options) (observers : List Observer)
    (client : EngineId → ScopeId → Program α) (world : World) :
    Except Failure (Option (α × World)) := do
  let (id, root, world) ← build blueprint options observers world
  pure (run fuel (client id root) world)

theorem exists_of_serve {world later : World} {fuel : Nat} {blueprint : Blueprint}
    {options : Options} {observers : List Observer} {client : EngineId → ScopeId → Program α}
    {result : α}
    (served : serve fuel blueprint options observers client world = .ok (some (result, later))) :
    ∃ id root between, build blueprint options observers world = .ok (id, root, between) ∧
      run fuel (client id root) between = some (result, later) := by
  unfold serve at served
  cases built : build blueprint options observers world with
  | error failure =>
    rw [built] at served
    cases served
  | ok made =>
    obtain ⟨id, root, between⟩ := made
    rw [built] at served
    exact ⟨id, root, between, rfl, Except.ok.inj served⟩

theorem reachable_of_serve {world later : World} (reached : world.Reachable) {fuel : Nat}
    {blueprint : Blueprint} {options : Options} {observers : List Observer}
    {client : EngineId → ScopeId → Program α} {result : α}
    (served : serve fuel blueprint options observers client world = .ok (some (result, later))) :
    later.Reachable := by
  obtain ⟨_, _, _, built, ran⟩ := exists_of_serve served
  exact .run (.build reached built) ran

theorem build_plain (blueprint : Blueprint) (options : Options) (observers : List Observer)
    (world : World) :
    build blueprint (options.withMode .runtime) observers world.plain =
      (build blueprint options observers world).map fun built =>
        (built.1, built.2.1, built.2.2.plain) := by
  unfold build
  rw [Engine.plain_build]
  cases Engine.build blueprint options observers with
  | error failure => rfl
  | ok engine =>
    have length : world.plain.engines.length = world.engines.length := List.length_map _
    have added : world.plain.engines ++ [engine.plain] =
        (world.engines ++ [engine]).map Engine.plain := by simp [World.plain]
    change Except.ok (world.plain.engines.length, world.scopes.length,
      ({ world with engines := world.plain.engines ++ [engine.plain]
                    scopes := _ } : World)) = _
    rw [length, added]
    rfl

/-- A client is served in a plain world as in the world itself. -/
theorem serve_plain {world : World} (sound : world.Sound) (blueprint : Blueprint)
    (options : Options) (observers : List Observer) (fuel : Nat)
    (client : EngineId → ScopeId → Program α) :
    serve fuel blueprint (options.withMode .runtime) observers client world.plain =
      (serve fuel blueprint options observers client world).map
        (Option.map fun ended => (ended.1, ended.2.plain)) := by
  unfold serve
  rw [build_plain]
  cases built : build blueprint options observers world with
  | error failure => rfl
  | ok made =>
    obtain ⟨id, root, later⟩ := made
    exact congrArg Except.ok (run_plain fuel (client id root) (sound.build built))

/-- The same in all modes: the failure of the build, or else the client's result and the world it
leaves, with all caches, scopes, disposables and the journal of everything that happened. -/
theorem serve_withMode {world : World} (reached : world.Reachable) (blueprint : Blueprint)
    (options : Options) (observers : List Observer) (first second : Mode) (fuel : Nat)
    (client : EngineId → ScopeId → Program α) :
    (serve fuel blueprint (options.withMode first) observers client world).map
        (Option.map fun ended => (ended.1, ended.2.plain)) =
      (serve fuel blueprint (options.withMode second) observers client world).map
        (Option.map fun ended => (ended.1, ended.2.plain)) := by
  have one := serve_plain reached.sound blueprint (options.withMode first) observers fuel client
  have other := serve_plain reached.sound blueprint (options.withMode second) observers fuel client
  exact one.symm.trans other

/-- A singleton that a client resolves twice: interpreted both times, or compiled at the second. -/
theorem serve_withMode_twice :
    let info : TypeInfo := ⟨firstFreeTypeId, "T"⟩
    let made : Produced := { value := .object { type := info, text := "t" } }
    let once : Descriptor := ⟨.plain info, .singleton, .produced "T" fun _ => .done (.ok made)⟩
    let twice : EngineId → ScopeId → Program (Except Failure (Option Value)) := fun _ root => do
      let _ ← Program.request (.resolve root (.plain info))
      Program.request (.resolve root (.plain info))
    World.Reachable {} ∧
      (serve 1 { registry := ⟨[once]⟩ } (Options.withMode {} .runtime) [] twice {}).map
          (Option.map fun ended => (ended.1, ended.2.plain)) =
        (serve 1 { registry := ⟨[once]⟩ } (Options.withMode {} .dynamic) [] twice {}).map
          (Option.map fun ended => (ended.1, ended.2.plain)) :=
  ⟨.start [], serve_withMode (.start []) _ _ _ _ _ _ _⟩

end Container
end ServiceContainer
