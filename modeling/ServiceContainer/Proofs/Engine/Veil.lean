import ServiceContainer.Proofs.Engine.Plain
import ServiceContainer.Proofs.Engine.Validation

/-! Engines behind a veil, which hides who observes them, how they check lifetimes, or both. Main
statement: behind a veil an engine is built the same, and realizes the same, until it refuses
something for a lifetime that it does not check behind the veil. -/
namespace ServiceContainer
open Stateful

namespace Failure

def isLifetime : Failure → Bool
  | .invalidLifetimeCapture _ _ | .directScopedResolutionFromRoot _ _ => true
  | _ => false

def hasLifetime (failure : Failure) : Bool := failure.flatten.any isLifetime

theorem mem_flattenAll {cause failure : Failure} (listed : cause ∈ failure.flatten) :
    ∀ {failures : List Failure}, failure ∈ failures → cause ∈ flattenAll failures
  | _ :: _, member => by
    rw [flattenAll, List.mem_append]
    rcases List.mem_cons.1 member with rfl | later
    · exact .inl listed
    · exact .inr (mem_flattenAll listed later)

theorem flatten_of_isLifetime {failure : Failure} (broken : failure.isLifetime = true) :
    failure.flatten = [failure] := by
  cases failure with
  | invalidLifetimeCapture singleton dependency => rfl
  | directScopedResolutionFromRoot service dependency => rfl
  | _ => cases broken

theorem hasLifetime_aggregate {failures : List Failure} {cause : Failure}
    (listed : cause ∈ failures) (broken : cause.isLifetime = true) :
    (aggregate failures).hasLifetime = true := by
  have simple := flatten_of_isLifetime broken
  refine List.any_eq_true.2 ⟨cause, ?_, broken⟩
  exact mem_flattenAll (simple ▸ List.mem_singleton_self cause) listed

end Failure

def refused : Except Failure α → Bool
  | .ok _ => false
  | .error failure => failure.isLifetime

/-- What one does not look at in an engine: its observers if deaf, its lifetime checks if lax. -/
structure Veil where
  engine : EngineId
  deaf : Bool
  lax : Bool

namespace Veil

def options (veil : Veil) (options : Options) : Options :=
  if veil.lax then options.withValidateScopes false else options

def observers (veil : Veil) (observers : List Observer) : List Observer :=
  if veil.deaf then [] else observers

def verdicts (veil : Veil) (verdicts : Verdicts) : Verdicts :=
  if veil.lax then {} else verdicts

theorem validateScopes_options (veil : Veil) (options : Options) :
    (veil.options options).validateScopes = (options.validateScopes && !veil.lax) := by
  unfold Veil.options
  cases veil.lax <;> simp [Options.withValidateScopes]

theorem options_of_strict {veil : Veil} (strict : veil.lax = false) (options : Options) :
    veil.options options = options := by
  simp [Veil.options, strict]

theorem verdicts_of_strict {veil : Veil} (strict : veil.lax = false) (verdicts : Verdicts) :
    veil.verdicts verdicts = verdicts := by
  simp [Veil.verdicts, strict]

theorem validateOnBuild_options (veil : Veil) (options : Options) :
    (veil.options options).validateOnBuild = options.validateOnBuild := by
  unfold Veil.options
  cases veil.lax <;> rfl

theorem mode_options (veil : Veil) (options : Options) :
    (veil.options options).mode = options.mode := by
  unfold Veil.options
  cases veil.lax <;> rfl

end Veil

def Engine.behind (engine : Engine) (veil : Veil) : Engine :=
  { engine with
    options := veil.options engine.options
    observers := veil.observers engine.observers
    verdicts := veil.verdicts engine.verdicts }

def Judges (check : Check α) : Prop :=
  ∀ verdicts, (∃ value, (check.run verdicts).1 = .ok value) ∨
    refused (check.run verdicts).1 = true

namespace Judges

theorem pure (value : α) : Judges (Pure.pure value : Check α) := fun _ => .inl ⟨value, rfl⟩

theorem bind {first : Check α} {next : α → Check β} (judges : Judges first)
    (rest : ∀ value, Judges (next value)) : Judges (first >>= next) := by
  intro verdicts
  rw [run_bind]
  have before := judges verdicts
  cases ended : first.run verdicts with
  | mk result later =>
    rw [ended] at before
    cases result with
    | ok value => exact rest value later
    | error failure =>
      obtain ⟨_, absurd⟩ | refused := before
      · cases absurd
      · exact .inr refused

theorem verdict (site : Site) (beneath : Option String) :
    Judges (ExceptT.mk (Pure.pure (site.verdict beneath)) : Check (Option String)) := by
  intro verdicts
  rw [run_mk]
  cases judged : site.verdict beneath with
  | ok verdict => exact .inl ⟨verdict, rfl⟩
  | error failure =>
    obtain ⟨_, _, rfl⟩ := CallSite.verdict_of_site judged
    exact .inr rfl

theorem check {children : Check (Option String)} (judges : Judges children) (site : Site) :
    Judges (site.check children) := by
  intro verdicts
  rw [Site.check, run_get_bind]
  cases verdicts.lookup site.key with
  | some known => exact pure known verdicts
  | none =>
    refine bind judges (fun beneath => ?_) verdicts
    refine bind (verdict site beneath) fun found => ?_
    exact bind (fun _ => .inl ⟨(), rfl⟩) fun _ => pure found

end Judges

namespace CallSite

mutual
theorem judges_checkLifetimes : ∀ callSite : CallSite, Judges callSite.checkLifetimes
  | .construct site _ _ parameters => by
    rw [checkLifetimes]
    exact (judges_checkAll parameters).check site
  | .collect site items => by
    rw [checkLifetimes]
    exact (judges_checkAll items).check site
  | .constant site _ | .fallback site _ | .factory site _ | .own site _ => by
    rw [checkLifetimes]
    exact (Judges.pure none).check site
theorem judges_checkAll : ∀ callSites : List CallSite, Judges (checkAll callSites)
  | [] => by
    rw [checkAll]
    exact .pure none
  | callSite :: rest => by
    rw [checkAll]
    exact (judges_checkLifetimes callSite).bind fun _ =>
      (judges_checkAll rest).bind fun _ => .pure _
end

end CallSite

namespace Engine
variable {veil : Veil}

/-- An engine does the same behind the veil, unless a check that the veil hides refuses it. -/
def Spared (veil : Veil) (action : EngineAction α) : Prop :=
  ∀ engine : Engine,
    action.run (engine.behind veil) =
        ((action.run engine).1, (action.run engine).2.behind veil) ∨
      veil.lax = true ∧ refused (action.run engine).1 = true

theorem spared_of_commutes {action : EngineAction α}
    (same : Commutes (fun engine => engine.behind veil) action) : Spared veil action :=
  fun engine => .inl (same engine)

theorem spared_compositional : Compositional fun {_} action => Spared veil action where
  pure _ := spared_of_commutes fun _ => rfl
  throw _ := spared_of_commutes fun _ => rfl
  bind {_ _ first next} spared rest engine := by
    rw [run_bind, run_bind]
    rcases spared engine with same | ⟨lax, broken⟩
    · rw [same]
      cases first.run engine with
      | mk outcome later =>
        cases outcome with
        | ok value => exact rest value later
        | error failure => exact .inl rfl
    · cases ended : first.run engine with
      | mk outcome later =>
        rw [ended] at broken
        cases outcome with
        | ok value => cases broken
        | error failure => exact .inr ⟨lax, broken⟩

theorem spared_get {next : Engine → EngineAction α}
    (same : ∀ engine : Engine, next (engine.behind veil) = next engine)
    (rest : ∀ engine, Spared veil (next engine)) :
    Spared veil ((get : EngineAction Engine) >>= next) := by
  intro engine
  rw [run_get_bind, run_get_bind, same]
  exact rest engine engine

theorem spared_onMemo (build : Build α) : Spared veil (EngineAction.onMemo build) :=
  spared_of_commutes fun _ => rfl

theorem spared_callSite (service : ServiceType) : Spared veil (callSite service) :=
  spared_get (fun _ => rfl) fun _ => spared_onMemo _

/-- A check that is passed leaves no trace that could be seen behind the veil. -/
theorem spared_check (callSite : CallSite) (asked : Bool)
    {finish : Option String → EngineAction Unit}
    (settles : ∀ found, finish found = pure () ∨
      ∃ failure : Failure, finish found = throw failure ∧ failure.isLifetime = true) :
    Spared veil (do
      if (← get).options.validateScopes && asked then
        finish (← EngineAction.onVerdicts callSite.checkLifetimes)
      else pure ()) := by
  cases lax : veil.lax with
  | false =>
    refine spared_get (fun engine => ?_) fun engine => ?_
    · have same : (engine.behind veil).options = engine.options := Veil.options_of_strict lax _
      rw [same]
    · split
      · refine spared_compositional.bind (spared_of_commutes fun engine => ?_) fun found => ?_
        · rw [run_onVerdicts, run_onVerdicts]
          simp only [behind, Veil.verdicts_of_strict lax]
        · rcases settles found with passed | ⟨failure, failed, _⟩
          · exact passed ▸ spared_compositional.pure ()
          · exact failed ▸ spared_compositional.throw failure
      · exact spared_compositional.pure ()
  | true =>
    intro engine
    have unasked : (engine.behind veil).options.validateScopes = false := by
      have asked := veil.validateScopes_options engine.options
      rwa [lax, Bool.not_true, Bool.and_false] at asked
    have forgets (verdicts : Verdicts) :
        Engine.behind { engine with verdicts } veil = engine.behind veil := by
      simp [behind, Veil.verdicts, lax]
    rw [run_get_bind, run_get_bind, unasked]
    cases engine.options.validateScopes && asked with
    | false => exact .inl rfl
    | true =>
      have judged := callSite.judges_checkLifetimes engine.verdicts
      rw [if_pos rfl, run_bind, run_onVerdicts]
      generalize (callSite.checkLifetimes.run engine.verdicts).1 = result at judged ⊢
      cases result with
      | error failure =>
        obtain ⟨_, absurd⟩ | broken := judged
        · cases absurd
        · exact .inr ⟨lax, broken⟩
      | ok found =>
        dsimp only
        rcases settles found with passed | ⟨failure, failed, broken⟩
        · rw [passed]
          exact .inl (congrArg (Prod.mk (Except.ok ())) (forgets _).symm)
        · rw [failed]
          exact .inr ⟨lax, broken⟩

theorem spared_validateGraph (callSite : CallSite) : Spared veil (validateGraph callSite) := by
  have checked := @spared_check veil callSite true (fun _ => pure ()) fun _ => .inl rfl
  simp only [Bool.and_true] at checked
  exact checked

theorem spared_validateResolution (callSite : CallSite) (fromRoot : Bool) :
    Spared veil (validateResolution callSite fromRoot) := by
  refine spared_check callSite fromRoot fun found => ?_
  cases found with
  | none => exact .inl rfl
  | some dependency => exact .inr ⟨_, rfl, rfl⟩

theorem spared_realize (service : ServiceType) : Spared veil (realize service) := by
  refine spared_get (fun _ => rfl) fun engine => ?_
  cases engine.published.lookup service with
  | some known => exact spared_compositional.pure _
  | none =>
    refine spared_compositional.bind (spared_callSite service) fun found => ?_
    cases found with
    | none => exact spared_of_commutes fun _ => rfl
    | some callSite =>
      refine spared_compositional.bind (spared_validateGraph callSite) fun _ => ?_
      refine spared_of_commutes fun engine => ?_
      have announced : (engine.behind veil).withRealization service callSite =
          (engine.withRealization service callSite).behind veil := by
        simp only [withRealization, behind, veil.mode_options]
      exact congrArg (Prod.mk (Except.ok (some engine.realizations.length))) announced

theorem spared_prepare (implementation : TypeInfo) (supplied : List ServiceType) :
    Spared veil (prepare implementation supplied) := by
  refine spared_get (fun _ => rfl) fun engine => ?_
  refine spared_compositional.select (fun constructor _ => ?_) _
  exact bindSupplied_of spared_compositional.selective (fun _ _ => spared_realize _) supplied

theorem behind_nextPlan (id : Nat) (engine : Engine) :
    (nextPlan id).run (engine.behind veil) =
      (((nextPlan id).run engine).1, ((nextPlan id).run engine).2.behind veil) := by
  have same : (engine.behind veil).realizations = engine.realizations := rfl
  rw [run_nextPlan, run_nextPlan, same]
  cases engine.realizations[id]? <;> rfl

theorem spared_validateDescriptor (position : Nat) : Spared veil (validateDescriptor position) := by
  refine spared_get (fun _ => rfl) fun engine => ?_
  refine spared_compositional.bind (spared_onMemo _) fun found => ?_
  cases found with
  | none => exact spared_compositional.pure _
  | some callSite => exact spared_validateGraph callSite

theorem behind_collectFailures (position remaining : Nat) (engine : Engine) :
    (collectFailures position remaining).run (engine.behind veil) =
        (((collectFailures position remaining).run engine).1,
          ((collectFailures position remaining).run engine).2.behind veil) ∨
      veil.lax = true ∧
        ∃ failure ∈ ((collectFailures position remaining).run engine).1,
          failure.isLifetime = true := by
  induction remaining generalizing position engine with
  | zero => exact .inl rfl
  | succ remaining ih =>
    rw [run_collectFailures, run_collectFailures]
    have others := ih (position + 1) ((validateDescriptor position).run engine).2
    rcases spared_validateDescriptor position engine with same | ⟨lax, broken⟩
    · rw [same]
      dsimp only
      rcases others with same | ⟨lax, failure, listed, broken⟩
      · exact .inl (by rw [same])
      · refine .inr ⟨lax, failure, ?_, broken⟩
        cases ((validateDescriptor position).run engine).1 with
        | ok _ => exact listed
        | error other => exact List.mem_cons_of_mem _ listed
    · refine .inr ⟨lax, ?_⟩
      dsimp only
      cases ended : ((validateDescriptor position).run engine).1 with
      | ok _ =>
        rw [ended] at broken
        cases broken
      | error failure =>
        rw [ended] at broken
        exact ⟨failure, List.mem_cons_self, broken⟩

theorem behind_validateDescriptors (engine : Engine) :
    validateDescriptors.run (engine.behind veil) =
        ((validateDescriptors.run engine).1, (validateDescriptors.run engine).2.behind veil) ∨
      veil.lax = true ∧ ∃ failure,
        (validateDescriptors.run engine).1 = .error failure ∧ failure.hasLifetime = true := by
  have collected :=
    @behind_collectFailures veil 0 engine.blueprint.registry.descriptors.length engine
  cases ended : (collectFailures 0 engine.blueprint.registry.descriptors.length).run engine with
  | mk failures later =>
    rw [ended] at collected
    rw [run_validateDescriptors ended]
    rcases collected with same | ⟨lax, failure, listed, broken⟩
    · have again := @run_validateDescriptors (engine.behind veil) _ _ same
      exact .inl again
    · have some : failures.isEmpty = false := by
        cases failures with
        | nil => cases listed
        | cons _ _ => rfl
      refine .inr ⟨lax, .aggregate failures, ?_, Failure.hasLifetime_aggregate listed broken⟩
      rw [some]
      rfl

theorem behind_build (blueprint : Blueprint) (options : Options) (observers : List Observer) :
    build blueprint (veil.options options) (veil.observers observers) =
        (build blueprint options observers).map (·.behind veil) ∨
      veil.lax = true ∧ ∃ failure,
        build blueprint options observers = .error failure ∧ failure.hasLifetime = true := by
  have fresh : ({ blueprint, options := veil.options options
                  observers := veil.observers observers } : Engine) =
      Engine.behind { blueprint, options, observers } veil := by
    have none : veil.verdicts {} = {} := by
      unfold Veil.verdicts
      split <;> rfl
    simp only [behind, none]
  unfold build
  rw [veil.validateOnBuild_options, fresh]
  cases options.validateOnBuild with
  | false => exact .inl rfl
  | true =>
    rcases @behind_validateDescriptors veil { blueprint, options, observers } with
      same | ⟨lax, failure, failed, broken⟩
    · refine .inl ?_
      simp only [if_true, same]
      cases validateDescriptors.run { blueprint, options, observers } with
      | mk result later => cases result <;> rfl
    · refine .inr ⟨lax, failure, ?_, broken⟩
      simp only [if_true]
      cases ended : validateDescriptors.run { blueprint, options, observers } with
      | mk result later =>
        rw [ended] at failed
        obtain rfl : result = .error failure := failed
        rfl

end Engine
end ServiceContainer
