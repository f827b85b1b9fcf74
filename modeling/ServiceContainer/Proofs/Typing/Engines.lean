import ServiceContainer.Proofs.Engine.Validation
import ServiceContainer.Proofs.Typing.Graphs

/-! What the actions of engines give. They fail honestly, as no value takes part in them. Main
statements: a realization found for a service is of that service; a chosen constructor is listed, and
what it is bound to is fine for it. -/
namespace ServiceContainer
open Stateful

section Honest
variable {σ α β : Type}

def Candid (action : ExceptT Failure (StateM σ) α) : Prop :=
  ∀ state failure later, action.run state = (.error failure, later) → failure.Honest

theorem Failure.honest_refusal {failure : Failure} (refused : Constructor.Refusal failure) :
    failure.Honest := by
  cases refused <;> exact honest_of_flatten rfl (by simp) (by simp)

theorem Failure.honest_aggregate {failures : List Failure}
    (honest : ∀ failure ∈ failures, failure.Honest) : (Failure.aggregate failures).Honest := by
  change ∀ cause ∈ flattenAll failures, _
  induction failures with
  | nil => rintro _ ⟨⟩
  | cons failure rest ih =>
    intro cause member
    obtain here | there := List.mem_append.1 member
    · exact honest failure List.mem_cons_self cause here
    · exact ih (fun other listed => honest other (List.mem_cons_of_mem failure listed)) cause there

theorem Candid.bind {first : ExceptT Failure (StateM σ) α}
    {next : α → ExceptT Failure (StateM σ) β} (here : Candid first)
    (rest : ∀ value, Candid (next value)) : Candid (first >>= next) := by
  intro state failure last h
  obtain ⟨value, later, _, failed⟩ | ⟨other, failed, same⟩ := run_bind_eq h
  · exact rest value later failure last failed
  · cases same
    exact here state failure last failed

theorem candid_selective : Selective fun {_} (action : ExceptT Failure (StateM σ) _) =>
    Candid action where
  pure _ := by
    rintro _ _ _ ⟨⟩
  refuse _ refused := by
    rintro _ _ _ ⟨⟩
    exact Failure.honest_refusal refused
  bind := Candid.bind

theorem Blueprint.candid_buildWithin (blueprint : Blueprint) (fuel : Nat) (chain : Chain)
    (target : Target) : Candid (blueprint.buildWithin fuel chain target) := by
  have circular : ∀ path, (Failure.circular path).Honest :=
    fun path => Failure.honest_of_flatten rfl (by simp) (by simp)
  induction fuel generalizing chain target with
  | zero =>
    intro memo failure later h
    rw [run_buildWithin] at h
    split at h
    · cases h
    · split at h <;> cases h <;> exact circular _
  | succ fuel ih =>
    intro memo failure later h
    rw [run_buildWithin] at h
    split at h
    · cases h
    · split at h
      · cases h
        exact circular _
      · have assembled : Candid (blueprint.assemble
            (blueprint.buildWithin fuel (chain ++ [target.key])) target) :=
          assemble_of candid_selective fun asked _ => ih _ asked
        dsimp only at h
        split at h
        · cases h
        · rename_i failed
          cases h
          exact assembled _ _ _ failed

theorem Site.candid_check (site : Site) {children : Check (Option String)}
    (candid : Candid children) : Candid (site.check children) := by
  intro verdicts failure later h
  rw [Site.run_check] at h
  split at h
  · cases h
  · refine candid.bind (fun beneath => Candid.bind ?_ fun verdict => ?_) _ _ _ h
    · intro state failure later judged
      obtain ⟨_, _, rfl⟩ := CallSite.verdict_of_site (congrArg Prod.fst judged)
      exact Failure.honest_of_flatten rfl (by simp) (by simp)
    · rintro _ _ _ ⟨⟩

namespace CallSite

theorem candid_checkNone : Candid (checkAll []) := by
  rw [checkAll]
  exact candid_selective.pure none

mutual
theorem candid_checkLifetimes : ∀ callSite : CallSite, Candid callSite.checkLifetimes
  | .construct site activate cast parameters => by
    rw [checkLifetimes_eq]
    exact site.candid_check (candid_checkAll parameters)
  | .collect site items => by
    rw [checkLifetimes_eq]
    exact site.candid_check (candid_checkAll items)
  | .constant site value | .fallback site value | .factory site body | .own site service => by
    rw [checkLifetimes_eq]
    exact site.candid_check candid_checkNone
theorem candid_checkAll : ∀ callSites : List CallSite, Candid (checkAll callSites)
  | [] => candid_checkNone
  | callSite :: rest => by
    rw [checkAll]
    exact (candid_checkLifetimes callSite).bind fun _ =>
      (candid_checkAll rest).bind fun _ => candid_selective.pure _
end

end CallSite

namespace Engine

theorem candid_get {next : Engine → EngineAction α} (candid : ∀ engine, Candid (next engine)) :
    Candid ((get : EngineAction Engine) >>= next) :=
  fun engine => candid engine engine

theorem candid_onMemo {build : Build α} (candid : Candid build) :
    Candid (EngineAction.onMemo build) := by
  intro engine failure later h
  have failed : (build.run engine.memo).1 = .error failure := congrArg Prod.fst h
  exact candid engine.memo failure (build.run engine.memo).2 (Prod.ext failed rfl)

theorem candid_onVerdicts {check : Check α} (candid : Candid check) :
    Candid (EngineAction.onVerdicts check) := by
  intro engine failure later h
  have failed : (check.run engine.verdicts).1 = .error failure := congrArg Prod.fst h
  exact candid engine.verdicts failure (check.run engine.verdicts).2 (Prod.ext failed rfl)

theorem candid_validateGraph (callSite : CallSite) : Candid (validateGraph callSite) := by
  refine candid_get fun engine => ?_
  split
  · exact (candid_onVerdicts callSite.candid_checkLifetimes).bind fun _ => candid_selective.pure _
  · exact candid_selective.pure _

theorem candid_validateResolution (callSite : CallSite) (fromRoot : Bool) :
    Candid (validateResolution callSite fromRoot) := by
  refine candid_get fun engine => ?_
  split
  · refine (candid_onVerdicts callSite.candid_checkLifetimes).bind fun found => ?_
    cases found with
    | none => exact candid_selective.pure _
    | some dependency =>
      rintro _ _ _ ⟨⟩
      exact Failure.honest_of_flatten rfl (by simp) (by simp)
  · exact candid_selective.pure _

theorem candid_callSite (service : ServiceType) : Candid (callSite service) :=
  candid_get fun engine => candid_onMemo (engine.blueprint.candid_buildWithin _ _ _)

theorem candid_validateDescriptor (position : Nat) : Candid (validateDescriptor position) := by
  refine candid_get fun engine => Candid.bind ?_ fun found => ?_
  · refine candid_onMemo ?_
    obtain absent | ⟨descriptor, _, _, builds⟩ :=
      engine.blueprint.callSiteForDescriptor_cases position
    · rw [absent]
      exact candid_selective.pure none
    · rw [builds]
      exact engine.blueprint.candid_buildWithin _ _ _
  · cases found with
    | none => exact candid_selective.pure _
    | some callSite => exact candid_validateGraph callSite

theorem honest_collectFailures (position remaining : Nat) (engine : Engine) :
    ∀ failure ∈ ((collectFailures position remaining).run engine).1, failure.Honest := by
  induction remaining generalizing position engine with
  | zero => rintro _ ⟨⟩
  | succ remaining ih =>
    rw [run_collectFailures]
    cases ended : (validateDescriptor position).run engine with
    | mk checked later =>
      cases checked with
      | ok _ => exact ih (position + 1) later
      | error failure =>
        rintro other (_ | ⟨_, member⟩)
        · exact candid_validateDescriptor position engine failure later ended
        · exact ih (position + 1) later other member

theorem honest_of_build {blueprint : Blueprint} {options : Options} {observers : List Observer}
    {failure : Failure} (failed : build blueprint options observers = .error failure) :
    failure.Honest := by
  unfold build at failed
  dsimp only at failed
  split at failed
  · cases collected : (collectFailures 0 blueprint.registry.descriptors.length).run
        { blueprint, options, observers } with
    | mk failures later =>
      have honest := honest_collectFailures 0 blueprint.registry.descriptors.length
        { blueprint, options, observers }
      rw [collected] at honest
      rw [run_validateDescriptors collected] at failed
      split at failed
      · cases failed
      · rename_i ended
        split at ended <;> cases ended
        cases failed
        exact Failure.honest_aggregate honest
  · cases failed

theorem candid_realize (service : ServiceType) : Candid (realize service) := by
  refine candid_get fun engine => ?_
  cases engine.published.lookup service with
  | some known => exact candid_selective.pure _
  | none =>
    refine (candid_callSite service).bind fun found => ?_
    cases found with
    | some callSite =>
      refine (candid_validateGraph callSite).bind fun _ => candid_get fun engine => ?_
      rintro _ _ _ ⟨⟩
    | none => rintro _ _ _ ⟨⟩

end Engine
end Honest

namespace Engine
variable {engine later : Engine} {service : ServiceType} {number : Nat}

def Serves (engine : Engine) (number : Nat) (service : ServiceType) : Prop :=
  ∃ callSite, (engine.realizations[number]?).map (·.callSite) = some callSite ∧
    (callSite.site.service == service) = true

theorem Serves.mono (serves : engine.Serves number service)
    (grown : engine.realizations.map (·.callSite) <+: later.realizations.map (·.callSite)) :
    later.Serves number service := by
  obtain ⟨callSite, listed, same⟩ := serves
  refine ⟨callSite, ?_, same⟩
  rw [← List.getElem?_map] at listed ⊢
  exact getElem?_mono grown listed

/-- However the action ends, the engine has learned; its result is good, or its failure honest. -/
def Gives (good : Engine → α → Prop) (engine : Engine) (action : EngineAction α) : Prop :=
  ∀ result later, action.run engine = (result, later) →
    (later.Sound ∧ engine.Extends later) ∧ Honestly (good later) result

namespace Gives
variable {good : Engine → α → Prop} {fine : Engine → β → Prop}

theorem pure {value : α} (sound : engine.Sound) (holds : good engine value) :
    Gives good engine (Pure.pure value) := by
  rintro _ _ ⟨⟩
  exact ⟨⟨sound, .refl engine⟩, holds⟩

theorem throw {failure : Failure} (sound : engine.Sound) (honest : failure.Honest) :
    Gives good engine (MonadExcept.throw failure) := by
  rintro _ _ ⟨⟩
  exact ⟨⟨sound, .refl engine⟩, honest⟩

theorem bind {first : EngineAction α} {next : α → EngineAction β} (here : Gives good engine first)
    (rest : ∀ value later, later.Sound → engine.Extends later → good later value →
      Gives fine later (next value)) : Gives fine engine (first >>= next) := by
  intro result last h
  obtain ⟨value, later, ran, ended⟩ | ⟨failure, failed, rfl⟩ := run_bind_eq h
  · obtain ⟨⟨sound, grown⟩, holds⟩ := here _ later ran
    obtain ⟨⟨after, further⟩, ends⟩ := rest value later sound grown holds result last ended
    exact ⟨⟨after, grown.trans further⟩, ends⟩
  · exact here _ last failed

end Gives

theorem gives_realize (sound : engine.Sound) (service : ServiceType) :
    Gives (fun later found => ∀ number ∈ found, later.Serves number service) engine
      (realize service) := by
  intro result later h
  obtain ⟨kept, published⟩ := sound.realize h
  refine ⟨kept, ?_⟩
  cases result with
  | error failure => exact candid_realize service engine failure later h
  | ok found =>
    rintro number ⟨⟩
    obtain ⟨realized, listed, recorded⟩ := kept.1.provided service number (published _ rfl)
    exact ⟨realized.callSite, by rw [listed]; rfl, kept.1.memo.makes recorded⟩

section Selection
variable {β : Type} {fine : Constructor → Engine → β → Prop}
  {bind : Constructor → EngineAction (Binding β)} {constructors : List Constructor}

def Bound (fine : Constructor → Engine → β → Prop) (constructor : Constructor) (engine : Engine) :
    Binding β → Prop
  | .bound result => fine constructor engine result
  | .missing _ => True

variable (lasting : ∀ constructor engine later result, fine constructor engine result →
    engine.Extends later → fine constructor later result)
  (binds : ∀ constructor ∈ constructors, ∀ later, later.Sound → engine.Extends later →
    Gives (Bound fine constructor) later (bind constructor))
include lasting binds

theorem gives_bindEach (sound : engine.Sound) (missing : Option String) :
    Gives (fun later found => ∀ choice ∈ found.1,
      choice.1 ∈ constructors ∧ fine choice.1 later choice.2) engine
      (Constructor.bindEach bind missing constructors) := by
  induction constructors generalizing engine missing with
  | nil => exact .pure sound (by simp)
  | cons constructor rest ih =>
    rw [Constructor.bindEach]
    refine (binds constructor List.mem_cons_self engine sound (.refl engine)).bind
      fun binding later sound grown holds => ?_
    have others := fun missing => ih (fun other member last after further =>
      binds other (List.mem_cons_of_mem _ member) last after (grown.trans further)) sound missing
    cases binding with
    | missing parameter =>
      intro result last ran
      obtain ⟨kept, ended⟩ := others _ result last ran
      exact ⟨kept, ended.mono fun found each choice member =>
        ⟨List.mem_cons_of_mem _ (each choice member).1, (each choice member).2⟩⟩
    | bound result =>
      refine (others missing).bind fun found last sound further each => .pure sound ?_
      rintro choice (_ | ⟨_, member⟩)
      · exact ⟨List.mem_cons_self, lasting _ _ _ _ holds further⟩
      · exact ⟨List.mem_cons_of_mem _ (each choice member).1, (each choice member).2⟩

theorem gives_selectAt (sound : engine.Sound) (implementation : String) (arity : Nat)
    (missing : Option String) :
    Gives (fun later found => ∀ choice ∈ found.1,
      choice.1 ∈ constructors ∧ fine choice.1 later choice.2) engine
      (Constructor.selectAt implementation constructors bind arity missing) := by
  have among : ∀ constructor ∈ constructors.filter (·.arity == arity), ∀ later, later.Sound →
      engine.Extends later → Gives (Bound fine constructor) later (bind constructor) :=
    fun constructor member => binds constructor (List.mem_filter.1 member).1
  have each := gives_bindEach lasting among sound missing
  refine each.bind fun found later sound _ holds => ?_
  have settles : Gives (fun _ chosen => ∀ choice ∈ chosen, choice ∈ found.1) later
      (ExceptT.mk (Pure.pure (Constructor.settle implementation arity found.1))) := by
    rintro result _ ⟨⟩
    refine ⟨⟨sound, .refl later⟩, ?_⟩
    cases settled : Constructor.settle implementation arity found.1 with
    | error failure =>
      refine candid_selective.settle implementation arity found.1 later failure later ?_
      rw [settled]
      rfl
    | ok chosen =>
      rintro choice ⟨⟩
      exact Query.Yields.settle_ok settled
  refine settles.bind fun chosen last sound grown listed => .pure sound fun choice member => ?_
  obtain ⟨member, holds⟩ := holds choice (listed choice member)
  exact ⟨(List.mem_filter.1 member).1, lasting _ _ _ _ holds grown⟩

theorem gives_selectBelow (sound : engine.Sound) (implementation : String)
    (missing : Option String) (bound : Nat) :
    Gives (fun later choice => choice.1 ∈ constructors ∧ fine choice.1 later choice.2) engine
      (Constructor.selectBelow implementation constructors bind missing bound) := by
  induction bound generalizing engine missing with
  | zero => exact .throw sound (Failure.honest_refusal (.unresolvable ..))
  | succ arity ih =>
    rw [Constructor.selectBelow]
    refine (gives_selectAt lasting binds sound implementation arity missing).bind
      fun found later sound grown holds => ?_
    obtain ⟨chosen, missing⟩ := found
    cases chosen with
    | none =>
      exact ih (fun constructor member last after further =>
        binds constructor member last after (grown.trans further)) sound missing
    | some chosen => exact .pure sound (holds chosen rfl)

theorem gives_select (sound : engine.Sound) (implementation : String) :
    Gives (fun later choice => choice.1 ∈ constructors ∧ fine choice.1 later choice.2) engine
      (Constructor.select implementation constructors bind) := by
  unfold Constructor.select
  cases found : constructors.find? (·.preferred) with
  | none => exact gives_selectBelow lasting binds sound implementation none _
  | some preferred =>
    have listed := List.mem_of_find?_eq_some found
    refine (binds preferred listed engine sound (.refl engine)).bind
      fun binding later sound grown holds => ?_
    cases binding with
    | bound result => exact .pure sound ⟨listed, holds⟩
    | missing parameter => exact .throw sound (Failure.honest_refusal (.unresolvable ..))

end Selection
end Engine

variable [Interfaces]

/-- The argument is of the service, if realizations serve what they are said to serve. -/
inductive ArgumentSource.Suits (serves : Nat → ServiceType → Prop) (supplied : List ServiceType)
    (service : ServiceType) : ArgumentSource → Prop where
  | supplied {position : Nat} {given : ServiceType} (listed : supplied[position]? = some given)
      (same : (given == service) = true) : Suits serves supplied service (.supplied position)
  | service {realization : Nat} (served : serves realization service) :
      Suits serves supplied service (.service realization)
  | fallback {value : Value} (fits : value.Fits service) :
      Suits serves supplied service (.fallback value)

namespace ArgumentSource
variable {serves others : Nat → ServiceType → Prop} {supplied services : List ServiceType}

theorem Suits.mono {service : ServiceType} {source : ArgumentSource}
    (suits : source.Suits serves supplied service)
    (more : ∀ realization service, serves realization service → others realization service) :
    source.Suits others supplied service := by
  cases suits with
  | supplied listed same => exact .supplied listed same
  | service served => exact .service (more _ _ served)
  | fallback fits => exact .fallback fits

def Furnish (serves : Nat → ServiceType → Prop) (supplied : List ServiceType)
    (sources : List ArgumentSource) (services : List ServiceType) : Prop :=
  List.Forall₂ (fun source service => source.Suits serves supplied service) sources services

theorem Furnish.mono {sources : List ArgumentSource}
    (furnish : Furnish serves supplied sources services)
    (more : ∀ realization service, serves realization service → others realization service) :
    Furnish others supplied sources services :=
  List.Forall₂.imp (fun _ _ suits => suits.mono more) furnish

end ArgumentSource

end ServiceContainer
