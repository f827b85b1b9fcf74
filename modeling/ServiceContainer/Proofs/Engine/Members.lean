import ServiceContainer.Proofs.Engine.Factories
import ServiceContainer.Proofs.Engine.Wiring
import ServiceContainer.Proofs.Invocations

/-! Graphs of collections, in registries that register none themselves. Main statements: what an engine
has for a collection holds the graph of each registration of the element, in order; and a collection
of nothing can always be realized. -/
namespace ServiceContainer
open Blueprint Query

namespace Memo
variable {blueprint : Blueprint} {host : Host} {memo : Memo} {element : ServiceType}

section Items
variable (built : memo.Built blueprint) (spoken : memo.Spoken host) (speaks : host.Speaks element)
include built spoken speaks

theorem exists_yields {slot : Nat} {found : Option CallSite}
    (known : memo.lookup ⟨element, slot⟩ = some found) :
    ∃ target, blueprint.registry.Lists target ∧ target.key = ⟨element, slot⟩ ∧
      (blueprint.plan target).Yields memo.Records (.ok found) := by
  obtain ⟨⟨service, place⟩, same, listed⟩ := Table.mem_entries known
  obtain ⟨target, lists, keyed, yields⟩ := built.filed _ listed
  obtain ⟨services, rfl⟩ := CacheKey.beq_iff.1 same
  obtain rfl := Host.Speaks.eq (spoken _ listed) speaks services
  exact ⟨target, lists, keyed, yields⟩

variable (uncollected : blueprint.registry.Uncollected) (strange : element.own? = none)
include uncollected strange

theorem exists_item {position slot : Nat}
    (served : (position, slot) ∈ blueprint.registry.all element) {found : Option CallSite}
    (recorded : memo.Records (.member element position slot) found) :
    ∃ item, found = some item ∧
      blueprint.Assembles memo.Records (.member element position slot) item := by
  obtain ⟨target, lists, keyed, yields⟩ := exists_yields built spoken speaks recorded
  have planned : Yields memo.Records (blueprint.callSiteAt request element position slot)
      (.ok found) := by
    cases target with
    | member service other place =>
      cases keyed
      cases Registry.position_unique lists served
      exact yields
    | single service =>
      cases keyed
      have alone := uncollected.of_mem_all served
      simp only [plan, assemble, strange, alone, Registry.single_of_mem_all served] at yields
      exact yields
  obtain ⟨item, rfl⟩ := exists_callSite uncollected.definesTypes served planned
  exact ⟨item, rfl, assembles_of_callSiteAt (.member ..) planned⟩

theorem exists_items {found : Option CallSite}
    (known : memo.lookup ⟨.collection element, 0⟩ = some found) :
    ∃ items, found = some (.collect (collectionSite (.collection element) element) items) ∧
      List.Forall₂ (fun member item =>
          memo.Records (.member element member.1 member.2) (some item) ∧
            blueprint.Assembles memo.Records (.member element member.1 member.2) item)
        (blueprint.registry.all element) items := by
  have collection : host.Speaks (.collection element) := speaks
  obtain ⟨target, lists, keyed, yields⟩ := exists_yields built spoken collection known
  cases target with
  | member service position slot =>
    cases keyed
    cases uncollected.of_mem_all lists
  | single service =>
    cases keyed
    have own : (ServiceType.collection element).own? = none := rfl
    have inner : (ServiceType.collection element).element = some element := rfl
    simp only [plan, assemble, own, inner, Yields.map_ok_iff] at yields
    obtain ⟨_, collected, rfl⟩ := yields
    obtain ⟨_, members, same⟩ := Yields.bind_ok_iff.1 collected
    cases Yields.pure_iff.1 same
    obtain ⟨founds, answered, rfl⟩ := forall₂_of_collectMembers members
    have listed := (List.forall₂_and_left _ _).2 ⟨fun _ member => member, answered⟩
    refine ⟨_, rfl, forall₂_flatMap_toList listed fun member found answered => ?_⟩
    obtain ⟨served, recorded⟩ := answered
    obtain ⟨item, rfl, assembled⟩ :=
      exists_item built spoken speaks uncollected strange served recorded
    exact ⟨item, rfl, recorded, assembled⟩

end Items
end Memo

section Empty
variable {blueprint : Blueprint} {host : Host} {element : ServiceType}

theorem Blueprint.plan_of_unserved (unserved : blueprint.registry.all element = []) :
    blueprint.plan (.single (.collection element)) =
      .done (.ok (some (.collect (collectionSite (.collection element) element) []))) := by
  have own : (ServiceType.collection element).own? = none := rfl
  have inner : (ServiceType.collection element).element = some element := rfl
  simp only [plan, assemble, own, inner, collectCallSite, unserved]
  rfl

theorem Engine.grants_empty {engine : Engine} (service : ServiceType) (fromRoot : Bool) :
    engine.Grants (.collect (collectionSite service element) []) fromRoot := by
  refine fun _ => ⟨none, ?_, fun _ => rfl⟩
  rw [CallSite.verdict, CallSite.verdictAll, pure_bind]
  rfl

variable (describes : host.Describes blueprint) (speaks : host.Speaks element)
  (uncollected : blueprint.registry.Uncollected) (strange : element.own? = none)
  (unserved : blueprint.registry.all element = [])
include speaks uncollected strange unserved

/-- The graph of a collection of nothing is found, whatever is in the memo. -/
theorem Memo.Built.exists_located {memo : Memo} (built : memo.Built blueprint)
    (spoken : memo.Spoken host) :
    ∃ later, blueprint.Locates [] (.single (.collection element)) memo
      (some (.collect (collectionSite (.collection element) element) [])) later := by
  cases known : memo.lookup ⟨.collection element, 0⟩ with
  | some found =>
    obtain ⟨items, rfl, planned⟩ := Memo.exists_items built spoken speaks uncollected strange known
    rw [unserved] at planned
    cases planned
    exact ⟨memo, .known known⟩
  | none =>
    have planned : blueprint.Finds [.single (.collection element)]
        (.plan (blueprint.plan (.single (.collection element)))) memo
        (.ok (some (.collect (collectionSite (.collection element) element) []))) memo := by
      rw [plan_of_unserved unserved]
      exact .done _
    exact ⟨_, .built known rfl planned⟩

include describes

theorem Engine.Fluent.realize_empty {options : Options} {engine : Engine}
    (fluent : Fluent host blueprint options engine) :
    ∃ realization, ((Engine.realize (.collection element)).run engine).1 = .ok (some realization) ∧
      ((Engine.realize (.collection element)).run engine).2.memo.lookup ⟨.collection element, 0⟩ =
        some (some (.collect (collectionSite (.collection element) element) [])) := by
  have collection : host.Speaks (.collection element) := speaks
  obtain ⟨last, located⟩ :=
    fluent.built.exists_located speaks uncollected strange unserved fluent.spoken
  have free : ¬(CallSite.collect (collectionSite (.collection element) element) []).Captures := by
    intro captures
    rcases CallSite.captures_iff.1 captures with ⟨root, _⟩ | ⟨_, member, _⟩
    · cases root
    · cases member
  have follows : Follows (blueprint.Admits options) (request (.single (.collection element)))
      engine.memo (.ok (some _)) last :=
    follows_request_iff.2 ⟨located, by rintro _ ⟨⟩ _; exact free⟩
  cases realized : (Engine.realize (.collection element)).run engine with
  | mk result later =>
    obtain ⟨_, reached, refused⟩ := fluent.realize describes collection _ _ realized
    cases result with
    | error failure => exact absurd follows (refused failure rfl _ _)
    | ok found =>
      obtain ⟨outcome, related, again⟩ := reached found rfl
      obtain ⟨same, rfl⟩ := follows.unique admits_unique again
      cases same
      cases related with
      | some graph => exact ⟨_, rfl, Finds.recorded located⟩

end Empty
end ServiceContainer
