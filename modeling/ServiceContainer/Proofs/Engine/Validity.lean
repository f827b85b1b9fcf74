import ServiceContainer.Proofs.Engine.Learned

/-! Valid registrations: each has a graph that passes the checks. A registration makes graphs that
differ in their sites only, whatever it is asked for as. Main statement: if all exact registrations
are valid, every service that no open definition serves has a graph that passes, and so has the
collection of its registrations. -/
namespace ServiceContainer
open Stateful

namespace Blueprint
open Query
variable {blueprint : Blueprint} {answers : Target → Option CallSite → Prop}

/-- For whatever service, an exact registration makes a graph that differs in its site only. -/
theorem Furnishes.yields {descriptor : Descriptor} {location : CacheLocation}
    {children : List CallSite} (furnishes : blueprint.Furnishes answers descriptor location children)
    {position : Nat} (registered : blueprint.registry.descriptors[position]? = some descriptor)
    (service : ServiceType) (slot : Nat) :
    ∃ callSite, Yields answers (blueprint.callSiteAt request service position slot)
        (.ok (some callSite)) ∧
      callSite.site.location = location ∧ callSite.children = children := by
  unfold callSiteAt
  simp only [registered, callSiteOf]
  cases furnishes with
  | fixed implemented =>
    rw [implemented]
    exact ⟨_, Yields.pure_iff.2 rfl, rfl, rfl⟩
  | produced implemented =>
    rw [implemented]
    exact ⟨_, Yields.pure_iff.2 rfl, rfl, rfl⟩
  | @constructed type cast chosen parameters implemented selected =>
    have made : Yields answers
        (constructCallSite request (registeredSite descriptor service slot type.name)
          (blueprint.catalog.constructors type.id) cast)
        (.ok (.construct (registeredSite descriptor service slot type.name) chosen.activate cast
          children)) :=
      Yields.bind_ok_iff.2 ⟨_, selected, Yields.pure_iff.2 rfl⟩
    rw [implemented]
    exact ⟨_, Yields.map_ok_iff.2 ⟨_, made, rfl⟩, rfl, rfl⟩

/-- The target has a graph, unless nothing provides it, and the graph passes the checks. -/
def Passes (blueprint : Blueprint) (options : Options) (target : Target) : Prop :=
  ∃ found, blueprint.Builds target found ∧
    ∀ callSite ∈ found, Engine.judge options callSite = .ok ()

theorem Passes.of_registration {options : Options} {position : Nat} {descriptor : Descriptor}
    (registered : blueprint.registry.descriptors[position]? = some descriptor)
    (closed : descriptor.isOpenGeneric = false)
    (passes : blueprint.Passes options
      (.member descriptor.service position (blueprint.registry.slotOf position)))
    {target : Target} {service : ServiceType} {slot : Nat}
    (picked : blueprint.registry.Picks target service position slot) :
    blueprint.Passes options target := by
  obtain ⟨found, builds, judged⟩ := passes
  obtain ⟨callSite, rfl, furnishes⟩ := exists_furnished registered closed builds.yields
  obtain ⟨other, yields, location, children⟩ := furnishes.yields registered service slot
  refine ⟨some other, builds_of_yields ?_ fun _ _ _ graph => graph, ?_⟩
  · rw [picked.plan_eq]
    exact yields
  · rintro _ ⟨⟩
    exact Engine.judge_congr location.symm children.symm (judged callSite rfl)

theorem yields_collectMembers {element : ServiceType} {members : List (Nat × Nat)}
    (answered : ∀ member ∈ members, ∃ found, answers (.member element member.1 member.2) found) :
    ∃ items, Yields answers (collectMembers request element members) (.ok items) ∧
      ∀ item ∈ items, ∃ member ∈ members,
        answers (.member element member.1 member.2) (some item) := by
  induction members with
  | nil => exact ⟨[], Yields.pure_iff.2 rfl, by simp⟩
  | cons member rest ih =>
    obtain ⟨found, first⟩ := answered member List.mem_cons_self
    obtain ⟨others, gathered, graphs⟩ :=
      ih fun other listed => answered other (List.mem_cons_of_mem _ listed)
    refine ⟨found.toList ++ others, ?_, fun item listed => ?_⟩
    · rw [collectMembers]
      exact Yields.bind_ok_iff.2 ⟨found, Yields.request_iff.2 first,
        Yields.bind_ok_iff.2 ⟨others, gathered, Yields.pure_iff.2 rfl⟩⟩
    · obtain here | later := List.mem_append.1 listed
      · cases found with
        | none => cases here
        | some callSite =>
          cases List.mem_singleton.1 here
          exact ⟨member, List.mem_cons_self, first⟩
      · obtain ⟨other, inside, answer⟩ := graphs item later
        exact ⟨other, List.mem_cons_of_mem _ inside, answer⟩

/-- Every exact registration has a graph that passes the checks. -/
def Valid (blueprint : Blueprint) (options : Options) : Prop :=
  ∀ position descriptor, blueprint.registry.descriptors[position]? = some descriptor →
    descriptor.isOpenGeneric = false → blueprint.Passes options
      (.member descriptor.service position (blueprint.registry.slotOf position))

namespace Valid
variable {options : Options} {service : ServiceType} (valid : blueprint.Valid options)
  (foreign : blueprint.registry.Foreign) (unopened : blueprint.registry.openFor service = [])
include valid foreign unopened

theorem of_picks {position slot : Nat} (member : (position, slot) ∈ blueprint.registry.all service)
    {target : Target} (picked : blueprint.registry.Picks target service position slot) :
    blueprint.Passes options target := by
  obtain ⟨descriptor, registered, closed⟩ := foreign.uncollected.definesTypes.exact_of_mem_all unopened member
  exact .of_registration registered closed (valid position descriptor registered closed) picked

theorem single (alone : service.element = none) : blueprint.Passes options (.single service) := by
  cases provided : service.own? with
  | some own =>
    refine ⟨some (ownCallSite service own), builds_of_yields ?_ fun _ _ _ graph => graph, ?_⟩
    · simp only [plan, assemble, provided]
      exact Yields.pure_iff.2 rfl
    · rintro _ ⟨⟩
      exact Engine.judge_of_nowhere rfl (by rintro _ ⟨⟩)
  | none =>
    cases last : blueprint.registry.single service with
    | some position =>
      have member := Registry.mem_all_of_single last
      exact valid.of_picks foreign unopened member (.single provided alone last)
    | none =>
      refine ⟨none, builds_of_yields ?_ fun _ _ _ graph => graph, by rintro _ ⟨⟩⟩
      simp only [plan, assemble, provided, alone, last]
      exact Yields.pure_iff.2 rfl

/-- If no open definition serves a service, the collection of its registrations passes. -/
theorem collection : blueprint.Passes options (.single (.collection service)) := by
  have passes : ∀ member ∈ blueprint.registry.all service,
      blueprint.Passes options (.member service member.1 member.2) := fun member listed =>
    valid.of_picks foreign unopened listed (.member service member.1 member.2)
  have answered : ∀ member ∈ blueprint.registry.all service, ∃ found,
      blueprint.Builds (.member service member.1 member.2) found := fun member listed =>
    (passes member listed).imp fun _ passing => passing.1
  obtain ⟨items, gathered, graphs⟩ := yields_collectMembers answered
  refine ⟨some (.collect (collectionSite (.collection service) service) items),
    builds_of_yields ?_ fun _ _ _ graph => graph, ?_⟩
  · have provided : (ServiceType.collection service).own? = none := rfl
    simp only [plan, assemble, provided, ServiceType.element, collectCallSite]
    exact Yields.map_ok_iff.2
      ⟨_, Yields.bind_ok_iff.2 ⟨items, gathered, Yields.pure_iff.2 rfl⟩, rfl⟩
  · rintro _ ⟨⟩
    refine Engine.judge_of_nowhere rfl fun item listed => ?_
    obtain ⟨member, inside, builds⟩ := graphs item listed
    obtain ⟨found, again, judged⟩ := passes member inside
    exact judged item (builds.unique again)

end Valid
end Blueprint
end ServiceContainer
