import ServiceContainer.Proofs.CallSite.Answers

/-! The shape of graphs. A call site is one of the container's own, a collection of members, or
made as one registration says; `Assembles` has a case for each. Main statement: every graph that
a plan yields has such a shape, whose parts are the answers to the plan's questions. -/
namespace ServiceContainer

/-- A target stands for the registration at a position, in a slot of a service. -/
inductive Registry.Picks (registry : Registry) : Target → ServiceType → Nat → Nat → Prop where
  | member (service : ServiceType) (position slot : Nat) :
      registry.Picks (.member service position slot) service position slot
  | single {service : ServiceType} {position : Nat} (foreign : service.own? = none)
      (alone : service.element = none) (last : registry.single service = some position) :
      registry.Picks (.single service) service position 0

namespace Blueprint
open Query
variable {blueprint : Blueprint} {answers : Target → Option CallSite → Prop}

inductive Assembles (blueprint : Blueprint) (answers : Target → Option CallSite → Prop)
    (target : Target) : CallSite → Prop where
  | own {service : ServiceType} {own : OwnService} (asked : target = .single service)
      (provides : service.own? = some own) :
      Assembles blueprint answers target (ownCallSite service own)
  | collect {service element : ServiceType} {founds : List (Option CallSite)}
      (asked : target = .single service) (collection : service.element = some element)
      (answered : List.Forall₂ (fun member found => answers (.member element member.1 member.2) found)
        (blueprint.registry.all element) founds) :
      Assembles blueprint answers target
        (.collect (collectionSite service element) (founds.flatMap Option.toList))
  | fixed {service : ServiceType} {position slot : Nat} {descriptor : Descriptor} {name : String}
      {value : Value} (picked : blueprint.registry.Picks target service position slot)
      (registered : blueprint.registry.descriptors[position]? = some descriptor)
      (implemented : descriptor.implementation = .fixed name value) :
      Assembles blueprint answers target
        (.constant { registeredSite descriptor service slot name with location := .nowhere } value)
  | produced {service : ServiceType} {position slot : Nat} {descriptor : Descriptor} {name : String}
      {factory : ScopeId → Body} (picked : blueprint.registry.Picks target service position slot)
      (registered : blueprint.registry.descriptors[position]? = some descriptor)
      (implemented : descriptor.implementation = .produced name factory) :
      Assembles blueprint answers target
        (.factory (registeredSite descriptor service slot name) factory)
  | constructed {service : ServiceType} {position slot : Nat} {descriptor : Descriptor}
      {type : TypeInfo} {cast : Option InterfaceCast} {chosen : Constructor}
      {parameters : List CallSite}
      (picked : blueprint.registry.Picks target service position slot)
      (registered : blueprint.registry.descriptors[position]? = some descriptor)
      (implemented : descriptor.implementation = .constructed type cast)
      (listed : chosen ∈ blueprint.catalog.constructors type.id)
      (bound : List.Forall₂ (Binds answers) chosen.parameters parameters) :
      Assembles blueprint answers target
        (.construct (registeredSite descriptor service slot type.name) chosen.activate cast
          parameters)
  | opened {position slot : Nat} {descriptor : Descriptor} {definition closed : TypeInfo}
      {opened : TypeInfo} {arguments : List ServiceType} {chosen : Constructor}
      {parameters : List CallSite}
      (picked : blueprint.registry.Picks target (.generic closed definition arguments) position slot)
      (registered : blueprint.registry.descriptors[position]? = some descriptor)
      (implemented : descriptor.implementation = .openGeneric opened)
      (listed : chosen ∈ blueprint.catalog.constructors closed.id)
      (bound : List.Forall₂ (Binds answers) chosen.parameters parameters) :
      Assembles blueprint answers target
        (.construct (registeredSite descriptor (.generic closed definition arguments) slot closed.name)
          chosen.activate none parameters)

theorem exists_of_constructCallSite {site : Site} {constructors : List Constructor}
    {cast : Option InterfaceCast} {callSite : CallSite}
    (h : Yields answers (constructCallSite request site constructors cast) (.ok callSite)) :
    ∃ chosen ∈ constructors, ∃ parameters,
      List.Forall₂ (Binds answers) chosen.parameters parameters ∧
        callSite = .construct site chosen.activate cast parameters := by
  obtain ⟨choice, selected, h⟩ := Yields.bind_ok_iff.1 h
  cases Yields.pure_iff.1 h
  have found := Yields.of_select selected
  exact ⟨choice.1, found.1, choice.2, forall₂_of_bindParameters found.2, rfl⟩

theorem assembles_of_callSiteAt {target : Target} {service : ServiceType} {position slot : Nat}
    {callSite : CallSite} (picked : blueprint.registry.Picks target service position slot)
    (h : Yields answers (blueprint.callSiteAt request service position slot)
      (.ok (some callSite))) :
    blueprint.Assembles answers target callSite := by
  unfold callSiteAt at h
  cases registered : blueprint.registry.descriptors[position]? with
  | none =>
    rw [registered] at h
    cases Yields.pure_iff.1 h
  | some descriptor =>
    simp only [registered, callSiteOf] at h
    cases implemented : descriptor.implementation with
    | fixed name value =>
      rw [implemented] at h
      cases Yields.pure_iff.1 h
      exact .fixed picked registered implemented
    | produced name factory =>
      rw [implemented] at h
      cases Yields.pure_iff.1 h
      exact .produced picked registered implemented
    | constructed type cast =>
      simp only [implemented, Yields.map_ok_iff, Option.some.injEq] at h
      obtain ⟨_, constructed, rfl⟩ := h
      obtain ⟨chosen, listed, parameters, bound, rfl⟩ := exists_of_constructCallSite constructed
      exact .constructed picked registered implemented listed bound
    | openGeneric opened =>
      rw [implemented] at h
      cases service with
      | plain info => cases Yields.pure_iff.1 h
      | collection element => cases Yields.pure_iff.1 h
      | generic closed definition arguments =>
        simp only [Yields.map_ok_iff, Option.some.injEq] at h
        obtain ⟨_, constructed, rfl⟩ := h
        obtain ⟨chosen, listed, parameters, bound, rfl⟩ := exists_of_constructCallSite constructed
        exact .opened picked registered implemented listed bound

theorem assembles_of_plan {target : Target} {callSite : CallSite}
    (h : Yields answers (blueprint.plan target) (.ok (some callSite))) :
    blueprint.Assembles answers target callSite := by
  cases target with
  | member service position slot => exact assembles_of_callSiteAt (.member ..) h
  | single service =>
    simp only [plan, assemble] at h
    cases foreign : service.own? with
    | some own =>
      rw [foreign] at h
      cases Yields.pure_iff.1 h
      exact .own rfl foreign
    | none =>
      cases alone : service.element with
      | some element =>
        simp only [foreign, alone, Yields.map_ok_iff, Option.some.injEq] at h
        obtain ⟨_, collected, rfl⟩ := h
        obtain ⟨items, members, h⟩ := Yields.bind_ok_iff.1 collected
        cases Yields.pure_iff.1 h
        obtain ⟨founds, answered, rfl⟩ := forall₂_of_collectMembers members
        exact .collect rfl alone answered
      | none =>
        simp only [foreign, alone] at h
        cases last : blueprint.registry.single service with
        | none =>
          rw [last] at h
          cases Yields.pure_iff.1 h
        | some position =>
          rw [last] at h
          exact assembles_of_callSiteAt (.single foreign alone last) h

namespace Assembles
variable {target : Target} {callSite : CallSite}

theorem mono {others : Target → Option CallSite → Prop}
    (h : blueprint.Assembles answers target callSite)
    (more : ∀ asked found, answers asked found → others asked found) :
    blueprint.Assembles others target callSite := by
  cases h with
  | own asked provides => exact .own asked provides
  | collect asked collection answered =>
    exact .collect asked collection (answered.imp fun _ _ => more _ _)
  | fixed picked registered implemented => exact .fixed picked registered implemented
  | produced picked registered implemented => exact .produced picked registered implemented
  | constructed picked registered implemented listed bound =>
    exact .constructed picked registered implemented listed (bound.imp fun _ _ binds => binds.mono more)
  | opened picked registered implemented listed bound =>
    exact .opened picked registered implemented listed (bound.imp fun _ _ binds => binds.mono more)

theorem answers?_eq (h : blueprint.Assembles answers target callSite) :
    callSite.answers? = some target.key := by
  cases h with
  | own asked _ | collect asked _ _ =>
    subst asked
    rfl
  | fixed picked _ _ | produced picked _ _ | constructed picked _ _ _ _ | opened picked _ _ _ _ =>
    cases picked <;> rfl

/-- Every child is the answer to some question, or stands in for one that has none. -/
theorem child (h : blueprint.Assembles answers target callSite) :
    ∀ child ∈ callSite.children, (∃ asked, answers asked (some child)) ∨
      ∃ service value, child = fallbackCallSite service value ∧ answers (.single service) none := by
  have binds : ∀ {parameters : List Parameter} {callSites : List CallSite},
      List.Forall₂ (Binds answers) parameters callSites → ∀ child ∈ callSites,
        (∃ asked, answers asked (some child)) ∨
          ∃ service value, child = fallbackCallSite service value ∧
            answers (.single service) none := by
    intro parameters callSites bound
    induction bound with
    | nil => simp
    | cons binding _ ih =>
      rintro child (_ | ⟨_, member⟩)
      · cases binding with
        | found answered => exact .inl ⟨_, answered⟩
        | fallback unanswered _ => exact .inr ⟨_, _, rfl, unanswered⟩
      · exact ih child member
  cases h with
  | own _ _ | fixed _ _ _ | produced _ _ _ =>
    intro child member
    cases member
  | constructed _ _ _ _ bound | opened _ _ _ _ bound => exact binds bound
  | collect _ _ answered =>
    intro child member
    obtain ⟨found, listed, present⟩ := List.mem_flatMap.1 member
    obtain rfl : found = some child := Option.mem_toList.1 present
    clear member
    generalize blueprint.registry.all _ = members at answered
    induction answered with
    | nil => cases listed
    | cons first _ ih =>
      cases listed with
      | head => exact .inl ⟨_, first⟩
      | tail _ listed => exact ih listed

end Assembles
end Blueprint
end ServiceContainer
