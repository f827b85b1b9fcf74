import ServiceContainer.Proofs.CallSite.Keys
import ServiceContainer.Proofs.Service.Host

/-! Graphs with one instance key. Answers about graphs are remembered by their instance keys, which a
call site of the container's own, a collection or a default may share with a registration's. Main
statement: if no generic type is one of the container's own, graphs with one key are kept at one
place and have the same children. -/
namespace ServiceContainer
open Blueprint Query

/-- None of the container's own types is generic, as far as graphs were asked for. -/
def Memo.Lawful (memo : Memo) : Prop :=
  ∀ closed definition arguments slot,
    memo.lookup ⟨.generic closed definition arguments, slot⟩ ≠ none →
      OwnService.ofId? closed.id = none

theorem Memo.Lawful.of_grows {memo later : Memo} (lawful : later.Lawful) (grows : memo.Grows later) :
    memo.Lawful := by
  intro closed definition arguments slot known
  obtain ⟨found, recorded⟩ := Option.ne_none_iff_exists'.1 known
  refine lawful closed definition arguments slot ?_
  rw [grows _ _ recorded]
  exact Option.some_ne_none found

theorem Registry.Picks.plan_eq {blueprint : Blueprint} {target : Target} {service : ServiceType}
    {position slot : Nat} (picked : blueprint.registry.Picks target service position slot) :
    blueprint.plan target = blueprint.callSiteAt request service position slot := by
  cases picked with
  | member => rfl
  | single foreign alone last => simp only [plan, assemble, foreign, alone, last]

namespace Blueprint
variable {blueprint : Blueprint} {answers : Target → Option CallSite → Prop}

/-- An exact registration makes graphs that are kept at the place and have the children. -/
inductive Furnishes (blueprint : Blueprint) (answers : Target → Option CallSite → Prop)
    (descriptor : Descriptor) : CacheLocation → List CallSite → Prop where
  | fixed {name : String} {value : Value}
      (implemented : descriptor.implementation = .fixed name value) :
      Furnishes blueprint answers descriptor .nowhere []
  | produced {name : String} {factory : ScopeId → Body}
      (implemented : descriptor.implementation = .produced name factory) :
      Furnishes blueprint answers descriptor descriptor.lifetime.location []
  | constructed {type : TypeInfo} {cast : Option InterfaceCast} {chosen : Constructor}
      {parameters : List CallSite}
      (implemented : descriptor.implementation = .constructed type cast)
      (selected : Yields answers (Constructor.select type.name
        (blueprint.catalog.constructors type.id) fun constructor =>
          bindParameters request constructor.parameters) (.ok (chosen, parameters))) :
      Furnishes blueprint answers descriptor descriptor.lifetime.location parameters

theorem Furnishes.unique {descriptor : Descriptor} {location place : CacheLocation}
    {children others : List CallSite}
    (functional : ∀ target one another, answers target one → answers target another →
      one = another) (one : blueprint.Furnishes answers descriptor location children)
    (two : blueprint.Furnishes answers descriptor place others) :
    location = place ∧ children = others := by
  cases one with
  | fixed implemented | produced implemented =>
    cases two with
    | fixed again | produced again | constructed again _ =>
      cases implemented.symm.trans again <;> exact ⟨rfl, rfl⟩
  | constructed implemented selected =>
    cases two with
    | fixed again | produced again => cases implemented.symm.trans again
    | constructed again other =>
      cases implemented.symm.trans again
      cases selected.unique functional other
      exact ⟨rfl, rfl⟩

/-- An exact registration always makes a graph, the same for every service but for the site. -/
theorem exists_furnished {service : ServiceType} {position slot : Nat} {descriptor : Descriptor}
    {found : Option CallSite}
    (registered : blueprint.registry.descriptors[position]? = some descriptor)
    (closed : descriptor.isOpenGeneric = false)
    (yields : Yields answers (blueprint.callSiteAt request service position slot) (.ok found)) :
    ∃ callSite, found = some callSite ∧
      blueprint.Furnishes answers descriptor callSite.site.location callSite.children := by
  unfold callSiteAt at yields
  simp only [registered, callSiteOf] at yields
  cases implemented : descriptor.implementation with
  | fixed name value =>
    rw [implemented] at yields
    cases Yields.pure_iff.1 yields
    exact ⟨_, rfl, .fixed implemented⟩
  | produced name factory =>
    rw [implemented] at yields
    cases Yields.pure_iff.1 yields
    exact ⟨_, rfl, .produced implemented⟩
  | constructed type cast =>
    simp only [implemented, Yields.map_ok_iff] at yields
    obtain ⟨callSite, constructed, rfl⟩ := yields
    obtain ⟨⟨chosen, parameters⟩, selected, made⟩ := Yields.bind_ok_iff.1 constructed
    cases Yields.pure_iff.1 made
    exact ⟨_, rfl, .constructed implemented selected⟩
  | openGeneric opened => simp [Descriptor.isOpenGeneric, implemented] at closed

end Blueprint

namespace Memo
variable {blueprint : Blueprint} {memo : Memo} {callSite another : CallSite}

theorem Records.unique {target : Target} {one another : Option CallSite}
    (first : memo.Records target one) (second : memo.Records target another) : one = another :=
  Option.some.inj (first.symm.trans second)

def Derives (blueprint : Blueprint) (memo : Memo) (position : Nat) (service : ServiceType)
    (callSite : CallSite) : Prop :=
  ∃ target slot, blueprint.registry.Lists target ∧
    blueprint.registry.Picks target service position slot ∧
      (blueprint.plan target).Yields memo.Records (.ok (some callSite)) ∧
        memo.Records target (some callSite)

theorem Derives.plans {position : Nat} {service : ServiceType}
    (derived : memo.Derives blueprint position service callSite) :
    memo.Plans blueprint position service callSite := by
  obtain ⟨target, slot, lists, picked, yields, recorded⟩ := derived
  exact ⟨target, slot, lists, picked, assembles_of_plan yields, recorded⟩

/-- A held graph is a registration's, or it is kept nowhere and answers for its own key: as the
container's own or a collection, or without children as the default of what has no answer. -/
inductive Founded (blueprint : Blueprint) (memo : Memo) (callSite : CallSite) : Prop where
  | derived {position : Nat} {service : ServiceType}
      (derives : memo.Derives blueprint position service callSite)
  | own (unkept : callSite.site.location = .nowhere)
      (recorded : memo.lookup callSite.site.key = some (some callSite))
  | fallback (unkept : callSite.site.location = .nowhere) (childless : callSite.children = [])
      (unanswered : memo.lookup callSite.site.key = some none)

theorem Holds.founded (held : memo.Holds callSite) (sound : Sound blueprint memo) :
    memo.Founded blueprint callSite := by
  obtain ⟨key, known⟩ | ⟨service, value, rfl, unanswered⟩ := held
  · obtain ⟨target, lists, same, yields⟩ := sound key _ known
    have recorded : memo.Records target (some callSite) := (memo.lookup_congr same).trans known
    cases assembles_of_plan yields with
    | own asked _ | collect asked _ _ =>
      subst asked
      exact .own rfl recorded
    | fixed picked _ _ | produced picked _ _ | constructed picked _ _ _ _ | opened picked _ _ _ _ =>
      exact .derived ⟨target, _, lists, picked, yields, recorded⟩
  · exact .fallback rfl rfl unanswered

/-- What the memo knows of a plain service is, in the slot of an exact registration, that one's. -/
theorem derives_of_plain (sound : Sound blueprint memo) {position slot : Nat}
    {descriptor : Descriptor} {info : TypeInfo}
    (registered : blueprint.registry.descriptors[position]? = some descriptor)
    (closed : descriptor.isOpenGeneric = false)
    (filed : (descriptor.service.canonical == .plain info) = true)
    (placed : blueprint.registry.slotOf position = slot)
    (foreign : OwnService.ofId? info.id = none) {key : CacheKey}
    (same : (key == ⟨.plain info, slot⟩) = true) {found : Option CallSite}
    (known : memo.lookup key = some found) :
    ∃ other service, found = some other ∧ memo.Derives blueprint position service other := by
  obtain ⟨target, lists, keyed, yields⟩ := sound key found known
  have recorded : memo.Records target found := (memo.lookup_congr keyed).trans known
  have served : ∀ {named : TypeInfo}, (ServiceType.plain named == .plain info) = true →
      (position, slot) ∈ blueprint.registry.all (.plain named) := by
    intro named equal
    have filed : (descriptor.service.canonical == (ServiceType.plain named).canonical) = true :=
      BEq.trans filed (BEq.symm equal)
    have place := (Registry.slotOf_eq_iff registered closed).1 placed
    rw [Registry.exactFor_congr filed] at place
    rw [Registry.mem_all, Registry.served,
      List.getElem?_append_left (List.getElem?_eq_some_iff.1 place).1]
    exact place
  obtain ⟨service, picked⟩ : ∃ service, blueprint.registry.Picks target service position slot := by
    obtain ⟨services, slots⟩ := CacheKey.beq_iff.1 (BEq.trans keyed same)
    cases target with
    | single service =>
      cases service with
      | generic _ _ _ | collection _ => cases services
      | plain named =>
        have first : 0 = slot := slots
        subst first
        have ids : named.id = info.id := eq_of_beq services
        have strange : (ServiceType.plain named).own? = none := by
          rw [← foreign, ← ids]
          rfl
        exact ⟨_, .single strange rfl (Registry.single_of_mem_all (served services))⟩
    | member service place last =>
      cases service with
      | generic _ _ _ | collection _ => cases services
      | plain named =>
        have equal : last = slot := slots
        subst equal
        cases Registry.position_unique lists (served services)
        exact ⟨_, .member _ _ _⟩
  rw [picked.plan_eq] at yields
  obtain ⟨other, rfl, _⟩ := exists_furnished registered closed yields
  rw [← picked.plan_eq] at yields
  exact ⟨other, service, rfl, target, slot, lists, picked, yields, recorded⟩

section Registered
variable {position second : Nat} {service other : ServiceType}

theorem Derives.known (derived : memo.Derives blueprint position service callSite)
    (sound : Sound blueprint memo) (lawful : memo.Lawful) {key : CacheKey}
    (same : (key == callSite.site.key) = true) {found : Option CallSite}
    (known : memo.lookup key = some found) :
    ∃ other service, found = some other ∧ memo.Derives blueprint position service other := by
  obtain ⟨descriptor, slot, filed, _⟩ := derived.plans.filed
  have mine : (key == ⟨service, slot⟩) = true → ∃ other service, found = some other ∧
      memo.Derives blueprint position service other := by
    intro equal
    cases (memo.lookup_congr equal).symm.trans known |>.symm.trans filed.known
    exact ⟨callSite, service, rfl, derived⟩
  rw [filed.key, instanceKey] at same
  by_cases opened : descriptor.isOpenGeneric = true
  · rw [if_pos opened] at same
    exact mine same
  · have closed : descriptor.isOpenGeneric = false := Bool.not_eq_true _ ▸ opened
    rw [if_neg opened] at same
    obtain ⟨canonical, placed⟩ := Registry.slot_of_exact filed.registered closed filed.served
    have keyed : (key == ⟨service.canonical, slot⟩) = true := by
      obtain ⟨services, slots⟩ := CacheKey.beq_iff.1 same
      exact CacheKey.beq_iff.2 ⟨BEq.trans services canonical, slots⟩
    cases service with
    | plain _ | collection _ => exact mine keyed
    | generic closedType definition arguments =>
      have foreign := lawful closedType definition arguments slot (by simp [filed.known])
      exact derives_of_plain sound filed.registered closed canonical placed foreign keyed known

theorem Derives.congr (derived : memo.Derives blueprint position service callSite)
    (again : memo.Derives blueprint second other another)
    (same : (callSite.site.key == another.site.key) = true) :
    callSite.site.location = another.site.location ∧ callSite.children = another.children := by
  obtain ⟨descriptor, slot, one, _⟩ := derived.plans.filed
  obtain ⟨rival, place, two, _⟩ := again.plans.filed
  cases one.position_congr two same
  cases one.registered.symm.trans two.registered
  by_cases opened : descriptor.isOpenGeneric = true
  · rw [one.key, two.key, instanceKey, instanceKey, if_pos opened, if_pos opened] at same
    cases ((memo.lookup_congr same).symm.trans one.known).symm.trans two.known
    exact ⟨rfl, rfl⟩
  · have closed : descriptor.isOpenGeneric = false := Bool.not_eq_true _ ▸ opened
    obtain ⟨_, _, _, picked, yields, _⟩ := derived
    obtain ⟨_, _, _, picks, found, _⟩ := again
    rw [picked.plan_eq] at yields
    rw [picks.plan_eq] at found
    obtain ⟨_, made, furnished⟩ := exists_furnished one.registered closed yields
    obtain ⟨_, remade, refurnished⟩ := exists_furnished one.registered closed found
    cases made
    cases remade
    exact furnished.unique (fun _ _ _ first second => first.unique second) refurnished

end Registered

/-- Held graphs with one key are kept at one place and have the same children. -/
theorem Holds.congr (held : memo.Holds callSite) (too : memo.Holds another)
    (sound : Sound blueprint memo) (lawful : memo.Lawful)
    (same : (callSite.site.key == another.site.key) = true) :
    callSite.site.location = another.site.location ∧ callSite.children = another.children := by
  cases held.founded sound with
  | derived derives =>
    cases too.founded sound with
    | derived again => exact derives.congr again same
    | own _ recorded =>
      obtain ⟨_, _, found, again⟩ := derives.known sound lawful (BEq.symm same) recorded
      cases found
      exact derives.congr again same
    | fallback _ _ unanswered =>
      obtain ⟨_, _, found, _⟩ := derives.known sound lawful (BEq.symm same) unanswered
      cases found
  | own unkept recorded =>
    cases too.founded sound with
    | derived again =>
      obtain ⟨_, _, found, derives⟩ := again.known sound lawful same recorded
      cases found
      exact derives.congr again same
    | own _ known =>
      cases ((memo.lookup_congr same).symm.trans recorded).symm.trans known
      exact ⟨rfl, rfl⟩
    | fallback _ _ unanswered =>
      cases ((memo.lookup_congr same).symm.trans recorded).symm.trans unanswered
  | fallback unkept childless unanswered =>
    cases too.founded sound with
    | derived again =>
      obtain ⟨_, _, found, _⟩ := again.known sound lawful same unanswered
      cases found
    | own _ recorded =>
      cases ((memo.lookup_congr same).symm.trans unanswered).symm.trans recorded
    | fallback alike barren _ => exact ⟨unkept.trans alike.symm, childless.trans barren.symm⟩

end Memo
end ServiceContainer
