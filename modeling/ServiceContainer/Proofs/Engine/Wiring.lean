import ServiceContainer.Proofs.CallSite.Activation
import ServiceContainer.Proofs.CallSite.Transparency
import ServiceContainer.Proofs.Engine.Consulted
import ServiceContainer.Proofs.Engine.Precedence

/-! Graphs as the registry has them. Every node is the call site of one registration, of one of the
container's own services, of a collection or of a declared default, and what stands beneath it is
what the registry says. Main statement: so it is of all graphs that a provider finds, whenever it is
asked, and the first slot of a collection has the graph of a single request. -/
namespace ServiceContainer
open Relation

namespace Registry
variable {registry : Registry}

theorem DefinesTypes.generic_of_open (types : registry.DefinesTypes) {service : ServiceType}
    {position slot : Nat} {descriptor : Descriptor}
    (registered : registry.descriptors[position]? = some descriptor)
    (opened : descriptor.isOpenGeneric = true) (member : (position, slot) ∈ registry.all service) :
    ∃ closed definition arguments, service = .generic closed definition arguments := by
  have unopened : registry.openFor service ≠ [] := by
    intro unopened
    obtain ⟨again, found, closed⟩ := types.exact_of_mem_all unopened member
    cases registered.symm.trans found
    rw [opened] at closed
    cases closed
  cases service with
  | generic closed definition arguments => exact ⟨closed, definition, arguments, rfl⟩
  | plain info => exact absurd rfl unopened
  | collection element => exact absurd rfl unopened

theorem exists_descriptor {service : ServiceType} {position slot : Nat}
    (member : (position, slot) ∈ registry.all service) :
    ∃ descriptor, registry.descriptors[position]? = some descriptor :=
  ⟨_, List.getElem?_eq_getElem (lt_length_of_mem_served (List.mem_of_getElem? (mem_all.1 member)))⟩

end Registry

namespace Query
variable {α : Type} {answers : Target → Option CallSite → Prop}

theorem Yields.restrict {allowed : Target → Prop} {query : Query α} {result : α}
    (yields : query.Yields answers result) (only : query.Only allowed) :
    query.Yields (fun target found => allowed target ∧ answers target found) result := by
  induction yields with
  | done result => exact .done result
  | ask answered _ ih => exact .ask ⟨only.1, answered⟩ (ih (only.2 _))

theorem Yields.run {build : Target → ExceptT Failure Id (Option CallSite)}
    {query : Query (Except Failure α)} {value : α} (yields : query.Yields answers (.ok value))
    (known : ∀ target found, answers target found → build target = pure found) :
    query.run build = pure value := by
  generalize outcome : Except.ok value = result at yields
  induction yields with
  | done result =>
    subst outcome
    rfl
  | ask answered _ ih =>
    rw [Query.run, known _ _ answered, pure_bind]
    exact ih outcome

end Query

theorem forall₂_flatMap_toList {α β : Type} {related : α → Option β → Prop} {holds : α → β → Prop}
    {members : List α} {founds : List (Option β)} (answered : List.Forall₂ related members founds)
    (each : ∀ member found, related member found → ∃ item, found = some item ∧ holds member item) :
    List.Forall₂ holds members (founds.flatMap Option.toList) := by
  induction answered with
  | nil => exact .nil
  | cons first _ ih =>
    obtain ⟨item, rfl, held⟩ := each _ _ first
    exact .cons held ih

theorem CallSite.service_of_answers? {callSite : CallSite} {key : CacheKey}
    (answers : callSite.answers? = some key) : callSite.site.service = key.service := by
  cases callSite with
  | fallback site value => cases answers
  | _ => exact congrArg CacheKey.service (Option.some.inj answers)

/-- A value that its registrar owns is kept nowhere. -/
def Descriptor.location (descriptor : Descriptor) : CacheLocation :=
  match descriptor.implementation with
  | .fixed _ _ => .nowhere
  | _ => descriptor.lifetime.location

namespace Blueprint
open Query
variable {blueprint : Blueprint} {host : Host}

/-- The graph of a target as it is made when nothing is remembered. -/
def graphOf (blueprint : Blueprint) (target : Target) : Except Failure (Option CallSite) :=
  ((blueprint.buildWithin (blueprint.chainBound target.service) [] target).run {}).1

/-- What a constructor gets for a parameter: the graph of its service, or the declared default if it
is no service. -/
structure Supplied (blueprint : Blueprint) (parameter : Parameter) (child : CallSite) : Prop where
  serves : child.site.service = parameter.service
  fallback_iff : (∃ value, parameter.fallback = some value ∧
    child = fallbackCallSite parameter.service value) ↔
      blueprint.isService parameter.service = false
  answered : blueprint.isService parameter.service = true →
    blueprint.graphOf (.single parameter.service) = .ok (some child)

/-- The constructor is the one that is selected for the type, and it gets the graphs. -/
structure Constructed (blueprint : Blueprint) (type : TypeInfo) (chosen : Constructor)
    (parameters : List CallSite) : Prop where
  selected : Constructor.select (m := Id) type.name (blueprint.catalog.constructors type.id)
    (fun constructor => bindParameters blueprint.graphOf constructor.parameters) =
      Except.ok (chosen, parameters)
  supplied : List.Forall₂ blueprint.Supplied chosen.parameters parameters

inductive Embodies (blueprint : Blueprint) (descriptor : Descriptor) (service : ServiceType) :
    CallSite → Prop where
  | fixed {site : Site} {value : Value}
      (implemented : descriptor.implementation = .fixed site.implementation value) :
      Embodies blueprint descriptor service (.constant site value)
  | produced {site : Site} {factory : ScopeId → Body}
      (implemented : descriptor.implementation = .produced site.implementation factory) :
      Embodies blueprint descriptor service (.factory site factory)
  | constructed {site : Site} {type : TypeInfo} {cast : Option InterfaceCast} {chosen : Constructor}
      {parameters : List CallSite} (named : site.implementation = type.name)
      (implemented : descriptor.implementation = .constructed type cast)
      (constructed : blueprint.Constructed type chosen parameters) :
      Embodies blueprint descriptor service (.construct site chosen.activate cast parameters)
  | opened {site : Site} {definition closed opened : TypeInfo} {arguments : List ServiceType}
      {chosen : Constructor} {parameters : List CallSite}
      (generic : service = .generic closed definition arguments)
      (named : site.implementation = closed.name)
      (implemented : descriptor.implementation = .openGeneric opened)
      (constructed : blueprint.Constructed closed chosen parameters) :
      Embodies blueprint descriptor service (.construct site chosen.activate none parameters)

/-- The call site is that of the registration, as the service and in the slot. -/
structure Represents (blueprint : Blueprint) (service : ServiceType) (position slot : Nat)
    (descriptor : Descriptor) (callSite : CallSite) : Prop where
  registered : blueprint.registry.descriptors[position]? = some descriptor
  served : (position, slot) ∈ blueprint.registry.all service
  serves : callSite.site.service = service
  key : callSite.site.key = instanceKey descriptor service slot
  lifetime : callSite.site.lifetime = descriptor.lifetime
  location : callSite.site.location = descriptor.location
  embodies : blueprint.Embodies descriptor service callSite

/-- The items are the graphs of all registrations that serve the element, in order, and a single
request gets the one in the first slot. -/
structure Gathers (blueprint : Blueprint) (element : ServiceType) (items : List CallSite) :
    Prop where
  each : List.Forall₂ (fun member item =>
      ∃ descriptor, blueprint.Represents element member.1 member.2 descriptor item)
    (blueprint.registry.all element) items
  first : ∀ position, blueprint.registry.single element = some position →
    ∃ (place : Nat) (item : CallSite), (blueprint.registry.all element)[place]? = some (position, 0) ∧
      items[place]? = some item ∧ blueprint.graphOf (.single element) = .ok (some item)

inductive Wired (blueprint : Blueprint) : CallSite → Prop where
  | own {service : ServiceType} {own : OwnService} (provides : service.own? = some own) :
      Wired blueprint (ownCallSite service own)
  | registered {service : ServiceType} {position slot : Nat} {descriptor : Descriptor}
      {callSite : CallSite}
      (represents : blueprint.Represents service position slot descriptor callSite) :
      Wired blueprint callSite
  | collected {element : ServiceType} {items : List CallSite}
      (gathers : blueprint.Gathers element items) :
      Wired blueprint (.collect (collectionSite (.collection element) element) items)
  | fallback {service : ServiceType} {value : Value}
      (unserved : blueprint.isService service = false) :
      Wired blueprint (fallbackCallSite service value)

def Draws (blueprint : Blueprint) (host : Host) (target : Target) (found : Option CallSite) : Prop :=
  blueprint.Proper host target ∧ blueprint.Builds target found

theorem leads_self {target : Target} (proper : blueprint.Proper host target) :
    blueprint.Leads host target.service [] target where
  proper := proper
  within := by
    refine ⟨blueprint.mem_mentioned_self _, ?_⟩
    cases target with
    | single service => exact Nat.zero_le _
    | member service position slot => exact (Registry.slot_lt proper.lists).le
  above other member := by cases member
  distinct := List.nodup_nil

theorem exists_callSite (types : blueprint.registry.DefinesTypes)
    {answers : Target → Option CallSite → Prop} {service : ServiceType} {position slot : Nat}
    (served : (position, slot) ∈ blueprint.registry.all service) {found : Option CallSite}
    (yields : Yields answers (blueprint.callSiteAt request service position slot) (.ok found)) :
    ∃ callSite, found = some callSite := by
  obtain ⟨descriptor, registered⟩ := Registry.exists_descriptor served
  cases opened : descriptor.isOpenGeneric with
  | false => exact (exists_furnished registered opened yields).imp fun _ made => made.1
  | true =>
    obtain ⟨closed, definition, arguments, rfl⟩ := types.generic_of_open registered opened served
    unfold callSiteAt at yields
    simp only [registered, callSiteOf] at yields
    cases implemented : descriptor.implementation with
    | openGeneric type =>
      simp only [implemented, Yields.map_ok_iff] at yields
      obtain ⟨callSite, _, rfl⟩ := yields
      exact ⟨callSite, rfl⟩
    | fixed name value => simp [Descriptor.isOpenGeneric, implemented] at opened
    | produced name factory => simp [Descriptor.isOpenGeneric, implemented] at opened
    | constructed type cast => simp [Descriptor.isOpenGeneric, implemented] at opened

section Presence
variable {answers : Target → Option CallSite → Prop} {target : Target} {service : ServiceType}
  {found : Option CallSite} (lists : blueprint.registry.Lists target)
  (keyed : target.key = ⟨service, 0⟩)
  (yields : (blueprint.plan target).Yields answers (.ok found))

theorem isService_of_served {position : Nat} (served : (position, 0) ∈ blueprint.registry.all service) :
    blueprint.isService service = true := by
  rw [isService, Registry.isRegistered, Registry.single_of_mem_all served, Option.isSome_some,
    Bool.or_true, Bool.or_true]

include lists keyed yields

/-- A plan for the first slot of a service is that of a registration, or yields a graph just if there
is the service. -/
theorem served_or_isSome_eq :
    (∃ position, (position, 0) ∈ blueprint.registry.all service ∧
      Yields answers (blueprint.callSiteAt request service position 0) (.ok found)) ∨
    found.isSome = blueprint.isService service := by
  cases target with
  | member _ position slot =>
    cases keyed
    exact .inl ⟨position, lists, yields⟩
  | single _ =>
    cases keyed
    simp only [plan, assemble] at yields
    cases provides : service.own? with
    | some own =>
      rw [provides] at yields
      cases Yields.pure_iff.1 yields
      exact .inr (by rw [isService, provides]; rfl)
    | none =>
      cases collection : service.element with
      | some element =>
        simp only [provides, collection, Yields.map_ok_iff] at yields
        obtain ⟨_, _, rfl⟩ := yields
        cases service with
        | collection _ => exact .inr rfl
        | plain info => cases collection
        | generic closed definition arguments => cases collection
      | none =>
        simp only [provides, collection] at yields
        cases last : blueprint.registry.single service with
        | some position =>
          rw [last] at yields
          exact .inl ⟨position, Registry.mem_all_of_single last, yields⟩
        | none =>
          rw [last] at yields
          cases Yields.pure_iff.1 yields
          refine .inr ?_
          rw [isService, provides, Registry.isRegistered, last]
          cases service with
          | collection _ => cases collection
          | _ => rfl

theorem isService_of_plan (present : found.isSome = true) : blueprint.isService service = true := by
  obtain ⟨_, served, _⟩ | same := served_or_isSome_eq lists keyed yields
  · exact isService_of_served served
  · exact same.symm.trans present

/-- If no open definition is registered as a collection, a plan for the first slot of a service yields
a graph just if there is the service. -/
theorem isSome_of_plan (types : blueprint.registry.DefinesTypes) :
    found.isSome = blueprint.isService service := by
  obtain ⟨_, served, planned⟩ | same := served_or_isSome_eq lists keyed yields
  · obtain ⟨_, rfl⟩ := exists_callSite types served planned
    exact (isService_of_served served).symm
  · exact same

end Presence

variable (foreign : blueprint.registry.Foreign) (describes : host.Describes blueprint)
include foreign describes

theorem graphOf_eq_iff {target : Target} (proper : blueprint.Proper host target)
    {found : Option CallSite} :
    blueprint.graphOf target = .ok found ↔ blueprint.Builds target found := by
  have leads := leads_self proper
  obtain ⟨later, built, _⟩ := leads.run_root foreign describes right_empty
  rw [graphOf, built]
  exact ⟨builds_of_buildFresh, leads.buildFresh_root foreign describes⟩

theorem Draws.graphOf {target : Target} {found : Option CallSite}
    (draws : blueprint.Draws host target found) : blueprint.graphOf target = .ok found :=
  (graphOf_eq_iff foreign describes draws.1).2 draws.2

omit foreign in
theorem Draws.yields {target : Target} {found : Option CallSite}
    (draws : blueprint.Draws host target found) :
    (blueprint.plan target).Yields (blueprint.Draws host) (.ok found) :=
  draws.2.yields.restrict (draws.1.only_plan describes)

/-- A service is what there is a graph of. -/
theorem Draws.isSome_eq {service : ServiceType} {found : Option CallSite}
    (draws : blueprint.Draws host (.single service) found) :
    found.isSome = blueprint.isService service :=
  have lists : blueprint.registry.Lists (.single service) := trivial
  isSome_of_plan lists rfl (Draws.yields describes draws) foreign.uncollected.definesTypes

omit foreign in
theorem Draws.answers?_eq {target : Target} {callSite : CallSite}
    (draws : blueprint.Draws host target (some callSite)) :
    callSite.answers? = some target.key :=
  (assembles_of_plan (Draws.yields describes draws)).answers?_eq

theorem supplied_of_binds {parameter : Parameter} {child : CallSite}
    (binds : Binds (blueprint.Draws host) parameter child) : blueprint.Supplied parameter child := by
  cases binds with
  | found draws =>
    have service := Draws.isSome_eq foreign describes draws
    have answers := Draws.answers?_eq describes draws
    refine ⟨CallSite.service_of_answers? answers, ⟨?_, fun none => ?_⟩, fun _ => ?_⟩
    · rintro ⟨value, _, rfl⟩
      cases answers
    · rw [none] at service
      cases service
    · exact Draws.graphOf foreign describes draws
  | fallback draws declared =>
    have service : blueprint.isService parameter.service = false :=
      (Draws.isSome_eq foreign describes draws).symm
    refine ⟨rfl, ⟨fun _ => service, fun _ => ⟨_, declared, rfl⟩⟩, fun served => ?_⟩
    rw [service] at served
    cases served

theorem constructed_of_selection {type : TypeInfo} {choice : Constructor × List CallSite}
    (selected : Yields (blueprint.Draws host) (blueprint.selection type) (.ok choice)) :
    blueprint.Constructed type choice.1 choice.2 := by
  have ran := selected.run fun _ _ draws => Draws.graphOf foreign describes draws
  rw [selection, run_select] at ran
  simp only [run_bindParameters] at ran
  refine ⟨ran, ?_⟩
  have bound := forall₂_of_bindParameters (Yields.of_select selected).2
  exact bound.imp fun _ _ binds => supplied_of_binds foreign describes binds

theorem represents_of_yields {service : ServiceType} {position slot : Nat}
    (served : (position, slot) ∈ blueprint.registry.all service) {callSite : CallSite}
    (yields : Yields (blueprint.Draws host) (blueprint.callSiteAt request service position slot)
      (.ok (some callSite))) :
    ∃ descriptor, blueprint.Represents service position slot descriptor callSite := by
  obtain ⟨descriptor, registered⟩ := Registry.exists_descriptor served
  unfold callSiteAt at yields
  simp only [registered, callSiteOf] at yields
  refine ⟨descriptor, ?_⟩
  cases implemented : descriptor.implementation with
  | fixed name value =>
    rw [implemented] at yields
    cases Yields.pure_iff.1 yields
    exact ⟨registered, served, rfl, rfl, rfl, by rw [Descriptor.location, implemented]; rfl,
      .fixed implemented⟩
  | produced name factory =>
    rw [implemented] at yields
    cases Yields.pure_iff.1 yields
    exact ⟨registered, served, rfl, rfl, rfl, by rw [Descriptor.location, implemented]; rfl,
      .produced implemented⟩
  | constructed type cast =>
    simp only [implemented, Yields.map_ok_iff, Option.some.injEq] at yields
    obtain ⟨_, made, rfl⟩ := yields
    obtain ⟨choice, selected, made⟩ := Yields.bind_ok_iff.1 made
    cases Yields.pure_iff.1 made
    exact ⟨registered, served, rfl, rfl, rfl, by rw [Descriptor.location, implemented]; rfl,
      .constructed rfl implemented (constructed_of_selection foreign describes selected)⟩
  | openGeneric opened =>
    rw [implemented] at yields
    cases service with
    | plain info => cases Yields.pure_iff.1 yields
    | collection element => cases Yields.pure_iff.1 yields
    | generic closed definition arguments =>
      simp only [Yields.map_ok_iff, Option.some.injEq] at yields
      obtain ⟨_, made, rfl⟩ := yields
      obtain ⟨choice, selected, made⟩ := Yields.bind_ok_iff.1 made
      cases Yields.pure_iff.1 made
      exact ⟨registered, served, rfl, rfl, rfl, by rw [Descriptor.location, implemented]; rfl,
        .opened rfl rfl implemented (constructed_of_selection foreign describes selected)⟩

theorem gathers_of_draws {element : ServiceType} {founds : List (Option CallSite)}
    (answered : List.Forall₂ (fun member found =>
      blueprint.Draws host (.member element member.1 member.2) found)
        (blueprint.registry.all element) founds) :
    blueprint.Gathers element (founds.flatMap Option.toList) := by
  have items : List.Forall₂ (fun member item =>
      blueprint.Draws host (.member element member.1 member.2) (some item))
        (blueprint.registry.all element) (founds.flatMap Option.toList) := by
    refine forall₂_flatMap_toList answered fun member found draws => ?_
    obtain ⟨item, rfl⟩ := exists_callSite foreign.uncollected.definesTypes draws.1.lists
      (Draws.yields describes draws)
    exact ⟨item, rfl, draws⟩
  constructor
  · refine items.imp fun member item draws => ?_
    have yields : Yields (blueprint.Draws host)
        (blueprint.callSiteAt request element member.1 member.2) (.ok (some item)) :=
      Draws.yields describes draws
    exact represents_of_yields foreign describes draws.1.lists yields
  · intro position last
    have listed := Registry.mem_all_of_single last
    obtain ⟨place, inside, found⟩ := List.mem_iff_getElem.1 listed
    have within : place < (founds.flatMap Option.toList).length := items.length_eq ▸ inside
    have draws := items.get inside within
    rw [List.get_eq_getElem, found] at draws
    have proper : blueprint.Proper host (.single element) := ⟨draws.1.speaks, trivial⟩
    have alone : blueprint.Draws host (.single element) (some _) :=
      ⟨proper, draws.2.congr (plan_congr foreign draws.1 proper BEq.rfl)⟩
    exact ⟨place, _, List.getElem?_eq_some_iff.2 ⟨inside, found⟩, List.getElem?_eq_getElem within,
      Draws.graphOf foreign describes alone⟩

/-- The graph of a collection is the engine's own. -/
theorem Draws.gathers {element : ServiceType} {callSite : CallSite}
    (draws : blueprint.Draws host (.single (.collection element)) (some callSite)) :
    ∃ items, callSite = .collect (collectionSite (.collection element) element) items ∧
      blueprint.Gathers element items := by
  cases assembles_of_plan (Draws.yields describes draws) with
  | own asked provides =>
    cases asked
    cases provides
  | collect asked collection answered =>
    cases asked
    cases collection
    exact ⟨_, rfl, gathers_of_draws foreign describes answered⟩
  -- No registration is asked for a collection.
  | fixed picked _ _ | produced picked _ _ | constructed picked _ _ _ _ =>
    cases picked with
    | single _ alone _ => cases alone
  | opened picked _ _ _ _ => cases picked

theorem Draws.wired {target : Target} {callSite : CallSite}
    (draws : blueprint.Draws host target (some callSite)) : blueprint.Wired callSite := by
  have yields := Draws.yields describes draws
  cases assembles_of_plan yields with
  | own _ provides => exact .own provides
  | @collect service element _ _ collection answered =>
    cases service with
    | collection _ =>
      cases collection
      exact .collected (gathers_of_draws foreign describes answered)
    | plain _ => cases collection
    | generic _ _ _ => cases collection
  | fixed picked _ _ | produced picked _ _ | constructed picked _ _ _ _ | opened picked _ _ _ _ =>
    rw [picked.plan_eq] at yields
    obtain ⟨_, represents⟩ :=
      represents_of_yields foreign describes (picked.served draws.1.lists) yields
    exact .registered represents

/-- A graph is wired through and through. -/
theorem Draws.wired_of_contains {target : Target} {callSite node : CallSite}
    (draws : blueprint.Draws host target (some callSite)) (contains : callSite.Contains node) :
    blueprint.Wired node := by
  suffices drawn : (∃ asked, blueprint.Draws host asked (some node)) ∨
      ∃ service value, node = fallbackCallSite service value ∧
        blueprint.Draws host (.single service) none by
    obtain ⟨_, draws⟩ | ⟨_, _, rfl, draws⟩ := drawn
    · exact Draws.wired foreign describes draws
    · exact .fallback (Draws.isSome_eq foreign describes draws).symm
  induction contains with
  | refl => exact .inl ⟨target, draws⟩
  | tail _ listed ih =>
    obtain ⟨_, draws⟩ | ⟨_, _, rfl, _⟩ := ih
    · exact (assembles_of_plan (Draws.yields describes draws)).child _ listed
    · cases listed

end Blueprint

namespace World
variable {before world : World} {id : EngineId} {host : Host}

section Sample

def lamp : TypeInfo := ⟨firstFreeTypeId, "Lamp"⟩

def rack : TypeInfo := ⟨firstFreeTypeId + 1, "Rack"⟩

def lampRack : TypeInfo := ⟨firstFreeTypeId + 2, "Rack<Lamp>"⟩

def stage : TypeInfo := ⟨firstFreeTypeId + 3, "Stage"⟩

def curtain : TypeInfo := ⟨firstFreeTypeId + 4, "Curtain"⟩

def theater : Host where
  name id := (([lamp, rack, lampRack, stage, curtain].find? (·.id == id)).map (·.name)).getD ""
  generic id := if id = lampRack.id then some (rack, [.plain lamp]) else none
  plainOwn own := by cases own <;> rfl

def assembling (made : TypeInfo) (parameters : List Parameter) : Constructor where
  implementation := made.name
  parameters
  activate _ := pure (.error .scopeDisposed)

/-- Two lamps, a rack for anything, and a stage that takes all lamps, a rack of them, and a curtain if
there is one. -/
def staged : Blueprint where
  registry := ⟨[⟨.plain lamp, .transient, .constructed lamp none⟩,
    ⟨.plain lamp, .singleton, .fixed lamp.name (.list [])⟩,
    ⟨.plain rack, .scoped, .openGeneric rack⟩,
    ⟨.plain stage, .transient, .constructed stage none⟩]⟩
  catalog := ⟨[(lamp.id, [assembling lamp []]),
    (lampRack.id, [assembling lampRack [⟨.plain lamp, none⟩]]),
    (stage.id, [assembling stage [⟨.collection (.plain lamp), none⟩,
      ⟨.generic lampRack rack [.plain lamp], none⟩, ⟨.plain curtain, some (.list [])⟩]])]⟩

theorem foreign_staged : staged.registry.Foreign := by
  simp [Registry.Foreign, staged, lamp, rack, stage, ServiceType.own?, ServiceType.typeId,
    ServiceType.element, OwnService.ofId?, OwnService.id, firstFreeTypeId]

theorem describes_staged : theater.Describes staged := by
  refine ⟨?_, fun type constructor listed parameter declared => ?_⟩
  · intro descriptor registered
    have services : ∀ service ∈ staged.registry.descriptors.map (·.service),
        theater.calls service = true := by decide +kernel
    exact Host.speaks_of_calls (services _ (List.mem_map_of_mem registered))
  · obtain ⟨row, filed, inside⟩ := Blueprint.exists_row listed
    simp only [staged, List.mem_cons, List.not_mem_nil, or_false] at filed
    obtain rfl | rfl | rfl := filed
    · cases List.mem_singleton.1 inside
      cases declared
    · cases List.mem_singleton.1 inside
      cases List.mem_singleton.1 declared
      rfl
    · cases List.mem_singleton.1 inside
      simp only [assembling, List.mem_cons, List.not_mem_nil, or_false] at declared
      obtain rfl | rfl | rfl := declared
      · rfl
      · exact ⟨rfl, rfl⟩
      · rfl

def opening : World :=
  match Container.build staged {} [] {} with
  | .ok (_, _, world) => world.asking [.plain lamp, .collection (.plain lamp)]
  | .error _ => {}

theorem reachable_opening : opening.Reachable := reachable_afterAsking staged _

def sets (callSite : CallSite) : Bool :=
  callSite.children.map (·.kind) == [.enumerable, .constructor, .constant] &&
    (callSite.children.flatMap fun child => child.children.map (·.kind)) ==
      [.constructor, .constant, .constant]

end Sample

/-- Whenever a provider is asked for a graph, each node is as its registry says, and so are all graphs
that it finds for other services: a registration has its own lifetime and place, a constructor the
graph of each of its parameters, or the default of what is no service, and a collection the graphs of
all registrations of its element, the exact ones first and each in its order, with the one that a
single request gets in the first slot. -/
theorem Reachable.graph_wired (reached : before.Reachable) (moves : before.Moves world)
    (provided : id < before.engines.length) {blueprint : Blueprint}
    (made : (world.engine id).blueprint = blueprint) (foreign : blueprint.registry.Foreign)
    (describes : host.Describes blueprint) (spoken : (world.engine id).memo.Spoken host) :
    (∀ service, host.Speaks service →
      ((Engine.callSite service).run (world.engine id)).1 = blueprint.graphOf (.single service)) ∧
    (∀ service callSite later, host.Speaks service →
      (Run.onEngine id (Engine.callSite service)).run world = some (.ok (some callSite), later) →
        callSite.answers? = some ⟨service, 0⟩ ∧
        (∀ node, callSite.Contains node → blueprint.Wired node) ∧
        ∀ element, service = .collection element → ∃ items,
          callSite = .collect (Blueprint.collectionSite service element) items ∧
            blueprint.Gathers element items) ∧
    ∀ element, (blueprint.registry.all element).map Prod.fst =
        blueprint.registry.exactFor element ++ blueprint.registry.openFor element ∧
      (blueprint.registry.exactFor element).Pairwise (· < ·) ∧
        (blueprint.registry.openFor element).Pairwise (· < ·) := by
  obtain ⟨_, recalls⟩ : (world.engine id).Sound ∧ (world.engine id).Recalls host :=
    (moves.consulted provided (reached.consulted provided)).recollects
  have right : (world.engine id).Right blueprint host :=
    ⟨made, ((made ▸ recalls.built).made foreign describes spoken).right foreign⟩
  have same : ∀ service, host.Speaks service →
      ((Engine.callSite service).run (world.engine id)).1 =
        blueprint.graphOf (.single service) := by
    intro service speaks
    obtain ⟨_, asked, _⟩ := right.run_callSite foreign describes speaks
    have leads : blueprint.Leads host service [] (.single service) :=
      Blueprint.leads_single speaks
    obtain ⟨_, fresh, _⟩ := leads.run_root foreign describes Blueprint.right_empty
    rw [asked, Blueprint.graphOf]
    exact (congrArg Prod.fst fresh).symm
  refine ⟨same, fun service callSite later speaks asked => ?_, fun element => ?_⟩
  · rw [Run.run_onEngine] at asked
    have found : blueprint.graphOf (.single service) = .ok (some callSite) :=
      (same service speaks).symm.trans (congrArg Prod.fst (Option.some.inj asked))
    have proper : blueprint.Proper host (.single service) := ⟨speaks, trivial⟩
    have draws : blueprint.Draws host (.single service) (some callSite) :=
      ⟨proper, (Blueprint.graphOf_eq_iff foreign describes proper).1 found⟩
    refine ⟨Blueprint.Draws.answers?_eq describes draws, fun node contains => ?_, ?_⟩
    · exact Blueprint.Draws.wired_of_contains foreign describes draws contains
    · rintro element rfl
      exact Blueprint.Draws.gathers foreign describes draws
  · exact ⟨Registry.map_fst_all element, Registry.positions_increase _,
      Registry.openFor_increases element⟩

/-- A stage takes the constructed lamp and the registered one, which is also the single lamp that the
rack holds, and goes without a curtain. -/
theorem graph_wired_stage : ∃ callSite later,
    (Run.onEngine 0 (Engine.callSite (.plain stage))).run opening =
      some (.ok (some callSite), later) ∧
    sets callSite = true ∧ callSite.answers? = some ⟨.plain stage, 0⟩ ∧
    ∀ node, callSite.Contains node → staged.Wired node := by
  have shown : (((Engine.callSite (.plain stage)).run (opening.engine 0)).1.toOption.join.any
      sets) = true := by decide +kernel
  obtain ⟨callSite, found, set⟩ := (Option.any_eq_true ..).1 shown
  have asked := Run.run_onEngine 0 (Engine.callSite (.plain stage)) opening
  cases answered : ((Engine.callSite (.plain stage)).run (opening.engine 0)).1 with
  | error failure =>
    rw [answered] at found
    cases found
  | ok _ =>
    rw [answered] at found asked
    cases found
    have provided : 0 < opening.engines.length := by decide +kernel
    have spoken : (opening.engine 0).memo.Spoken theater :=
      Memo.spoken_of_calls (by decide +kernel)
    have speaks : theater.Speaks (.plain stage) := rfl
    obtain ⟨_, wired, _⟩ := reachable_opening.graph_wired .refl provided rfl foreign_staged
      describes_staged spoken
    obtain ⟨answers, nodes, _⟩ := wired _ _ _ speaks asked
    exact ⟨callSite, _, asked, set, answers, nodes⟩

end World
end ServiceContainer
