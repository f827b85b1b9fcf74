import ServiceContainer.Proofs.Engine.Members
import ServiceContainer.Proofs.Provision

/-! How the values of a collection come about. Main statements: to interpret the graphs of a collection
in order is to have each registration give its value to the scope, and a request for a collection
does no more than that, besides telling the observers. -/
namespace ServiceContainer
open Blueprint Query

namespace Blueprint
variable (blueprint : Blueprint) (handler : Handler) (answers : Target → Option CallSite → Prop)

/-- One of the type's constructors is run for the owner, with the values of what its parameters are
answered with. -/
inductive Constructs (site : Site) (type : TypeInfo) (cast : Option InterfaceCast) (owner : ScopeId)
    (world : World) (produced : Produced) (last : World) : Prop where
  | intro {chosen : Constructor} {parameters : List CallSite} {values : List Value} {between : World}
      (listed : chosen ∈ blueprint.catalog.constructors type.id)
      (bound : List.Forall₂ (Binds answers) chosen.parameters parameters)
      (gathered : (Run.interpretAll handler parameters owner).run world = some (.ok values, between))
      (ran : (Run.construct handler site chosen.activate cast values).run between =
        some (.ok produced, last))

/-- The user code that the registration has for the service is run for the owner. -/
inductive Enacts (descriptor : Descriptor) (service : ServiceType) (slot : Nat) (owner : ScopeId)
    (world : World) (produced : Produced) (last : World) : Prop where
  | produced {name : String} {factory : ScopeId → Body}
      (implemented : descriptor.implementation = .produced name factory)
      (ran : (Run.body handler (factory owner)).run world = some (.ok produced, last))
  | constructed {type : TypeInfo} {cast : Option InterfaceCast}
      (implemented : descriptor.implementation = .constructed type cast)
      (constructs : blueprint.Constructs handler answers
        (registeredSite descriptor service slot type.name) type cast owner world produced last)
  | opened {definition closed opened : TypeInfo} {arguments : List ServiceType}
      (generic : service = .generic closed definition arguments)
      (implemented : descriptor.implementation = .openGeneric opened)
      (constructs : blueprint.Constructs handler answers
        (registeredSite descriptor service slot closed.name) closed none owner world produced last)

/-- The registration in the slot gives the value to the scope: its own value, or one that the owner
under its lifetime keeps, or has made by the registration's code. -/
inductive Gives (service : ServiceType) (descriptor : Descriptor) (slot : Nat) (scope : ScopeId)
    (world : World) : Value → World → Prop where
  | fixed {name : String} {value : Value}
      (implemented : descriptor.implementation = .fixed name value) :
      Gives service descriptor slot scope world value world
  | supplied {name : String} {owner : ScopeId} {value : Value} {last : World}
      (unowned : ∀ name value, descriptor.implementation ≠ .fixed name value)
      (owned : world.ownerFor descriptor.lifetime.location scope = owner)
      (supplies : Run.Supplies (blueprint.Enacts handler answers descriptor service slot owner)
        (registeredSite descriptor service slot name) owner world value last) :
      Gives service descriptor slot scope world value last

inductive Collects (service : ServiceType) (scope : ScopeId) :
    List (Nat × Nat) → List Value → World → World → Prop where
  | nil {world : World} : Collects service scope [] [] world world
  | cons {position slot : Nat} {descriptor : Descriptor} {members : List (Nat × Nat)} {value : Value}
      {values : List Value} {world between last : World}
      (registered : blueprint.registry.descriptors[position]? = some descriptor)
      (gives : blueprint.Gives handler answers service descriptor slot scope world value between)
      (rest : Collects service scope members values between last) :
      Collects service scope ((position, slot) :: members) (value :: values) world last

end Blueprint

namespace Blueprint
variable {blueprint : Blueprint} {handler : Handler} {answers : Target → Option CallSite → Prop}
  {service : ServiceType} {scope owner : ScopeId} {site : Site} {world last : World}

theorem Collects.length_eq {members : List (Nat × Nat)} {values : List Value}
    (collects : blueprint.Collects handler answers service scope members values world last) :
    values.length = members.length := by
  induction collects with
  | nil => rfl
  | cons _ _ _ ih => rw [List.length_cons, List.length_cons, ih]

theorem constructs_of_producer {type : TypeInfo} {cast : Option InterfaceCast} {chosen : Constructor}
    {parameters : List CallSite} (listed : chosen ∈ blueprint.catalog.constructors type.id)
    (bound : List.Forall₂ (Binds answers) chosen.parameters parameters) {produced : Produced}
    (ran : (Run.producer handler (.construct site chosen.activate cast parameters) owner).run world =
      some (.ok produced, last)) :
    blueprint.Constructs handler answers site type cast owner world produced last := by
  obtain ⟨values, between, gathered, ran⟩ | ⟨_, _, failed⟩ := Run.bind_eq_some ran
  · exact .intro listed bound gathered ran
  · cases failed

theorem Assembles.of_member {position slot : Nat} {item : CallSite}
    (assembled : blueprint.Assembles answers (.member service position slot) item)
    {descriptor : Descriptor}
    (registered : blueprint.registry.descriptors[position]? = some descriptor) :
    (∃ site name value, item = .constant site value ∧
      descriptor.implementation = .fixed name value) ∨
    (item.kind.constructs = true ∧ (∀ name value, descriptor.implementation ≠ .fixed name value) ∧
      ∃ name, item.site = registeredSite descriptor service slot name ∧
        ∀ owner before produced after,
          (Run.producer handler item owner).run before = some (.ok produced, after) →
            blueprint.Enacts handler answers descriptor service slot owner before produced after) := by
  cases assembled with
  | own asked _ | collect asked _ _ => cases asked
  | fixed picked found implemented =>
    cases picked
    cases registered.symm.trans found
    exact .inl ⟨_, _, _, rfl, implemented⟩
  | produced picked found implemented =>
    cases picked
    cases registered.symm.trans found
    exact .inr ⟨rfl, by simp [implemented], _, rfl, fun _ _ _ _ ran => .produced implemented ran⟩
  | constructed picked found implemented listed bound =>
    cases picked
    cases registered.symm.trans found
    exact .inr ⟨rfl, by simp [implemented], _, rfl, fun _ _ _ _ ran =>
      .constructed implemented (constructs_of_producer listed bound ran)⟩
  | opened picked found implemented listed bound =>
    cases picked
    cases registered.symm.trans found
    exact .inr ⟨rfl, by simp [implemented], _, rfl, fun _ _ _ _ ran =>
      .opened rfl implemented (constructs_of_producer listed bound ran)⟩

theorem gives_of_interpret (formed : world.WellFormed) {position slot : Nat} {item : CallSite}
    (offered : world.Offers scope item)
    (assembled : blueprint.Assembles answers (.member service position slot) item)
    {descriptor : Descriptor}
    (registered : blueprint.registry.descriptors[position]? = some descriptor) {value : Value}
    (h : (Run.interpret handler item scope).run world = some (.ok value, last)) :
    blueprint.Gives handler answers service descriptor slot scope world value last := by
  obtain ⟨site, name, _, rfl, implemented⟩ | ⟨constructs, unowned, name, site, enacts⟩ :=
    assembled.of_member registered
  · cases (Run.interpret_given formed offered (.inl rfl)).symm.trans h
    exact .fixed implemented
  · have supplies := Run.supplies_of_interpret constructs rfl (offered.ownerFor formed).2.1 h
    rw [site] at supplies
    exact .supplied unowned rfl (supplies.mono (enacts _))

end Blueprint

namespace Run
variable {handler : Handler} {scope : ScopeId} {world last : World} {items : List CallSite}
  {values : List Value} (asks : ∀ request, Leads (handler request))
include asks

theorem collects_of_interpretAll {blueprint : Blueprint}
    {answers : Target → Option CallSite → Prop} {service : ServiceType} {members : List (Nat × Nat)}
    (assembled : List.Forall₂ (fun member item => member ∈ blueprint.registry.all service ∧
      blueprint.Assembles answers (.member service member.1 member.2) item) members items)
    (formed : world.WellFormed) (offered : ∀ item ∈ items, world.Offers scope item)
    (h : (interpretAll handler items scope).run world = some (.ok values, last)) :
    blueprint.Collects handler answers service scope members values world last := by
  induction assembled generalizing world values with
  | nil =>
    cases h
    exact .nil
  | @cons member item members items first _ ih =>
    obtain ⟨served, assembled⟩ := first
    obtain ⟨descriptor, registered⟩ := Registry.exists_descriptor served
    have here := offered item List.mem_cons_self
    rw [interpretAll] at h
    obtain ⟨value, later, ran, rest⟩ | ⟨_, _, failed⟩ := bind_eq_some h
    · have gives := gives_of_interpret formed here assembled registered ran
      have reached := reaches_interpret asks item scope world formed here _ _ ran
      obtain ⟨others, between, more, ended⟩ | ⟨_, _, failed⟩ := bind_eq_some rest
      · cases ended
        refine .cons registered gives (ih (reached.wellFormed formed) (fun other listed => ?_) more)
        exact reached.extends.offers formed.toHoused (offered other (List.mem_cons_of_mem _ listed))
      · cases failed
    · cases failed

theorem obtained_of_interpretAll (formed : world.WellFormed)
    (offered : ∀ item ∈ items, world.Offers scope item)
    (h : (interpretAll handler items scope).run world = some (.ok values, last)) :
    List.Forall₂ (fun item value => item.kind.constructs = true →
      .obtained (world.scope scope).engine item.site.key (world.ownerFor item.site.location scope)
        value ∈ last.journal) items values := by
  induction items generalizing world values with
  | nil =>
    cases h
    exact .nil
  | cons item items ih =>
    have here := offered item List.mem_cons_self
    rw [interpretAll] at h
    obtain ⟨value, later, ran, rest⟩ | ⟨_, _, failed⟩ := bind_eq_some h
    · have reached := reaches_interpret asks item scope world formed here _ _ ran
      have still : ∀ other ∈ items, later.Offers scope other := fun other listed =>
        reached.extends.offers formed.toHoused (offered other (List.mem_cons_of_mem _ listed))
      have within := reached.wellFormed formed
      obtain ⟨others, between, more, ended⟩ | ⟨_, _, failed⟩ := bind_eq_some rest
      · cases ended
        have grown := (reaches_interpretAll asks items scope later within still _ _ more).extends
        refine .cons (fun constructs => ?_) ?_
        · exact grown.journal.subset (obtained_of_interpret constructs ran)
        · refine (ih within still more).imp fun other value obtained constructs => ?_
          have found := obtained constructs
          have hosted := here.hosts
          rwa [(reached.extends.hosts hosted).listed.2, reached.extends.ownerFor_eq hosted] at found
      · cases failed
    · cases failed

end Run

namespace World

/-- What the values for a scope come from: the graphs that the provider has for the registrations of the
service, which the checks let the scope have, and whose instances were handed out. -/
structure Sources (world : World) (id : EngineId) (element : ServiceType) (scope : ScopeId)
    (items : List CallSite) (values : List Value) : Prop where
  planned : List.Forall₂ (fun member item => world.Plans id member.1 element item ∧
      (world.engine id).memo.Records (.member element member.1 member.2) (some item))
    ((world.engine id).blueprint.registry.all element) items
  grants : ∀ item ∈ items, (world.engine id).Grants item (world.isRoot scope)
  handed : List.Forall₂ (fun item value => item.kind.constructs = true →
      .obtained id item.site.key (world.ownerFor item.site.location scope) value ∈ world.journal)
    items values

/-- Between notices to the observers, the provider's registrations of the service gave the values to the
scope, one after the other. -/
inductive Collected (handler : Handler) (blueprint : Blueprint) (id : EngineId)
    (element : ServiceType) (scope : ScopeId) (values : List Value) (world last : World) : Prop where
  | intro {start finish : World} (before : world.Notified id start)
      (collects : blueprint.Collects handler (last.engine id).memo.Records element scope
        (blueprint.registry.all element) values start finish)
      (after : finish.Notified id last)

end World

namespace Run
variable {handler : Handler} {world last : World} {id : EngineId} {host : Host}
  {element : ServiceType} {scope : ScopeId}

theorem asked_of_resolve {service : ServiceType}
    (h : (resolve handler scope service).run world = some (.ok none, last)) :
    (world.scope scope).state = .open ∧
      (onEngine (world.scope scope).engine (Engine.realize service)).run world =
        some (.ok none, last) := by
  obtain ⟨_, later, checked, rest⟩ | ⟨_, _, failed⟩ := bind_eq_some h
  · obtain ⟨rfl, opened⟩ := ensureOpen_eq_some checked
    rw [run_look] at rest
    obtain ⟨found, ready, realized, rest⟩ | ⟨_, _, failed⟩ := bind_eq_some rest
    · cases found with
      | none =>
        cases rest
        exact ⟨opened, realized⟩
      | some realization =>
        dsimp only at rest
        rw [← bind_pure_comp] at rest
        obtain ⟨_, _, _, ended⟩ | ⟨_, _, failed⟩ := bind_eq_some rest
        · cases ended
        · cases failed
    · cases failed
  · cases failed

theorem list_of_interpret {items : List CallSite} {value : Value}
    (h : (interpret handler (.collect (collectionSite (.collection element) element) items) scope).run
      world = some (.ok value, last)) :
    ∃ values, value = .list values ∧
      (interpretAll handler items scope).run world = some (.ok values, last) := by
  rw [run_interpret_collect, map_eq_pure_bind] at h
  obtain ⟨values, _, gathered, same⟩ | ⟨_, _, failed⟩ := bind_eq_some h
  · cases same
    exact ⟨values, rfl, gathered⟩
  · cases failed

section Requests
variable (asks : ∀ request, Leads (handler request)) (formed : world.WellFormed)
include asks formed

/-- To interpret a collection is to collect the values of its registrations. -/
theorem collected_of_interprets (hosted : world.Hosts scope id) {items : List CallSite}
    (granted : (world.engine id).Grants
      (.collect (collectionSite (.collection element) element) items) (world.isRoot scope))
    (planned : List.Forall₂ (fun member item =>
        (world.engine id).memo.Records (.member element member.1 member.2) (some item) ∧
          (world.engine id).blueprint.Assembles (world.engine id).memo.Records
            (.member element member.1 member.2) item)
      ((world.engine id).blueprint.registry.all element) items) {value : Value}
    (interprets : Interprets handler id scope
      (.collect (collectionSite (.collection element) element) items) value world last) :
    ∃ values, value = .list values ∧ last.Sources id element scope items values ∧
      World.Collected handler (world.engine id).blueprint id element scope values world last := by
  obtain ⟨before, reached, offered, ran, told, ended⟩ := interprets
  rename_i start finish
  obtain ⟨values, rfl, gathered⟩ := list_of_interpret ran
  have within := reached.wellFormed formed
  have offers := offered.child within
  have worked := reaches_interpretAll asks items scope start within offers _ _ gathered
  have total := (reached.trans worked).trans ended
  have inside := formed.placed scope id hosted
  have blueprint := total.moves.blueprint_eq formed inside
  have assembled := (List.forall₂_and_left _ _).2 ⟨fun _ member => member, planned.imp
    fun _ _ planned => And.intro (total.extends.memo id _ _ planned.1)
      (planned.2.mono fun target found => total.extends.memo id target.key found)⟩
  refine ⟨values, rfl, ⟨?_, fun item listed => ?_, ?_⟩, .intro before ?_ told⟩
  · rw [blueprint]
    refine assembled.imp fun member item planned => ?_
    obtain ⟨served, recorded, assembled⟩ := planned
    refine ⟨?_, recorded⟩
    rw [World.Plans, blueprint]
    exact ⟨.member element member.1 member.2, member.2, served, .member .., assembled, recorded⟩
  · exact total.extends.grants hosted inside (granted.child rfl listed)
  · have mine := World.scope_of_scopes before.scopes scope
    refine (obtained_of_interpretAll asks within offers gathered).imp
      fun item value obtained constructs => told.suffix.subset ?_
    have obtained := obtained constructs
    rwa [mine, hosted.listed.2, World.ownerFor_of_scopes before.scopes,
      ← total.extends.ownerFor_eq hosted] at obtained
  · exact collects_of_interpretAll asks (assembled.imp fun _ _ planned => ⟨planned.1, planned.2.2⟩)
      within offers gathered

variable (settled : (world.engine id).Settled host)
  (uncollected : (world.engine id).blueprint.registry.Uncollected)
  (describes : host.Describes (world.engine id).blueprint)
  (spoken : (world.engine id).memo.Spoken host) (speaks : host.Speaks element)
  (strange : element.own? = none) (mine : (world.scope scope).engine = id)
include settled uncollected describes spoken speaks strange mine

/-- A successful request for a collection collects the values of all registrations. -/
theorem collected_of_resolve {found : Option Value}
    (h : (resolve handler scope (.collection element)).run world = some (.ok found, last)) :
    ∃ items values, found = some (.list values) ∧ last.Sources id element scope items values ∧
      World.Collected handler (world.engine id).blueprint id element scope values world last := by
  have fluent := settled.fluent spoken
  have collection : host.Speaks (.collection element) := speaks
  obtain ⟨⟨fluently, grown⟩, answered, _⟩ := fluent.realize describes collection _ _ rfl
  cases found with
  | none =>
    obtain ⟨opened, asked⟩ := asked_of_resolve h
    rw [mine] at asked
    have hosted : world.Hosts scope id := mine ▸ .of_state (by simp [opened])
    obtain ⟨same, _⟩ := engine_of_onEngine (formed.placed _ _ hosted) asked
    obtain ⟨outcome, realized, follows⟩ := answered none same.symm
    cases realized
    have recorded := Blueprint.Finds.recorded (Engine.follows_request_iff.1 follows).1
    obtain ⟨_, absurd, _⟩ := Memo.exists_items fluently.built fluently.spoken speaks uncollected
      strange recorded
    cases absurd
  | some value =>
    obtain ⟨opened, realization, later, callSite, asked, graph, passed, interprets⟩ :=
      interprets_of_resolve formed h
    rw [mine] at asked graph passed interprets
    have hosted : world.Hosts scope id := mine ▸ .of_state (by simp [opened])
    obtain ⟨_, after⟩ := engine_of_onEngine (formed.placed _ _ hosted) asked
    obtain ⟨_, listed, recorded⟩ := graph_of_realize formed (formed.placed _ _ hosted) asked
    cases graph.symm.trans listed
    have still : (later.engine id).Settled host := after ▸ settled.ask (.realize (.collection element))
    have speaking : (later.engine id).memo.Spoken host := after ▸ fluently.spoken
    have blueprint : (later.engine id).blueprint = (world.engine id).blueprint :=
      after ▸ fluently.blueprint
    obtain ⟨items, same, planned⟩ := Memo.exists_items (blueprint ▸ still.recalls.built) speaking speaks
      uncollected strange recorded
    cases same
    have reached := leads_onEngine id (fun _ => .realize (.collection element)) world formed _ _ asked
    have granted := still.grants speaking (World.mem_of_graph graph) passed
    rw [← blueprint] at planned
    obtain ⟨values, rfl, sources, before, collects, told⟩ := collected_of_interprets asks
      (reached.wellFormed formed) (reached.extends.hosts hosted) granted planned interprets
    exact ⟨items, values, rfl, sources, .intro ((notified_of_onEngine asked).trans before)
      (blueprint ▸ collects) told⟩

omit asks in
/-- A request for a collection of nothing is answered with no values. -/
theorem exists_of_resolve_empty (opened : (world.scope scope).state = .open)
    (unserved : (world.engine id).blueprint.registry.all element = []) :
    ∃ last, (resolve handler scope (.collection element)).run world =
      some (.ok (some (.list [])), last) := by
  have fluent := settled.fluent spoken
  obtain ⟨realization, realized, known⟩ :=
    fluent.realize_empty describes speaks uncollected strange unserved
  refine exists_of_supplied formed settled describes spoken speaks (Engine.grants_empty _ _) mine opened
    rfl realized known fun before _ => ⟨before, ?_⟩
  rw [run_supply_unkept rfl rfl, producer, interpretAll]
  rfl

end Requests
end Run

end ServiceContainer
