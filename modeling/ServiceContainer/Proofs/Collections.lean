import ServiceContainer.Proofs.Execution.Collecting
import ServiceContainer.Resolver

/-! Requests for all that is registered for a service. Main statement: the reply holds one value for
each registration, in order, which is what the registration gives to the scope under its own lifetime;
and what the registration for single requests has given is what single requests get. -/
namespace ServiceContainer

namespace Container

/-- A scope's request for all values of a service succeeds with these: a typed one, or one for the
collection itself. -/
inductive Fetches (fuel : Nat) (scope : ScopeId) (element : ServiceType) (values : List Value)
    (world last : World) : Prop where
  | types {list type : TypeInfo} (plain : element = .plain type)
      (replied : run fuel (Resolver.getAll scope list type).run world = some (.ok values, last))
  | interfaces {list interface : TypeInfo} (plain : element = .plain interface)
      (replied : run fuel (Resolver.getAllInterface scope list interface).run world =
        some (.ok values, last))
  | collection (replied : perform fuel (.resolve scope (.collection element)) world =
      some (.ok (some (.list values)), last))

theorem run_getEach (fuel : Nat) (scope : ScopeId) (list : TypeInfo) (service : ServiceType)
    (check : Value → Except Failure Value) (world : World) :
    run fuel (Resolver.getEach scope list service check).run world =
      (perform fuel (.resolve scope (.collection service)) world).map fun ended =>
        (ended.1.bind fun found => match found with
          | some value => (value.items list).bind (·.mapM check)
          | none => .ok [], ended.2) := by
  change (perform fuel (.resolve scope (.collection service)) world).bind _ = _
  cases perform fuel (.resolve scope (.collection service)) world with
  | none => rfl
  | some ended =>
    obtain ⟨result, last⟩ := ended
    cases result with
    | error failure => rfl
    | ok found => cases found <;> rfl

theorem eq_of_mapM {check : Value → Except Failure Value}
    (same : ∀ value other, check value = .ok other → value = other) {items values : List Value}
    (checked : items.mapM check = .ok values) : items = values := by
  induction items generalizing values with
  | nil =>
    cases checked
    rfl
  | cons item rest ih =>
    rw [List.mapM_cons] at checked
    cases first : check item with
    | error failure =>
      rw [first] at checked
      cases checked
    | ok value =>
      cases others : rest.mapM check with
      | error failure =>
        rw [first, others] at checked
        cases checked
      | ok values =>
        rw [first, others] at checked
        cases checked
        rw [same item value first, ih others]

/-- What a typed request returns are the values of the collection, if checks leave values as they
are. -/
theorem found_of_getEach {fuel : Nat} {scope : ScopeId} {list : TypeInfo} {service : ServiceType}
    {check : Value → Except Failure Value} {world last : World} {values : List Value}
    (same : ∀ value other, check value = .ok other → value = other)
    (replied : run fuel (Resolver.getEach scope list service check).run world =
      some (.ok values, last)) :
    ∃ found, perform fuel (.resolve scope (.collection service)) world = some (.ok found, last) ∧
      ∀ items, found = some (.list items) → items = values := by
  rw [run_getEach] at replied
  obtain ⟨⟨result, later⟩, performed, ended⟩ := Option.map_eq_some_iff.1 replied
  obtain ⟨checked, rfl⟩ := Prod.mk.inj ended
  cases result with
  | error failure => cases checked
  | ok found =>
    refine ⟨found, performed, ?_⟩
    rintro items rfl
    exact eq_of_mapM same checked

theorem Fetches.performed {fuel : Nat} {scope : ScopeId} {element : ServiceType}
    {values : List Value} {world last : World} (fetches : Fetches fuel scope element values world last)
    (lists : ∀ found, perform fuel (.resolve scope (.collection element)) world =
      some (.ok found, last) → ∃ items, found = some (.list items)) :
    perform fuel (.resolve scope (.collection element)) world =
      some (.ok (some (.list values)), last) := by
  have typed : ∀ {list : TypeInfo} {check : Value → Except Failure Value},
      (∀ value other, check value = .ok other → value = other) →
      run fuel (Resolver.getEach scope list element check).run world = some (.ok values, last) →
      perform fuel (.resolve scope (.collection element)) world =
        some (.ok (some (.list values)), last) := by
    intro list check same replied
    obtain ⟨found, performed, listed⟩ := found_of_getEach same replied
    obtain ⟨items, rfl⟩ := lists found performed
    rwa [listed items rfl] at performed
  cases fetches with
  | types plain replied =>
    subst plain
    refine typed (fun value other checked => ?_) replied
    unfold Value.as at checked
    split at checked <;> cases checked
    rfl
  | interfaces plain replied =>
    subst plain
    refine typed (fun value other checked => ?_) replied
    unfold Value.asInterface at checked
    repeat' split at checked
    all_goals cases checked
    rfl
  | collection replied => exact replied

end Container

namespace World
variable {before world last : World} {id : EngineId} {host : Host} {element : ServiceType}
  {scope : ScopeId} {items : List CallSite} {values : List Value}

theorem Sources.exists_item (sources : last.Sources id element scope items values)
    {position place : Nat}
    (single : (last.engine id).blueprint.registry.single element = some position)
    (listed : ((last.engine id).blueprint.registry.exactFor element ++
      (last.engine id).blueprint.registry.openFor element)[place]? = some position) {value : Value}
    (valued : values[place]? = some value) :
    ∃ item, last.Plans id position element item ∧
      (last.engine id).memo.lookup ⟨element, 0⟩ = some (some item) ∧
      (last.engine id).Grants item (last.isRoot scope) ∧
      (item.kind.constructs = true →
        .obtained id item.site.key (last.ownerFor item.site.location scope) value ∈ last.journal) := by
  rw [← Registry.map_fst_all, List.getElem?_map] at listed
  obtain ⟨⟨_, slot⟩, found, rfl⟩ := Option.map_eq_some_iff.1 listed
  obtain rfl := Registry.slot_unique (List.mem_of_getElem? found) (Registry.mem_all_of_single single)
  obtain ⟨inside, member⟩ := List.getElem?_eq_some_iff.1 found
  obtain ⟨within, same⟩ := List.getElem?_eq_some_iff.1 valued
  have between : place < items.length := sources.planned.length_eq ▸ inside
  have planned := sources.planned.get inside between
  have handed := sources.handed.get between within
  rw [List.get_eq_getElem, member] at planned
  rw [List.get_eq_getElem, List.get_eq_getElem, same] at handed
  exact ⟨_, planned.1, planned.2, sources.grants _ (List.getElem_mem between), handed⟩

theorem Plans.of_moves (moves : world.Moves last) (formed : world.WellFormed)
    (provided : id < world.engines.length) {position : Nat} {item : CallSite}
    (planned : world.Plans id position element item) : last.Plans id position element item := by
  obtain ⟨target, slot, lists, picked, assembled, recorded⟩ := planned
  have grows := moves.extends.memo id
  have still := assembled.mono fun asked found => grows asked.key found
  rw [Plans, moves.blueprint_eq formed provided]
  exact ⟨target, slot, lists, picked, still, grows _ _ recorded⟩

/-- The value is what single requests for the service get: those of the scope from now on, and all that
ended before its owner was disposed. -/
structure Shares (world before : World) (id : EngineId) (host : Host) (element : ServiceType)
    (scope : ScopeId) (location : CacheLocation) (value : Value) : Prop where
  gets (later : World) (fuel : Nat) : world.Moves later → (later.engine id).memo.Spoken host →
    (later.scope scope).state = .open →
    (later.scope (later.ownerFor location scope)).state = .open →
    ∃ final, Container.perform (fuel + 1) (.resolve scope element) later =
      some (.ok (some value), final)
  agrees (later earlier between : World) (fuel : Nat) (other : ScopeId) (got : Value) :
    world.Moves later → (later.scope (later.ownerFor location scope)).state ≠ .disposed →
    before.Moves earlier → (earlier.scope other).engine = id →
    earlier.ownerFor location other = later.ownerFor location scope →
    Container.perform fuel (.resolve other element) earlier = some (.ok (some got), between) →
    between.Moves later → got = value

/-- The instance of the graph for single requests is shared with these. -/
theorem shares_of_obtained (reached : before.Reachable) (provided : id < before.engines.length)
    (moves : before.Moves world) (describes : host.Describes (world.engine id).blueprint)
    (speaks : host.Speaks element) (hosted : world.Hosts scope id) {position : Nat} {item : CallSite}
    (planned : world.Plans id position element item)
    (known : (world.engine id).memo.lookup ⟨element, 0⟩ = some (some item))
    (grants : (world.engine id).Grants item (world.isRoot scope))
    (constructs : item.kind.constructs = true) (kept : item.site.location ≠ .nowhere) {value : Value}
    (obtained : .obtained id item.site.key (world.ownerFor item.site.location scope) value ∈
      world.journal) : world.Shares before id host element scope item.site.location value := by
  have formed := moves.steps.wellFormed reached.wellFormed
  have inside := formed.placed scope id hosted
  have held : ∀ later, world.Moves later → later.Regular ∧
      later.Keeps ⟨id, item.site.key, later.ownerFor item.site.location scope⟩ ∧
      value ∈ later.handed (· == ⟨id, item.site.key, later.ownerFor item.site.location scope⟩) := by
    intro later further
    have onward : before.Moves later := moves.trans further
    have regular := reached.regular.steps onward.steps
    refine ⟨regular, regular.keeps (planned.of_moves further formed inside) constructs kept _ BEq.rfl,
      mem_handed.2 ⟨_, _, _, further.extends.journal.subset ?_, BEq.rfl⟩⟩
    rw [further.extends.ownerFor_eq hosted]
    exact obtained
  constructor
  · intro later fuel further spoken opened lasting
    obtain ⟨regular, keeps, handed⟩ := held later further
    have settled : (later.engine id).Settled host := reached.settled (moves.trans further) provided
    have granted := further.extends.grants hosted inside grants
    rw [← further.blueprint_eq formed inside] at describes
    exact Run.exists_of_resolve_kept regular.formed settled describes spoken speaks granted
      (further.extends.hosts hosted).listed.2 opened rfl (further.extends.memo id _ _ known) kept
      (regular.cached_of_handed keeps (by simp [lasting]) handed) lasting
  · intro later earlier between fuel other got further lasting start mine owner request rest
    obtain ⟨regular, keeps, handed⟩ := held later further
    cases fuel with
    | zero => cases request
    | succ fuel =>
      obtain ⟨_, recorded, handed_out⟩ := Run.exists_of_resolve (Container.leads_perform fuel)
        (start.steps.wellFormed reached.wellFormed) request
      rw [mine] at recorded handed_out
      cases (rest.extends.memo id _ _ recorded).symm.trans (further.extends.memo id _ _ known)
      refine regular.handed_unique keeps lasting (mem_handed.2 ⟨_, _, _, ?_, BEq.rfl⟩) handed
      rw [← owner]
      exact rest.extends.journal.subset (handed_out constructs)

theorem shares_of_sources (reached : before.Reachable) (provided : id < before.engines.length)
    (moves : before.Moves world) (describes : host.Describes (world.engine id).blueprint)
    (speaks : host.Speaks element) (hosted : world.Hosts scope id)
    (sources : world.Sources id element scope items values) {position place : Nat}
    {descriptor : Descriptor}
    (single : (world.engine id).blueprint.registry.single element = some position)
    (registered : (world.engine id).blueprint.registry.descriptors[position]? = some descriptor)
    (unowned : ∀ name value, descriptor.implementation ≠ .fixed name value)
    (lasting : descriptor.lifetime ≠ .transient)
    (listed : ((world.engine id).blueprint.registry.exactFor element ++
      (world.engine id).blueprint.registry.openFor element)[place]? = some position) {value : Value}
    (valued : values[place]? = some value) :
    world.Shares before id host element scope descriptor.lifetime.location value := by
  obtain ⟨item, planned, known, grants, obtained⟩ := sources.exists_item single listed valued
  have constructs := planned.constructs registered unowned
  have location := planned.location constructs registered
  have kept : item.site.location ≠ .nowhere := by
    rwa [location, Ne, Lifetime.location_eq_nowhere_iff]
  rw [← location]
  exact shares_of_obtained reached provided moves describes speaks hosted planned known grants
    constructs kept (obtained constructs)

section Sample

def lampRacks : ServiceType := .generic lampRack rack [.plain lamp]

def shelving : Body := do
  let serial ← Program.request .serial
  pure (.ok { value := .object ⟨lampRack, some serial, lampRack.name⟩ })

/-- Two open definitions of racks, each followed by a registration of racks of lamps. -/
def racking : Blueprint where
  registry := ⟨[
    ⟨.plain rack, .scoped, .openGeneric rack⟩,
    ⟨.plain lampRack, .singleton, .fixed lampRack.name (.object ⟨lampRack, none, lampRack.name⟩)⟩,
    ⟨.plain rack, .transient, .openGeneric rack⟩,
    ⟨.plain lampRack, .scoped, .produced lampRack.name fun _ => shelving⟩]⟩
  catalog := ⟨[(lampRack.id, [{
    implementation := lampRack.name
    parameters := []
    activate := fun _ => shelving }])]⟩

def serial? : Value → Option Nat
  | .object made => made.serial
  | _ => none

/-- Nothing has been asked of the provider, and its child scope gets the registered racks first. -/
def racked (world : World) : Bool :=
  decide (0 < world.engines.length) && decide ((world.scope 1).engine = 0) &&
    (world.engine 0).memo.entries.all (fun entry => theater.calls entry.1.service) &&
    match Container.perform 2 (.resolve 1 (.collection lampRacks)) world with
    | some (.ok (some (.list values)), _) => values.map serial? == [none, some 0, some 1, some 2]
    | _ => false

theorem describes_racking : theater.Describes racking := by
  refine ⟨?_, fun type constructor listed parameter declared => ?_⟩
  · intro descriptor registered
    have services : ∀ service ∈ racking.registry.descriptors.map (·.service),
        theater.calls service = true := by decide +kernel
    exact Host.speaks_of_calls (services _ (List.mem_map_of_mem registered))
  · obtain ⟨row, filed, inside⟩ := Blueprint.exists_row listed
    cases List.mem_singleton.1 filed
    cases List.mem_singleton.1 inside
    cases declared

end Sample

/-- Whoever asks a provider for all that is registered for a service gets one value for each exact
registration and then one for each matching open definition, in order, as the registration gives it to
the scope under its own lifetime. If the registration of single requests keeps its instances, single
requests get its value. If nothing is registered, there are no values. -/
theorem Reachable.collection_complete (reached : before.Reachable) (moves : before.Moves world)
    (provided : id < before.engines.length) {blueprint : Blueprint}
    (made : (world.engine id).blueprint = blueprint) (uncollected : blueprint.registry.Uncollected)
    (describes : host.Describes blueprint) (spoken : (world.engine id).memo.Spoken host)
    (speaks : host.Speaks element) (strange : element.own? = none)
    (mine : (world.scope scope).engine = id) :
    ((blueprint.registry.all element).map Prod.fst =
        blueprint.registry.exactFor element ++ blueprint.registry.openFor element ∧
      (blueprint.registry.exactFor element).Pairwise (· < ·) ∧
      (blueprint.registry.openFor element).Pairwise (· < ·)) ∧
    (∀ fuel found last, Container.perform fuel (.resolve scope (.collection element)) world =
      some (.ok found, last) → ∃ values, found = some (.list values)) ∧
    (∀ (fuel : Nat) (values : List Value) (last : World),
      Container.Fetches (fuel + 1) scope element values world last →
      values.length = (blueprint.registry.exactFor element).length +
        (blueprint.registry.openFor element).length ∧
      world.Collected (Container.perform fuel) blueprint id element scope values last ∧
      ∀ (position : Nat) (descriptor : Descriptor) (place : Nat) (value : Value),
        (blueprint.registry.exactFor element).getLast?.or
          (blueprint.registry.openFor element).getLast? = some position →
        blueprint.registry.descriptors[position]? = some descriptor →
        (∀ name value, descriptor.implementation ≠ .fixed name value) →
        descriptor.lifetime ≠ .transient →
        (blueprint.registry.exactFor element ++ blueprint.registry.openFor element)[place]? =
          some position →
        values[place]? = some value →
        last.Shares before id host element scope descriptor.lifetime.location value) ∧
    (blueprint.registry.exactFor element = [] → blueprint.registry.openFor element = [] →
      (world.scope scope).state = .open → ∀ fuel, ∃ last,
        Container.perform (fuel + 1) (.resolve scope (.collection element)) world =
          some (.ok (some (.list [])), last) ∧
        ∀ list type, element = .plain type →
          Container.run (fuel + 1) (Resolver.getAll scope list type).run world =
            some (.ok [], last) ∧
          Container.run (fuel + 1) (Resolver.getAllInterface scope list type).run world =
            some (.ok [], last)) := by
  subst made
  have formed := moves.steps.wellFormed reached.wellFormed
  have settled : (world.engine id).Settled host := reached.settled moves provided
  have inside : id < world.engines.length := (moves.extends.options id provided).1
  have replies : ∀ {fuel : Nat} {found : Option Value} {last : World},
      Container.perform (fuel + 1) (.resolve scope (.collection element)) world =
        some (.ok found, last) →
      ∃ items values, found = some (.list values) ∧ last.Sources id element scope items values ∧
        World.Collected (Container.perform fuel) (world.engine id).blueprint id element scope values
          world last := fun {fuel _ _} replied =>
    Run.collected_of_resolve (Container.leads_perform fuel) formed settled uncollected describes
      spoken speaks strange mine replied
  have lists : ∀ fuel found last, Container.perform fuel (.resolve scope (.collection element)) world =
      some (.ok found, last) → ∃ values, found = some (.list values) := by
    intro fuel found last replied
    cases fuel with
    | zero => cases replied
    | succ fuel =>
      obtain ⟨_, values, same, _⟩ := replies replied
      exact ⟨values, same⟩
  refine ⟨⟨Registry.map_fst_all element, Registry.positions_increase _,
    Registry.openFor_increases element⟩, lists, ?_, ?_⟩
  · intro fuel values last fetches
    have replied := fetches.performed fun found => lists _ found last
    obtain ⟨items, _, same, sources, collected⟩ := replies replied
    cases same
    have onward : world.Moves last :=
      (Container.leads_perform (fuel + 1) _ world formed _ _ replied).moves
    refine ⟨?_, collected, fun position descriptor place value ends registered unowned lasting listed
      valued => ?_⟩
    · obtain ⟨_, collects, _⟩ := collected
      rw [collects.length_eq, ← List.length_append, ← Registry.map_fst_all, List.length_map]
    · obtain ⟨opened, _⟩ := Run.interprets_of_resolve formed replied
      have hosted : world.Hosts scope id := mine ▸ .of_state (by simp [opened])
      have single : (world.engine id).blueprint.registry.single element = some position := ends
      rw [← onward.blueprint_eq formed inside] at single registered listed describes
      exact shares_of_sources reached provided (moves.trans onward) describes speaks
        (onward.extends.hosts hosted) sources single registered unowned lasting listed valued
  · intro exact opens opened fuel
    have unserved : (world.engine id).blueprint.registry.all element = [] := by
      rw [Registry.all, exact, opens]
      rfl
    obtain ⟨last, replied⟩ : ∃ last, Container.perform (fuel + 1)
        (.resolve scope (.collection element)) world = some (.ok (some (.list [])), last) :=
      Run.exists_of_resolve_empty formed settled uncollected describes spoken speaks strange mine
        opened unserved
    refine ⟨last, replied, ?_⟩
    rintro list type rfl
    rw [Resolver.getAll, Resolver.getAllInterface, Container.run_getEach, Container.run_getEach,
      replied]
    exact ⟨rfl, rfl⟩

/-- A child scope gets the value and the made instance of the exact registrations, then those of the open
definitions. Single requests get the second, which the scope keeps. -/
theorem collection_complete_racks :
    ∃ (world last : World) (values : List Value) (value : Value),
      Container.serve 2 racking {} [] (resolving []) {} = .ok (some ((), world)) ∧
      Container.Fetches 2 1 lampRacks values world last ∧ values.length = 4 ∧
      values[1]? = some value ∧ serial? value = some 0 ∧
      last.Shares world 0 theater lampRacks 1 .scope value := by
  obtain ⟨world, served, shown⟩ := exists_of_served
    (Container.serve 2 racking {} [] (resolving []) {}) racked (by decide +kernel)
  obtain ⟨shown, replied⟩ := Bool.and_eq_true_iff.1 shown
  obtain ⟨shown, called⟩ := Bool.and_eq_true_iff.1 shown
  obtain ⟨provided, mine⟩ := Bool.and_eq_true_iff.1 shown
  have reached := Container.reachable_of_serve (.start []) served
  have blueprints : world.engines.map (·.blueprint) = [racking] :=
    Container.blueprints_of_serve (.start []) served
  have made : (world.engine 0).blueprint = racking := by
    have first := congrArg (·[0]?) blueprints
    rw [List.getElem?_map] at first
    obtain ⟨engine, listed, same⟩ := Option.map_eq_some_iff.1 first
    rw [engine_of_some listed]
    exact same
  have uncollected : racking.registry.Uncollected := by
    simp [Registry.Uncollected, racking, ServiceType.element]
  split at replied
  · rename_i values last performed
    have serials : values.map serial? = [none, some 0, some 1, some 2] := eq_of_beq replied
    have second := congrArg (·[1]?) serials
    rw [List.getElem?_map] at second
    obtain ⟨value, valued, serial⟩ := Option.map_eq_some_iff.1 second
    obtain ⟨_, _, fetched, _⟩ := reached.collection_complete .refl (of_decide_eq_true provided) made
      uncollected describes_racking (Memo.spoken_of_calls called)
      (show theater.Speaks lampRacks from ⟨rfl, rfl⟩) rfl (of_decide_eq_true mine)
    have fetches : Container.Fetches 2 1 lampRacks values world last := .collection performed
    obtain ⟨length, _, shares⟩ := fetched 1 values last fetches
    refine ⟨world, last, values, value, served, fetches, ?_, valued, serial, ?_⟩
    · exact length.trans (by decide +kernel)
    · exact shares 3 _ 1 value (by decide +kernel) rfl (by simp) (by simp)
        (by decide +kernel) valued
  · cases replied

end World
end ServiceContainer
