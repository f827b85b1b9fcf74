import ServiceContainer.CallSite
import ServiceContainer.Constructor.Selection
import ServiceContainer.Registry
import ServiceContainer.Table

/-! Building of call-site graphs. Each requested registration is built once and remembered, also
when there is none; failures are not remembered. The keys under construction form a chain, and
a key that is met again on its own chain is a cycle. -/
namespace ServiceContainer

/-- Finished graphs by the request they answer; `none` for a request that nothing answers. -/
abbrev Memo := Table CacheKey (Option CallSite)

abbrev Build := ExceptT Failure (StateM Memo)

/-- The keys under construction, the outermost first. -/
abbrev Chain := List CacheKey

/-- The cycle that a key would close, as the names along it. -/
def Chain.cycle? (chain : Chain) (key : CacheKey) : Option (List String) :=
  match chain.dropWhile (!· == key) with
  | [] => none
  | cycle => some (cycle.map CacheKey.name ++ [key.name])

inductive Target where
  /-- The service as a single request. -/
  | single (service : ServiceType)
  /-- The registration at a position, in a slot of the service. -/
  | member (service : ServiceType) (position slot : Nat)

def Target.key : Target → CacheKey
  | .single service => ⟨service, 0⟩
  | .member service _ slot => ⟨service, slot⟩

namespace Blueprint
variable (blueprint : Blueprint) {m : Type → Type} [Monad m]

def ownCallSite (service : ServiceType) (own : OwnService) : CallSite :=
  .own
    { service, implementation := service.name, key := ⟨service, 0⟩, location := .nowhere
      lifetime := match own with
        | .scope => .scoped
        | _ => .singleton }
    own

def fallbackCallSite (service : ServiceType) (value : Value) : CallSite :=
  .fallback
    { service, implementation := service.name, key := ⟨service, 0⟩, location := .nowhere
      lifetime := .transient }
    value

/-- The graphs of the parameters in order, up to the first service that nothing provides. -/
def bindParameters (build : Target → ExceptT Failure m (Option CallSite)) :
    List Parameter → ExceptT Failure m (Binding (List CallSite))
  | [] => pure (.bound [])
  | parameter :: rest => do
    let found ← build (.single parameter.service)
    match found.or (parameter.fallback.map (fallbackCallSite parameter.service)) with
    | none => pure (.missing parameter.service.name)
    | some callSite =>
      match ← bindParameters build rest with
      | .bound callSites => pure (.bound (callSite :: callSites))
      | .missing service => pure (.missing service)

def constructCallSite (build : Target → ExceptT Failure m (Option CallSite)) (site : Site)
    (constructors : List Constructor) (cast : Option InterfaceCast) :
    ExceptT Failure m CallSite := do
  let (chosen, parameters) ← Constructor.select site.implementation constructors
    fun constructor => bindParameters build constructor.parameters
  pure (.construct site chosen.activate cast parameters)

/-- The key under which instances are cached: exact registrations share one for plain and
generic requests, an open one has a key for each closed type. -/
def instanceKey (descriptor : Descriptor) (service : ServiceType) (slot : Nat) : CacheKey :=
  ⟨if descriptor.isOpenGeneric then service else descriptor.service.canonical, slot⟩

def registeredSite (descriptor : Descriptor) (service : ServiceType) (slot : Nat)
    (implementation : String) : Site :=
  { service, implementation, lifetime := descriptor.lifetime
    location := descriptor.lifetime.location, key := instanceKey descriptor service slot }

def callSiteOf (build : Target → ExceptT Failure m (Option CallSite)) (descriptor : Descriptor)
    (service : ServiceType) (slot : Nat) : ExceptT Failure m (Option CallSite) := do
  let site := registeredSite descriptor service slot
  match descriptor.implementation with
  | .fixed name value => pure (some (.constant { site name with location := .nowhere } value))
  | .produced name factory => pure (some (.factory (site name) factory))
  | .constructed type cast =>
    some <$> constructCallSite build (site type.name) (blueprint.catalog.constructors type.id) cast
  | .openGeneric _ =>
    match service with
    | .generic closed _ _ =>
      some <$> constructCallSite build (site closed.name)
        (blueprint.catalog.constructors closed.id) none
    | _ => pure none

def callSiteAt (build : Target → ExceptT Failure m (Option CallSite)) (service : ServiceType)
    (position slot : Nat) : ExceptT Failure m (Option CallSite) :=
  match blueprint.registry.descriptors[position]? with
  | some descriptor => blueprint.callSiteOf build descriptor service slot
  | none => pure none

/-- The graphs of the members of a collection; a member without one is left out. -/
def collectMembers (build : Target → ExceptT Failure m (Option CallSite)) (element : ServiceType) :
    List (Nat × Nat) → ExceptT Failure m (List CallSite)
  | [] => pure []
  | (position, slot) :: rest => do
    let found ← build (.member element position slot)
    let others ← collectMembers build element rest
    pure (found.toList ++ others)

def collectionSite (service element : ServiceType) : Site :=
  { service, implementation := element.name, lifetime := .transient, location := .nowhere
    key := ⟨service, 0⟩ }

def collectCallSite (build : Target → ExceptT Failure m (Option CallSite))
    (service element : ServiceType) : ExceptT Failure m CallSite := do
  let items ← collectMembers build element (blueprint.registry.all element)
  pure (.collect (collectionSite service element) items)

/-- Makes the graph of a target from the graphs that `build` makes. The container's own services
and collections come before any registration. -/
def assemble (build : Target → ExceptT Failure m (Option CallSite)) :
    Target → ExceptT Failure m (Option CallSite)
  | .member service position slot => blueprint.callSiteAt build service position slot
  | .single service =>
    match service.own? with
    | some own => pure (some (ownCallSite service own))
    | none =>
      match service.element with
      | some element => some <$> blueprint.collectCallSite build service element
      | none =>
        match blueprint.registry.single service with
        | some position => blueprint.callSiteAt build service position 0
        | none => pure none

/-- The graph of a target under a chain of keys; `fuel` bounds how much the chain may grow. -/
def buildWithin (fuel : Nat) (chain : Chain) (target : Target) : Build (Option CallSite) := do
  match (← get).lookup target.key with
  | some known => pure known
  | none =>
    match chain.cycle? target.key with
    | some path => throw (.circular path)
    | none =>
      match fuel with
      | 0 => throw (.circular [])
      | fuel + 1 =>
        let built ← blueprint.assemble (buildWithin fuel (chain ++ [target.key])) target
        modify (·.insert target.key built)
        pure built

def layers : ServiceType → List ServiceType
  | .collection element => .collection element :: layers element
  | service => [service]

def mentioned (service : ServiceType) : List ServiceType :=
  let parameters := blueprint.catalog.rows.flatMap fun (_, constructors) =>
    constructors.flatMap Constructor.signature
  (service :: blueprint.registry.descriptors.map (·.service) ++ parameters).flatMap layers

/-- A bound on the keys of a chain: as many slots as registrations for each mentioned service. -/
def chainBound (service : ServiceType) : Nat :=
  (blueprint.mentioned service).length * (blueprint.registry.descriptors.length + 1)

def callSite (service : ServiceType) : Build (Option CallSite) :=
  blueprint.buildWithin (blueprint.chainBound service) [] (.single service)

/-- The graph of one registration; an open definition has none of its own. -/
def callSiteForDescriptor (position : Nat) : Build (Option CallSite) :=
  match blueprint.registry.descriptors[position]? with
  | none => pure none
  | some descriptor =>
    if descriptor.isOpenGeneric then pure none
    else
      blueprint.buildWithin (blueprint.chainBound descriptor.service) []
        (.member descriptor.service position (blueprint.registry.slotOf position))

end Blueprint
end ServiceContainer
