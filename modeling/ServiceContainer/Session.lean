import ServiceContainer.Container
import ServiceContainer.Session.Command

/-! Sessions: a collection that grows, the providers built from it, and commands on both. -/
namespace ServiceContainer

open Script Session

structure Session where
  catalog : Catalog := {}
  world : World := {}
  collection : Collection := {}
  observers : List Observer := []
  /-- The root scope of each provider. -/
  providers : List ScopeId := []
  activators : List (Activator × Wanted) := []
  factories : List FactoryId := []

namespace Session

/-- A command's work; it may end early with an answer. -/
abbrev Work := ExceptT Answer (StateT Session Option)

def depth : Nat := 1000000

def run (program : Program α) : Work α :=
  ExceptT.mk fun session => do
    let (result, world) ← Container.run depth program session.world
    pure (.ok result, { session with world })

def attempt (program : Asking α) : Work α := do
  match ← run program.run with
  | .ok result => pure result
  | .error failure => throw (.failed failure)

def onEngine (provider : EngineId) (action : EngineAction α) : Work α := do
  let session ← get
  match (Run.onEngine provider action).run session.world with
  | none => ExceptT.mk fun _ => none
  | some (result, world) =>
    set { session with world }
    match result with
    | .ok result => pure result
    | .error failure => throw (.failed failure)

def found (what : Missing) : Option α → Work α
  | some value => pure value
  | none => throw (.missing what)

def provider (id : EngineId) : Work EngineId := do
  let _ ← found .provider (← get).providers[id]?
  pure id

def placed : Place → Work ScopeId
  | .scope id => do
    let _ ← found .scope ((← get).world.scopes[id]?)
    pure id
  | .provider id => do found .provider ((← get).providers[id]?)

def engine (id : EngineId) : Work Engine := do
  let id ← provider id
  pure ((← get).world.engine id)

def showValue (found : Option Value) : Answer := .value (showFound found)

def observer : Listener → Work Observer
  | .recorder name => pure (.recorder name)
  | .quiet => pure .quiet
  | .silent => pure .silent
  | .metrics => do
    let session ← get
    let world := session.world
    set { session with world := { world with metrics := world.metrics ++ [({} : Metrics)] } }
    pure (.counter world.metrics.length)

/-- Builds a provider; the collection is used up, whether or not the build succeeds. -/
def build (options : Option Options) : Work Answer := do
  let session ← get
  let blueprint : Blueprint := ⟨⟨session.collection.descriptors⟩, session.catalog⟩
  let used := { session with collection := {}, observers := [] }
  match Container.build blueprint (options.getD {}) session.observers session.world with
  | .error failure => do
    set used
    pure (.failed failure)
  | .ok (id, root, world) => do
    set { used with world, providers := session.providers ++ [root] }
    pure (.built id root)

def createScope (scope : ScopeId) : Option TypeInfo → Asking ScopeId
  | none => Resolver.createScope scope
  | some factory => do
    match ← Resolver.get scope factory with
    | .scopeFactory root => Resolver.createScope root
    | _ => throw (.typeMismatch factory.name)

def scopeInfo (place : Place) : Work Answer := do
  let scope ← placed place
  let view ← attempt (Resolver.inspect scope)
  let root ← attempt (Resolver.inspect view.root)
  let description :=
    match place with
    | .scope _ => view.describe
    | .provider _ => describeProvider root
  pure (.scopeInfo ⟨view, description, describeScopeFactory root⟩)

def callSite (id : EngineId) (service : ServiceType) (describe : Bool) : Work Answer := do
  let id ← provider id
  match ← onEngine id (Engine.callSite service) with
  | some callSite => pure (.graph callSite describe)
  | none => pure .nothing

def activator (scope : ScopeId) (wanted : Wanted) : Work Answer := do
  match ← attempt (Resolver.activator scope wanted.service) with
  | none => pure .nothing
  | some activator => do
    let session ← get
    set { session with activators := session.activators ++ [(activator, wanted)] }
    pure (.activator session.activators.length
      (wanted.service.display ++ " " ++ describeActivator wanted.service) describeActivatorFactory)

def prepare (scope : ScopeId) (made : Concrete) (supplied : List ServiceType) : Work Answer := do
  let factory ← attempt (Resolver.prepare scope made.type supplied)
  let session ← get
  set { session with factories := session.factories ++ [factory] }
  pure (.factory session.factories.length
    (ServiceType.displayAll supplied ++ " " ++ describeInstanceFactory made.type.name supplied))

def register (registration : Registration) : Work Descriptor := run registration.descriptor

def setCollection (collection : Collection) : Work Unit :=
  modify fun session => { session with collection }

def work : Command → Work Answer
  | .add registration => do
    let collection := (← get).collection.add (← register registration)
    setCollection collection
    pure (.size collection.size)
  | .tryAdd registration => do
    let descriptor ← register registration
    let (added, collection) := (← get).collection.tryAdd descriptor
    setCollection collection
    pure (.added added collection.size)
  | .extend registrations => do
    let collection := (← get).collection.extend (← registrations.mapM register)
    setCollection collection
    pure (.length collection.size)
  | .size => do pure (.size (← get).collection.size)
  | .contains service => do pure (.truth ((← get).collection.contains service))
  | .descriptors => do pure (.descriptors (← get).collection.descriptors)
  | .observe listener => do
    let observer ← observer listener
    modify fun session => { session with observers := session.observers ++ [observer] }
    pure .noted
  | .build options => build options
  | .options id => do pure (.options (← engine id).options)
  | .providerDescriptors id => do pure (.descriptors (← engine id).blueprint.registry.descriptors)
  | .isService id service => do pure (.truth ((← engine id).isService service))
  | .callSite id service describe => callSite id service describe
  | .createScope place factory => do
    let scope ← placed place
    pure (.scope (← attempt (createScope scope factory)))
  | .scopeInfo place => scopeInfo place
  | .sameScope place other => do
    let scope ← placed place
    let other ← placed (.scope other)
    pure (.truth (scope == other))
  | .dispose place mode => do
    let scope ← placed place
    attempt (Resolver.dispose scope mode)
    pure .done
  | .get place wanted => do
    let scope ← placed place
    pure (showValue (← attempt (wanted.get scope)))
  | .tryGet place wanted => do
    let scope ← placed place
    pure (showValue (← attempt (wanted.tryGet scope)))
  | .resolve place wanted => do
    let scope ← placed place
    pure (showValue (← attempt (Resolver.resolveAny scope wanted.service)))
  | .getRequired place wanted => do
    let scope ← placed place
    match ← run (wanted.get scope).run with
    | .ok found => pure (showValue found)
    | .error failure =>
      pure (.aborted ("Failed to resolve " ++ wanted.service.name ++ ": " ++ failure.message))
  | .activator place wanted => do activator (← placed place) wanted
  | .activate place number => do
    let scope ← placed place
    let (activator, wanted) ← found .activator (← get).activators[number]?
    let value ← attempt (Resolver.activate activator scope)
    let value ← attempt (Resolver.lift (wanted.accept value))
    pure (.value value.render)
  | .prepare place made supplied => do prepare (← placed place) made supplied
  | .create place number supplies => do
    let scope ← placed place
    let factory ← found .factory (← get).factories[number]?
    let arguments ← run (supplyAll supplies)
    pure (.value (← attempt (Resolver.create factory scope arguments)).render)
  | .createInstance place made supplies => do
    let scope ← placed place
    let arguments ← run (supplyAll supplies)
    pure (.value (← attempt (Resolver.createInstance scope made.type arguments)).render)
  | .argumentsInfo supplies => do
    let arguments ← run (supplyAll supplies)
    pure (.arguments (arguments.map (·.service)))
  | .constructors type => do pure (.constructors ((← get).catalog.constructors type.id))
  | .metrics index reset => do
    let session ← get
    let metrics ← found .metrics session.world.metrics[index]?
    if reset then
      set { session with world := { session.world with
        metrics := session.world.metrics.modify index Metrics.reset } }
    pure (.metrics metrics)

def takeLog (session : Session) : List String × Session :=
  (session.world.journal.reverse.flatMap session.world.lines,
    { session with world := { session.world with journal := [] } })

/-- Carries out a command; yields the answer and the lines logged meanwhile. None if user code
nests requests too deep. -/
def step (session : Session) (command : Command) : Option ((Answer × List String) × Session) := do
  let (result, session) ← (work command).run session
  let answer :=
    match result with
    | .ok answer => answer
    | .error answer => answer
  let (log, session) := session.takeLog
  pure ((answer, log), session)

end Session
end ServiceContainer
