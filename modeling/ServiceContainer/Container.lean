import ServiceContainer.Execution.Interpreter

/-! Resolution of services, and the answers to every request. User code runs only inside
answers; each level of nesting takes one unit of fuel. -/
namespace ServiceContainer
namespace Run

def execution (handler : Handler) (engine : EngineId) (realization : Nat) (scope : ScopeId) :
    Run Value := do
  match ← onEngine engine (Engine.nextPlan realization : StateM Engine _) with
  | some plan => follow handler scope plan
  | none => throw .scopeDisposed

def observed (engine : EngineId) (service : ServiceType) (run : Run Value) : Run Value :=
  ExceptT.mk do
    notify engine (.resolving service)
    let result ← run.run
    match result with
    | .ok _ => notify engine (.resolved service 0)
    | .error failure => notify engine (.failed service failure)
    pure result

def invoke (handler : Handler) (engine : EngineId) (realization : Nat) (scope : ScopeId) :
    Run Value := do
  ensureOpen scope
  let world ← get
  match world.graph? engine realization with
  | none => throw .scopeDisposed
  | some callSite => do
    onEngine engine (Engine.validateResolution callSite (world.isRoot scope))
    if (world.engine engine).observers.isEmpty then execution handler engine realization scope
    else observed engine callSite.site.service (execution handler engine realization scope)

def resolve (handler : Handler) (scope : ScopeId) (service : ServiceType) : Run (Option Value) := do
  ensureOpen scope
  let engine := ((← get).scope scope).engine
  match ← onEngine engine (Engine.realize service) with
  | some realization => some <$> invoke handler engine realization scope
  | none => pure none

/-- Adds a child of the scope's root. A scope that was never created has no children. -/
def createScope (scope : ScopeId) : Act ScopeId :=
  modifyGet fun world =>
    match world.scopes[scope]? with
    | none => (scope, world)
    | some parent => world.addScope parent.engine (some (parent.root.getD scope))

def activator (engine : EngineId) (service : ServiceType) : Run (Option Activator) := do
  let realized ← onEngine engine (Engine.realize service)
  pure (realized.map fun realization => { engine, realization })

def checkEngine (engine : EngineId) (scope : ScopeId) (name : String) : Run Unit := do
  if ((← get).scope scope).engine == engine then pure ()
  else throw (.activation name "scope belongs to a different provider")

def activatorName (world : World) (activator : Activator) : String :=
  ((world.graph? activator.engine activator.realization).map (·.site.service.name)).getD ""

def activate (handler : Handler) (activator : Activator) (scope : ScopeId) : Run Value := do
  checkEngine activator.engine scope (activatorName (← get) activator)
  invoke handler activator.engine activator.realization scope

def addFactory (factory : InstanceFactory) : Act FactoryId :=
  modifyGet fun world =>
    (world.factories.length, { world with factories := world.factories ++ [factory] })

/-- A factory for a type, whose constructor has to use all supplied services. -/
def prepare (engine : EngineId) (implementation : TypeInfo) (supplied : List ServiceType) :
    Run FactoryId := do
  let (chosen, sources) ← onEngine engine (Engine.prepare implementation supplied)
  let made : InstanceFactory :=
    { engine, implementation, supplied, activate := chosen.activate, sources }
  addFactory made

def draw (handler : Handler) (engine : EngineId) (scope : ScopeId) (arguments : List Argument) :
    ArgumentSource → Run Value
  | .supplied position =>
    match arguments[position]? with
    | some argument => pure argument.value
    | none => throw .scopeDisposed
  | .service realization => invoke handler engine realization scope
  | .fallback value => pure value

def gather (handler : Handler) (engine : EngineId) (scope : ScopeId) (arguments : List Argument) :
    List ArgumentSource → Run (List Value)
  | [] => pure []
  | source :: rest => do
    let value ← draw handler engine scope arguments source
    let others ← gather handler engine scope arguments rest
    pure (value :: others)

/-- Makes an instance that belongs to the caller: no scope caches it or disposes of it. -/
def create (handler : Handler) (factory : FactoryId) (scope : ScopeId) (arguments : List Argument) :
    Run Value := do
  match (← get).factories[factory]? with
  | none => throw .scopeDisposed
  | some factory => do
    let name := factory.implementation.name
    checkEngine factory.engine scope name
    ensureOpen scope
    let given := arguments.map (·.service)
    if given == factory.supplied then
      let values ← gather handler factory.engine scope arguments factory.sources
      let produced ← body handler (factory.activate { implementation := name, values })
      ExceptT.mk (pure (produced.value.as factory.implementation))
    else
      throw (.activation name
        ("expected arguments " ++ ServiceType.displayAll factory.supplied ++ ", got " ++
          ServiceType.displayAll given))

def serial : Act Nat :=
  modifyGet fun world => (world.nextSerial, { world with nextSerial := world.nextSerial + 1 })

def tally (counter : Nat) : Act Nat :=
  modifyGet fun world =>
    let count := (world.tallies.lookup counter).getD 0 + 1
    (count, { world with tallies := world.tallies.insert counter count })

end Run

namespace Container

/-- Answers one request; requests of the user code that it runs go to the handler. -/
def respond (handler : Handler) : Handler
  | .resolve scope service => (Run.resolve handler scope service).run
  | .createScope scope => Run.createScope scope
  | .dispose scope mode => (Run.dispose handler scope mode).run
  | .inspect scope => do pure ((← get).view? scope)
  | .activator engine service => (Run.activator engine service).run
  | .activate activator scope => (Run.activate handler activator scope).run
  | .prepare engine implementation supplied => (Run.prepare engine implementation supplied).run
  | .create factory scope arguments => (Run.create handler factory scope arguments).run
  | .serial => Run.serial
  | .tally counter => Run.tally counter
  | .say line => Run.record (.said line)

/-- Answers requests nested up to the given depth. -/
def perform : (fuel : Nat) → Handler
  | 0 => fun _ _ => none
  | fuel + 1 => respond (perform fuel)

/-- Runs a client's program from a world; none if its requests nest deeper than the fuel. -/
def run (fuel : Nat) (program : Program α) (world : World) : Option (α × World) :=
  program.exec (perform fuel) world

/-- Adds a provider and its root scope. A failed build changes nothing. -/
def build (blueprint : Blueprint) (options : Options) (observers : List Observer) (world : World) :
    Except Failure (EngineId × ScopeId × World) := do
  let engine ← Engine.build blueprint options observers
  let id := world.engines.length
  let (root, world) := { world with engines := world.engines ++ [engine] : World }.addScope id none
  pure (id, root, world)

end Container
end ServiceContainer
