import ServiceContainer.Disposal

/-! Execution of call sites, by walking the graph or by running its code. Both make a service
from its children and store it as its lifetime says; they differ in what they walk. -/
namespace ServiceContainer.Run

/-- The names from the frame that makes the same key on, if there is one on the stack. -/
def cycle? (stack : List Frame) (engine : EngineId) (key : CacheKey) : Option (List String) :=
  match stack.dropWhile (!·.makes engine key) with
  | [] => none
  | cycle => some ((cycle.filter (·.engine == engine)).map (·.key.name) ++ [key.name])

/-- Runs a construction. One that would run inside itself is a cycle; other providers'
constructions neither close a cycle nor appear in it. -/
def guarded (engine : EngineId) (site : Site) (owner : ScopeId) (construction : Run Value) :
    Run Value := do
  match cycle? (← get).stack engine site.key with
  | some path => throw (.circular path)
  | none =>
    modify (·.enter engine site owner)
    ensuring construction (modify (·.leave engine site.key))

def making (handler : Handler) (site : Site) (owner : ScopeId) (produce : Run Produced) :
    Run Value := do
  modify (·.reserve site owner)
  capture handler site owner (← produce)

/-- Makes a value for its owner, guarded if user code takes part. -/
def made (handler : Handler) (engine : EngineId) (kind : SiteKind) (site : Site) (owner : ScopeId)
    (produce : Run Produced) : Run Value :=
  if kind.constructs then
    guarded engine site owner do
      let value ← making handler site owner produce
      modify (·.complete engine site owner value)
      pure value
  else do
    let value ← making handler site owner produce
    modify (·.keep site owner value)
    pure value

def cached (handler : Handler) (engine : EngineId) (kind : SiteKind) (site : Site) (owner : ScopeId)
    (produce : Run Produced) : Run Value := do
  match ((← get).scope owner).cache.lookup site.key with
  | some (some value) => pure value
  | _ => made handler engine kind site owner produce

def provide (handler : Handler) (engine : EngineId) (kind : SiteKind) (site : Site)
    (owner : ScopeId) (produce : Run Produced) : Run Value :=
  match site.location with
  | .nowhere => made handler engine kind site owner produce
  | .scope => cached handler engine kind site owner produce
  | .root => do
    ensureOpen owner
    cached handler engine kind site owner produce

/-- The value of a call site for a scope, where `produce` makes it for its owner. -/
def deliver (handler : Handler) (kind : SiteKind) (site : Site) (scope : ScopeId)
    (produce : ScopeId → Run Produced) : Run Value := do
  let world ← get
  let engine := (world.scope scope).engine
  let owner := world.ownerFor site.location scope
  let value ← provide handler engine kind site owner (produce owner)
  if kind.constructs then record (.obtained engine site.key owner value)
  pure value

def construct (handler : Handler) (site : Site) (activate : Arguments → Body)
    (cast : Option InterfaceCast) (values : List Value) : Run Produced := do
  let produced ← body handler (activate { implementation := site.implementation, values })
  match cast with
  | none => pure produced
  | some cast => do
    let value ← ExceptT.mk (pure (cast.apply produced.value))
    pure { produced with value }

def ownService (service : OwnService) (scope : ScopeId) : Run Produced := do
  let world ← get
  match service with
  | .scope => pure { value := .scope scope }
  | .scopeFactory => pure { value := .scopeFactory (world.rootOf scope) }
  | .activatorFactory => pure { value := .activatorFactory (world.scope scope).engine }

mutual
def interpret (handler : Handler) : CallSite → ScopeId → Run Value
  | .constant site value, scope =>
    deliver handler .constant site scope fun _ => pure { value }
  | .fallback site value, scope =>
    deliver handler .constant site scope fun _ => pure { value }
  | .factory site factory, scope =>
    deliver handler .factory site scope fun owner => body handler (factory owner)
  | .construct site activate cast parameters, scope =>
    deliver handler .constructor site scope fun owner => do
      construct handler site activate cast (← interpretAll handler parameters owner)
  | .collect site items, scope =>
    deliver handler .enumerable site scope fun owner => do
      pure { value := .list (← interpretAll handler items owner) }
  | .own site service, scope =>
    deliver handler (CallSite.own site service).kind site scope (ownService service)
def interpretAll (handler : Handler) : List CallSite → ScopeId → Run (List Value)
  | [], _ => pure []
  | callSite :: rest, scope => do
    let value ← interpret handler callSite scope
    let others ← interpretAll handler rest scope
    pure (value :: others)
end

mutual
def execute (handler : Handler) : Code → ScopeId → Run Value
  | .constant value, _ => pure value
  | .factory site factory, scope =>
    deliver handler .factory site scope fun owner => body handler (factory owner)
  | .construct site activate cast parameters, scope =>
    deliver handler .constructor site scope fun owner => do
      construct handler site activate cast (← executeAll handler parameters owner)
  | .collect site items, scope =>
    deliver handler .enumerable site scope fun owner => do
      pure { value := .list (← executeAll handler items owner) }
  | .own site service, scope =>
    deliver handler (CallSite.own site service).kind site scope (ownService service)
def executeAll (handler : Handler) : List Code → ScopeId → Run (List Value)
  | [], _ => pure []
  | code :: rest, scope => do
    let value ← execute handler code scope
    let others ← executeAll handler rest scope
    pure (value :: others)
end

def follow (handler : Handler) (scope : ScopeId) : Plan → Run Value
  | .interpret callSite => interpret handler callSite scope
  | .execute code => execute handler code scope

end ServiceContainer.Run
