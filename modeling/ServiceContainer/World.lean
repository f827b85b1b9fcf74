import ServiceContainer.Engine

/-! The state that all operations share: engines, scopes, instance factories, the stack of
constructions in progress, and a journal of everything that happened. -/
namespace ServiceContainer

/-- A disposable that a scope has taken over. Tickets number them in the order of their making. -/
structure Tracked where
  ticket : Nat
  disposable : Disposable

structure Scope where
  engine : EngineId := 0
  /-- The scope that owns singletons; none for a root itself. -/
  root : Option ScopeId := none
  state : ScopeState := .open
  /-- Instances by key; an entry without a value is being made, or its making failed. -/
  cache : Table CacheKey (Option Value) := {}
  /-- Disposables in the order of their making. -/
  bag : List Tracked := []

/-- Activates a type that need not be registered, by a constructor chosen in advance. -/
structure InstanceFactory where
  engine : EngineId
  implementation : TypeInfo
  supplied : List ServiceType
  activate : Arguments → Body
  sources : List ArgumentSource

structure Frame where
  engine : EngineId
  key : CacheKey
  owner : ScopeId

def Frame.makes (frame : Frame) (engine : EngineId) (key : CacheKey) : Bool :=
  frame.engine == engine && frame.key == key

inductive Event where
  | said (line : String)
  | notified (engine : EngineId) (notice : Notice)
  /-- A construction began; its instance is to belong to the owner. -/
  | entered (engine : EngineId) (key : CacheKey) (location : CacheLocation) (owner : ScopeId)
  | left (engine : EngineId) (key : CacheKey)
  /-- A construction succeeded, the owner having taken over the instance. -/
  | completed (engine : EngineId) (key : CacheKey) (owner : ScopeId) (value : Value)
  /-- A constructed instance of the owner, new or cached, was handed to whoever asked for it. -/
  | obtained (engine : EngineId) (key : CacheKey) (owner : ScopeId) (value : Value)
  /-- An instance was made that is to be disposed; its owner took it over if it was still open. -/
  | entrusted (maker : Frame) (tracked : Tracked) (value : Value) (accepted : Bool)
  /-- The scope began to dispose of the instances with these tickets. -/
  | drained (scope : ScopeId) (tickets : List Nat)
  | disposed (ticket : Nat)
  | closed (scope : ScopeId)

structure World where
  engines : List Engine := []
  scopes : List Scope := []
  factories : List InstanceFactory := []
  /-- Constructions in progress, the outermost first. -/
  stack : List Frame := []
  /-- What happened, the latest first. -/
  journal : List Event := []
  metrics : List Metrics := []
  nextSerial : Nat := 0
  nextTicket : Nat := 0
  tallies : Table Nat Nat := {}

namespace World

/-- A scope that was never created is as good as disposed. -/
def scope (world : World) (id : ScopeId) : Scope :=
  world.scopes.getD id { state := .disposed }

def engine (world : World) (id : EngineId) : Engine := world.engines.getD id {}

def graph? (world : World) (id : EngineId) (realization : Nat) : Option CallSite :=
  ((world.engine id).realizations[realization]?).map (·.callSite)

def rootOf (world : World) (id : ScopeId) : ScopeId := (world.scope id).root.getD id

/-- The scope that owns what is made for a scope and kept at the given place. -/
def ownerFor (world : World) (location : CacheLocation) (scope : ScopeId) : ScopeId :=
  match location with
  | .root => world.rootOf scope
  | .scope | .nowhere => scope

def isRoot (world : World) (id : ScopeId) : Bool := (world.scope id).root.isNone

def updateScope (world : World) (id : ScopeId) (change : Scope → Scope) : World :=
  { world with scopes := world.scopes.modify id change }

def updateEngine (world : World) (id : EngineId) (change : Engine → Engine) : World :=
  { world with engines := world.engines.modify id change }

def record (world : World) (event : Event) : World :=
  { world with journal := event :: world.journal }

def enter (world : World) (engine : EngineId) (site : Site) (owner : ScopeId) : World :=
  let frame : Frame := ⟨engine, site.key, owner⟩
  { world with stack := world.stack ++ [frame] }.record
    (.entered engine site.key site.location owner)

def leave (world : World) (engine : EngineId) (key : CacheKey) : World :=
  { world with stack := world.stack.dropLast }.record (.left engine key)

/-- Opens a cache entry for a value that is about to be made, if it is to be kept. -/
def reserve (world : World) (site : Site) (owner : ScopeId) : World :=
  if site.location = .nowhere then world
  else world.updateScope owner fun scope =>
    if scope.cache.contains site.key then scope
    else { scope with cache := scope.cache.insert site.key none }

/-- Stores a made value that is to be kept, unless the cache was emptied while it was made. -/
def keep (world : World) (site : Site) (owner : ScopeId) (value : Value) : World :=
  if site.location = .nowhere then world
  else world.updateScope owner fun scope =>
    if scope.cache.contains site.key then
      { scope with cache := scope.cache.insert site.key (some value) }
    else scope

def complete (world : World) (engine : EngineId) (site : Site) (owner : ScopeId)
    (value : Value) : World :=
  (world.record (.completed engine site.key owner value)).keep site owner value

def frame (world : World) (site : Site) (owner : ScopeId) : Frame :=
  ⟨(world.scope owner).engine, site.key, owner⟩

/-- Numbers a disposable for its owner, which takes it over if it is open. -/
def entrust (world : World) (site : Site) (owner : ScopeId) (disposable : Disposable)
    (value : Value) : World :=
  let tracked : Tracked := ⟨world.nextTicket, disposable⟩
  let numbered := { world with nextTicket := world.nextTicket + 1 }
  if (world.scope owner).state = .open then
    (numbered.updateScope owner fun scope => { scope with bag := scope.bag ++ [tracked] }).record
      (.entrusted (world.frame site owner) tracked value true)
  else numbered.record (.entrusted (world.frame site owner) tracked value false)

/-- Closes a scope for new instances; its disposables have been taken from it. -/
def drain (world : World) (scope : ScopeId) : World :=
  let tickets := (world.scope scope).bag.reverse.map (·.ticket)
  (world.updateScope scope fun found => { found with state := .disposing, bag := [] }).record
    (.drained scope tickets)

/-- Forgets the cached instances of a scope, which is disposed from then on. -/
def close (world : World) (scope : ScopeId) : World :=
  (world.updateScope scope fun found => { found with state := .disposed, cache := {} }).record
    (.closed scope)

def count (world : World) (notice : Notice) (observer : Observer) : World :=
  match observer with
  | .counter metrics =>
    { world with metrics := world.metrics.modify metrics fun counted => notice.count counted }
  | _ => world

def notify (id : EngineId) (world : World) (notice : Notice) : World :=
  let observers := (world.engine id).observers
  if observers.isEmpty then world
  else observers.foldl (count · notice) (world.record (.notified id notice))

/-- Puts an engine back after an action, and sends the notices that it left. -/
def withEngine (world : World) (id : EngineId) (engine : Engine) : World :=
  engine.outbox.foldl (notify id) (world.updateEngine id fun _ => { engine with outbox := [] })

def view? (world : World) (id : ScopeId) : Option ScopeView :=
  world.scopes[id]?.map fun scope =>
    { engine := scope.engine, isRoot := scope.root.isNone, root := scope.root.getD id
      state := scope.state, tracked := scope.bag.length }

def addScope (world : World) (engine : EngineId) (root : Option ScopeId) : ScopeId × World :=
  (world.scopes.length, { world with scopes := world.scopes ++ [{ engine, root }] })

def lines (world : World) : Event → List String
  | .said line => [line]
  | .notified engine notice => (world.engine engine).observers.filterMap (Observer.line? notice)
  | _ => []

end World

/-- A step that always has a result, unless the fuel runs out. -/
abbrev Act := StateT World Option

/-- A step that may fail; what it did until then stays done. -/
abbrev Run := ExceptT Failure Act

abbrev Handler := (request : Request) → Act request.Reply

/-- Runs a program, each of its requests being answered by the handler. -/
def Program.exec (handler : Handler) : Program α → Act α
  | .done result => pure result
  | .ask request next => do
    let reply ← handler request
    (next reply).exec handler

namespace Run

def record (event : Event) : Act Unit := modify (·.record event)

def notify (engine : EngineId) (notice : Notice) : Act Unit := modify (World.notify engine · notice)

def body (handler : Handler) (program : Program (Except Failure α)) : Run α :=
  ExceptT.mk (program.exec handler)

/-- Does the last step after the run, whether it failed or not. -/
def ensuring (run : Run α) (last : Act Unit) : Run α :=
  ExceptT.mk do
    let result ← run.run
    last
    pure result

def onEngine (id : EngineId) (action : EngineAction α) : Run α :=
  ExceptT.mk <| modifyGet fun world =>
    let (result, engine) := action.run (world.engine id)
    (result, world.withEngine id engine)

def ensureOpen (scope : ScopeId) : Run Unit := do
  if ((← get).scope scope).state == .open then pure () else throw .scopeDisposed

end Run
end ServiceContainer
