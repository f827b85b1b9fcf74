import ServiceContainer.World

/-! Disposal of scopes. A scope takes over the disposables made for it while it is open, and
disposes of them once, the last made first. -/
namespace ServiceContainer.Run

def cleanUp (handler : Handler) (tracked : Tracked) : Act Unit := do
  record (.disposed tracked.ticket)
  tracked.disposable.cleanup.exec handler

def entrust (site : Site) (owner : ScopeId) (disposable : Disposable) (value : Value) :
    Act (Tracked × Bool) :=
  modifyGet fun world =>
    ((⟨world.nextTicket, disposable⟩, (world.scope owner).state == .open),
      world.entrust site owner disposable value)

/-- Gives a made value's disposal to its owner. If the owner is no longer open, a value with
synchronous disposal is disposed at once and the resolution fails. -/
def capture (handler : Handler) (site : Site) (owner : ScopeId) (produced : Produced) :
    Run Value :=
  match produced.disposable with
  | none => pure produced.value
  | some disposable => do
    let (tracked, accepted) ← entrust site owner disposable produced.value
    if accepted then pure produced.value
    else do
      if disposable.mode == .sync then cleanUp handler tracked
      throw .scopeDisposed

/-- Disposes of the instances in order; synchronous disposal skips asynchronous ones. Yields how
many were disposed, and the type of the first that was skipped. -/
def cleanUpAll (handler : Handler) (mode : DisposalMode) : List Tracked → Act (Nat × Option String)
  | [] => pure (0, none)
  | tracked :: rest =>
    if mode == .sync && tracked.disposable.mode == .async then do
      let (count, _) ← cleanUpAll handler mode rest
      pure (count, some tracked.disposable.service)
    else do
      cleanUp handler tracked
      let (count, skipped) ← cleanUpAll handler mode rest
      pure (count + 1, skipped)

def drain (scope : ScopeId) : Act (List Tracked) :=
  modifyGet fun world => ((world.scope scope).bag.reverse, world.drain scope)

def close (scope : ScopeId) (disposed : Nat) : Act Unit := do
  let world ← get
  modify (·.close scope)
  notify (world.scope scope).engine (.scopeDisposed (world.isRoot scope) disposed)

/-- Disposes of a scope. On a scope that is not open this does nothing. -/
def dispose (handler : Handler) (scope : ScopeId) (mode : DisposalMode) : Run Unit := do
  if ((← get).scope scope).state == .open then
    let items ← drain scope
    let (count, skipped) ← cleanUpAll handler mode items
    close scope count
    match skipped with
    | some service => throw (.asyncDisposalRequired service)
    | none => pure ()

end ServiceContainer.Run
