import ServiceContainer.Container

/-! Requests that are answered by consulting the engines in another way, such as one that does not
survive a failed lifetime check. Main statement: in the usual way, the answers are the usual
ones. -/
namespace ServiceContainer

/-- A way to have an engine do something. -/
abbrev Consultation := (α : Type) → EngineId → EngineAction α → Run α

namespace Run
variable (consult : Consultation) (handler : Handler)

def invokeBy (engine : EngineId) (realization : Nat) (scope : ScopeId) : Run Value := do
  ensureOpen scope
  let world ← get
  match world.graph? engine realization with
  | none => throw .scopeDisposed
  | some callSite => do
    consult _ engine (Engine.validateResolution callSite (world.isRoot scope))
    if (world.engine engine).observers.isEmpty then execution handler engine realization scope
    else observed engine callSite.site.service (execution handler engine realization scope)

def resolveBy (scope : ScopeId) (service : ServiceType) : Run (Option Value) := do
  ensureOpen scope
  let engine := ((← get).scope scope).engine
  match ← consult _ engine (Engine.realize service) with
  | some realization => some <$> invokeBy consult handler engine realization scope
  | none => pure none

def activatorBy (engine : EngineId) (service : ServiceType) : Run (Option Activator) := do
  let realized ← consult _ engine (Engine.realize service)
  pure (realized.map fun realization => { engine, realization })

def activateBy (activator : Activator) (scope : ScopeId) : Run Value := do
  checkEngine activator.engine scope (activatorName (← get) activator)
  invokeBy consult handler activator.engine activator.realization scope

def prepareBy (engine : EngineId) (implementation : TypeInfo) (supplied : List ServiceType) :
    Run FactoryId := do
  let (chosen, sources) ← consult _ engine (Engine.prepare implementation supplied)
  addFactory { engine, implementation, supplied, activate := chosen.activate, sources }

def drawBy (engine : EngineId) (scope : ScopeId) (arguments : List Argument) :
    ArgumentSource → Run Value
  | .supplied position =>
    match arguments[position]? with
    | some argument => pure argument.value
    | none => throw .scopeDisposed
  | .service realization => invokeBy consult handler engine realization scope
  | .fallback value => pure value

def gatherBy (engine : EngineId) (scope : ScopeId) (arguments : List Argument) :
    List ArgumentSource → Run (List Value)
  | [] => pure []
  | source :: rest => do
    let value ← drawBy consult handler engine scope arguments source
    let others ← gatherBy engine scope arguments rest
    pure (value :: others)

def createBy (factory : FactoryId) (scope : ScopeId) (arguments : List Argument) : Run Value := do
  match (← get).factories[factory]? with
  | none => throw .scopeDisposed
  | some factory => do
    let name := factory.implementation.name
    checkEngine factory.engine scope name
    ensureOpen scope
    let given := arguments.map (·.service)
    if given == factory.supplied then
      let values ← gatherBy consult handler factory.engine scope arguments factory.sources
      let produced ← body handler (factory.activate { implementation := name, values })
      ExceptT.mk (pure (produced.value.as factory.implementation))
    else
      throw (.activation name
        ("expected arguments " ++ ServiceType.displayAll factory.supplied ++ ", got " ++
          ServiceType.displayAll given))

end Run

namespace Container

def respondBy (consult : Consultation) (handler : Handler) : Handler
  | .resolve scope service => (Run.resolveBy consult handler scope service).run
  | .activator engine service => (Run.activatorBy consult engine service).run
  | .activate activator scope => (Run.activateBy consult handler activator scope).run
  | .prepare engine implementation supplied =>
    (Run.prepareBy consult engine implementation supplied).run
  | .create factory scope arguments => (Run.createBy consult handler factory scope arguments).run
  | request => respond handler request

def performBy (consult : Consultation) : (fuel : Nat) → Handler
  | 0 => fun _ _ => none
  | fuel + 1 => respondBy consult (performBy consult fuel)

end Container

namespace Run

theorem gatherBy_onEngine (handler : Handler) : gatherBy @onEngine handler = gather handler := by
  funext engine scope arguments sources
  induction sources with
  | nil => rfl
  | cons source rest ih =>
    rw [gatherBy, gather, ih]
    cases source <;> rfl

theorem createBy_onEngine (handler : Handler) (factory : FactoryId) (scope : ScopeId)
    (arguments : List Argument) :
    createBy @onEngine handler factory scope arguments =
      create handler factory scope arguments := by
  unfold createBy
  exact gatherBy_onEngine handler ▸ rfl

end Run

namespace Container

theorem respondBy_onEngine (handler : Handler) :
    respondBy @Run.onEngine handler = respond handler := by
  funext request
  cases request with
  | create factory scope arguments =>
    exact congrArg ExceptT.run (Run.createBy_onEngine handler factory scope arguments)
  | resolve _ _ | createScope _ | dispose _ _ | inspect _ | activator _ _ | activate _ _
  | prepare _ _ _ | serial | tally _ | say _ => rfl

theorem performBy_onEngine (fuel : Nat) : performBy @Run.onEngine fuel = perform fuel := by
  induction fuel with
  | zero => rfl
  | succ fuel ih => rw [performBy, perform, ih, respondBy_onEngine]

end Container

end ServiceContainer
