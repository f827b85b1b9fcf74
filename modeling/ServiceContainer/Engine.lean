import ServiceContainer.CallSite.Builder
import ServiceContainer.Captive
import ServiceContainer.Execution.Code
import ServiceContainer.Observer
import ServiceContainer.Options

/-! The engine of a provider: it builds, checks and realizes graphs, each service once. What it
has realized it never changes or forgets. Nothing here runs user code. -/
namespace ServiceContainer

structure Realization where
  callSite : CallSite
  accessor : Accessor

structure Engine where
  blueprint : Blueprint := {}
  options : Options := {}
  observers : List Observer := []
  memo : Memo := {}
  verdicts : Verdicts := {}
  realizations : List Realization := []
  /-- The realization of each service asked for; `none` if nothing provides it. -/
  published : Table ServiceType (Option Nat) := {}
  outbox : List Notice := []
  deriving Inhabited

abbrev EngineAction := ExceptT Failure (StateM Engine)

namespace EngineAction

def onMemo (build : Build α) : EngineAction α :=
  ExceptT.mk do
    let engine ← get
    let (result, memo) := build.run engine.memo
    set { engine with memo }
    pure result

def onVerdicts (check : Check α) : EngineAction α :=
  ExceptT.mk do
    let engine ← get
    let (result, verdicts) := check.run engine.verdicts
    set { engine with verdicts }
    pure result

end EngineAction

namespace Engine

def isService (engine : Engine) (service : ServiceType) : Bool := engine.blueprint.isService service

def callSite (service : ServiceType) : EngineAction (Option CallSite) := do
  .onMemo ((← get).blueprint.callSite service)

def validateGraph (callSite : CallSite) : EngineAction Unit := do
  if (← get).options.validateScopes then
    let _ ← EngineAction.onVerdicts callSite.checkLifetimes

def firstAccessor (callSite : CallSite) : Mode → Accessor
  | .runtime => .interpreted
  | .compiled => .compiled (Code.ofCallSite callSite)
  | .dynamic => .adaptive 0 none

def withRealization (engine : Engine) (service : ServiceType) (callSite : CallSite) : Engine :=
  { engine with
    realizations :=
      engine.realizations ++ [⟨callSite, firstAccessor callSite engine.options.mode⟩]
    published := engine.published.insert service (some engine.realizations.length)
    outbox := engine.outbox ++ [.built callSite.kind callSite.site.service callSite.site.lifetime] }

/-- The realization of a service, built and checked at the first request. -/
def realize (service : ServiceType) : EngineAction (Option Nat) := do
  match (← get).published.lookup service with
  | some known => pure known
  | none =>
    match ← callSite service with
    | some callSite =>
      validateGraph callSite
      let engine ← get
      set (engine.withRealization service callSite)
      pure (some engine.realizations.length)
    | none =>
      modify fun engine => { engine with published := engine.published.insert service none }
      pure none

/-- Refuses to resolve a graph from the root that needs a scoped service. -/
def validateResolution (callSite : CallSite) (fromRoot : Bool) : EngineAction Unit := do
  if (← get).options.validateScopes && fromRoot then
    match ← EngineAction.onVerdicts callSite.checkLifetimes with
    | some dependency =>
      throw (.directScopedResolutionFromRoot callSite.site.service.name dependency)
    | none => pure ()

def nextPlan (id : Nat) : StateM Engine (Option Plan) := do
  match (← get).realizations[id]? with
  | none => pure none
  | some realization =>
    let (plan, accessor) := realization.accessor.next realization.callSite
    modify fun engine =>
      { engine with realizations := engine.realizations.set id { realization with accessor } }
    pure (some plan)

def validateDescriptor (position : Nat) : EngineAction Unit := do
  match ← .onMemo ((← get).blueprint.callSiteForDescriptor position) with
  | some callSite => validateGraph callSite
  | none => pure ()

def collectFailures (position : Nat) : (remaining : Nat) → StateM Engine (List Failure)
  | 0 => pure []
  | remaining + 1 => do
    let checked ← (validateDescriptor position).run
    let others ← collectFailures (position + 1) remaining
    match checked with
    | .ok _ => pure others
    | .error failure => pure (failure :: others)

/-- Checks every registration and reports all that fail. -/
def validateDescriptors : EngineAction Unit := do
  let failures ← collectFailures 0 (← get).blueprint.registry.descriptors.length
  if failures.isEmpty then pure () else throw (.aggregate failures)

def build (blueprint : Blueprint) (options : Options) (observers : List Observer) :
    Except Failure Engine :=
  let engine : Engine := { blueprint, options, observers }
  if options.validateOnBuild then
    match validateDescriptors.run engine with
    | (.ok _, engine) => .ok engine
    | (.error failure, _) => .error failure
  else .ok engine

end Engine

/-- Where an argument of an instance factory's constructor comes from. -/
inductive ArgumentSource where
  | supplied (position : Nat)
  | service (realization : Nat)
  | fallback (value : Value)

namespace Engine

def firstUnused (supplied : List ServiceType) (used : List Nat) (service : ServiceType) :
    Option Nat :=
  (List.range supplied.length).find? fun position =>
    !used.contains position && supplied[position]?.any (· == service)

/-- The source of a parameter, if it has one, and the supplied positions used up to it. -/
def sourceOf (supplied : List ServiceType) (used : List Nat) (parameter : Parameter) :
    EngineAction (Option ArgumentSource × List Nat) :=
  match firstUnused supplied used parameter.service with
  | some position => pure (some (.supplied position), position :: used)
  | none => do
    let realized ← realize parameter.service
    pure ((realized.map .service).or (parameter.fallback.map .fallback), used)

def bindSources (supplied : List ServiceType) (used : List Nat) :
    List Parameter → EngineAction (Binding (List ArgumentSource × List Nat))
  | [] => pure (.bound ([], used))
  | parameter :: rest => do
    let (source, used) ← sourceOf supplied used parameter
    match source with
    | none => pure (.missing parameter.service.name)
    | some source =>
      match ← bindSources supplied used rest with
      | .bound (sources, used) => pure (.bound (source :: sources, used))
      | .missing service => pure (.missing service)

/-- The sources of a constructor's arguments; every supplied service has to be used. -/
def bindSupplied (supplied : List ServiceType) (constructor : Constructor) :
    EngineAction (Binding (List ArgumentSource)) := do
  match ← bindSources supplied [] constructor.parameters with
  | .missing service => pure (.missing service)
  | .bound (sources, used) =>
    match (List.range supplied.length).find? (!used.contains ·) with
    | some position => pure (.missing ((supplied[position]?.map ServiceType.name).getD ""))
    | none => pure (.bound sources)

/-- The constructor that makes a type from the supplied services, and its arguments' sources. -/
def prepare (implementation : TypeInfo) (supplied : List ServiceType) :
    EngineAction (Constructor × List ArgumentSource) := do
  let constructors := (← get).blueprint.catalog.constructors implementation.id
  Constructor.select implementation.name constructors (bindSupplied supplied)

end Engine
end ServiceContainer
