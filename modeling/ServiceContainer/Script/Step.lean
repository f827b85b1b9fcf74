import ServiceContainer.Constructor
import ServiceContainer.Resolver

/-! Scripted user code. A body is a list of steps; running it yields a program, which keeps a
record of what the steps saw. -/
namespace ServiceContainer.Script

/-- A concrete type that scripts make instances of, with the label its instances are shown by. -/
structure Concrete where
  type : TypeInfo
  label : String

inductive Wanted where
  | concrete (made : Concrete)
  /-- One of the container's own types, or a type that has no instances. -/
  | named (type : TypeInfo)
  | interface (type : TypeInfo)
  | generic (closed definition : TypeInfo) (arguments : List ServiceType)
  /-- All registrations of the element; `list` is the type that collections have. -/
  | all (list : TypeInfo) (element : Wanted)

namespace Wanted

def service : Wanted → ServiceType
  | .concrete made => .plain made.type
  | .named type => .plain type
  | .interface type => .plain type
  | .generic closed definition arguments => .generic closed definition arguments
  | .all _ element => .collection element.service

def accept : Wanted → Value → Except Failure Value
  | .concrete made, value => value.as made.type
  | .named type, value => value.as type
  | .interface type, value => value.asInterface type
  | .generic closed _ _, value => value.as closed
  | .all list element, value => do
    let items ← value.items list
    let items ← items.mapM fun item => accept element item
    pure (.list items)

/-- Resolves by the request that fits the service; collections of other than concrete types and
interfaces are taken as they come. -/
def get (scope : ScopeId) : Wanted → Asking (Option Value)
  | .concrete made => some <$> Resolver.get scope made.type
  | .named type => some <$> Resolver.get scope type
  | .interface type => some <$> Resolver.getInterface scope type
  | .generic closed definition arguments =>
    some <$> Resolver.getGeneric scope closed definition arguments
  | .all list (.concrete made) => do pure (some (.list (← Resolver.getAll scope list made.type)))
  | .all list (.interface type) => do
    pure (some (.list (← Resolver.getAllInterface scope list type)))
  | .all list element => Resolver.resolveAny scope (Wanted.all list element).service

def tryGet (scope : ScopeId) : Wanted → Asking (Option Value)
  | .concrete made => Resolver.tryGet scope made.type
  | .named type => Resolver.tryGet scope type
  | .interface type => Resolver.tryGetInterface scope type
  | wanted => Resolver.resolveAny scope wanted.service

end Wanted

def showFound : Option Value → String
  | some value => value.render
  | none => "none"

def showFailure (failure : Failure) : String := "!" ++ failure.kind

def say (line : String) : Program Unit := .ask (.say line) .done

def Concrete.make (made : Concrete) (tag : String) (dependencies : List String) : Program Object :=
  .ask .serial fun (serial : Nat) =>
    let text := made.label ++ "#" ++ toString serial ++ "/" ++ tag
    .ask (.say ("new " ++ text ++ " deps=[" ++ String.intercalate "," dependencies ++ "]"))
      fun _ => .done { type := made.type, serial := some serial, text }

/-- An instance that stands in for an unregistered parameter. -/
def Concrete.standIn (made : Concrete) (tag : String) : Object :=
  { type := made.type, text := made.label ++ "#d/" ++ tag }

structure Supply where
  made : Concrete
  interface : Option TypeInfo := none
  tag : String := "arg"

def Supply.make (supply : Supply) : Program Argument := do
  let object ← supply.made.make supply.tag []
  match supply.interface with
  | none => pure { service := .plain supply.made.type, value := .object object }
  | some interface =>
    pure { service := .plain interface, value := .view interface (.object object) }

def Supply.service (supply : Supply) : ServiceType :=
  .plain (supply.interface.getD supply.made.type)

inductive Step where
  | get (wanted : Wanted)
  /-- Like `get`, but a failure is only recorded. -/
  | attempt (wanted : Wanted)
  | optional (wanted : Wanted)
  | fail (message : String)
  /-- Fails as long as the step has run at most `limit` times; `counter` is the step's own. -/
  | failFirst (counter limit : Nat)
  | raise (failure : Failure)
  /-- Disposes of the scope, or of its root. -/
  | dispose (root : Bool)
  | child (steps : List Step)
  /-- Takes the steps on a scope of the given number. -/
  | within (scope : ScopeId) (steps : List Step)
  | info
  | activate (wanted : Wanted)
  | make (made : Concrete) (arguments : List Supply)

structure Notebook where
  recorded : List String := []
  arguments : Arguments := { implementation := "", values := [] }
  /-- The scope taken last, which the made instance keeps. -/
  held : Option ScopeId := none

/-- A running body; what it recorded stays recorded when it fails. -/
abbrev Running := ExceptT Failure (StateT Notebook Program)

namespace Running

def lift (program : Asking α) : Running α :=
  ExceptT.mk fun notebook => do
    let result ← program.run
    pure (result, notebook)

def note (text : String) : Running Unit :=
  modify fun notebook => { notebook with recorded := notebook.recorded ++ [text] }

/-- Fails while the counter is at most `limit`; `type` is the name of what the body makes. -/
def failFirst (type : String) (counter limit : Nat) : Running Unit := do
  let count ← lift (Resolver.ask (.tally counter) .ok)
  if count ≤ limit then throw (.activation type ("attempt " ++ toString count))

end Running

open Running

def supplyAll (supplies : List Supply) : Program (List Argument) := supplies.mapM Supply.make

def ScopeView.info (scope : ScopeId) (view : ScopeView) : String :=
  "scope#" ++ toString scope ++ " root=" ++ (if view.isRoot then "true" else "false") ++ " " ++
    view.state.name ++ " disposed=" ++ (if view.state == .open then "false" else "true") ++
    " tracked=" ++ toString view.tracked

def showOutcome : Except Failure Unit → String
  | .ok _ => "ok"
  | .error failure => showFailure failure

namespace Step

mutual
def take (type : String) (scope : ScopeId) : Step → Running Unit
  | .get wanted => do note (showFound (← lift (wanted.get scope)))
  | .attempt wanted => do
    match ← lift (ExceptT.mk (Except.ok <$> (wanted.get scope).run)) with
    | .ok found => note (showFound found)
    | .error failure => note (showFailure failure)
  | .optional wanted => do note (showFound (← lift (wanted.tryGet scope)))
  | .fail message => throw (.activation type message)
  | .failFirst counter limit => Running.failFirst type counter limit
  | .raise failure => throw failure
  | .dispose root => do
    let target ← if root then (·.root) <$> lift (Resolver.inspect scope) else pure scope
    note (showOutcome (← lift (ExceptT.mk (Except.ok <$> (Resolver.dispose target .sync).run))))
  | .child steps => do
    let child ← lift (Resolver.createScope scope)
    takeAll type child steps
  | .within other steps => do
    match ← lift (Resolver.ask (.inspect other) .ok) with
    | some _ => takeAll type other steps
    | none => note "noscope"
  | .info => do note (ScopeView.info scope (← lift (Resolver.inspect scope)))
  | .activate wanted => do
    match ← lift (Resolver.activator scope wanted.service) with
    | none => note "none"
    | some activator =>
      let value ← lift (Resolver.activate activator scope)
      let value ← lift (Resolver.lift (wanted.accept value))
      note value.render
  | .make made supplies => do
    let arguments ← lift (ExceptT.lift (supplyAll supplies))
    let value ← lift (Resolver.createInstance scope made.type arguments)
    note value.render
def takeAll (type : String) (scope : ScopeId) : List Step → Running Unit
  | [] => pure ()
  | step :: rest => do
    take type scope step
    takeAll type scope rest
end

end Step

inductive BodyStep where
  | next (wanted : Wanted)
  | remaining
  | provider (scope : Wanted) (steps : List Step)
  /-- Takes a scope factory and the steps on a new scope of it. -/
  | scopes (factory : Wanted) (steps : List Step)
  | fail (message : String)
  | failFirst (counter limit : Nat)
  | raise (failure : Failure)

namespace BodyStep

/-- The next argument as the wanted type. An argument of another type is used up. -/
def takeNext (wanted : Wanted) : Running Value := do
  let (value, arguments) ← ExceptT.mk (pure (← get).arguments.take)
  modify fun notebook => { notebook with arguments }
  ExceptT.mk (pure (wanted.accept value))

def hold (value : Value) : Running Unit :=
  match value with
  | .scope scope => modify fun notebook => { notebook with held := some scope }
  | _ => pure ()

def take (type : String) : BodyStep → Running Unit
  | .next wanted => do
    let value ← takeNext wanted
    hold value
    note value.render
  | .remaining => do note (toString (← get).arguments.remaining)
  | .provider wanted steps => do
    let value ← takeNext wanted
    hold value
    match value with
    | .scope scope => Step.takeAll type scope steps
    | _ => pure ()
  | .scopes wanted steps => do
    match ← takeNext wanted with
    | .scopeFactory root => do
      let child ← lift (Resolver.createScope root)
      Step.takeAll type child steps
    | _ => pure ()
  | .fail message => throw (.activation type message)
  | .failFirst counter limit => Running.failFirst type counter limit
  | .raise failure => throw failure

def takeAll (type : String) : List BodyStep → Running Unit
  | [] => pure ()
  | step :: rest => do
    take type step
    takeAll type rest

end BodyStep
end ServiceContainer.Script
