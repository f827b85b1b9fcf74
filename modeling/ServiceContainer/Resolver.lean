import ServiceContainer.Program

/-! What clients and user code ask of a scope, as programs. Typed requests check the type of
what they get. -/
namespace ServiceContainer

abbrev Asking := ExceptT Failure Program

namespace Resolver

def lift (result : Except Failure α) : Asking α := ExceptT.mk (pure result)

def ask (request : Request) (reply : request.Reply → Except Failure α) : Asking α :=
  ExceptT.mk (.ask request fun answer => .done (reply answer))

def resolveAny (scope : ScopeId) (service : ServiceType) : Asking (Option Value) :=
  ask (.resolve scope service) id

def tryGet (scope : ScopeId) (type : TypeInfo) : Asking (Option Value) := do
  match ← resolveAny scope (.plain type) with
  | some value => some <$> lift (value.as type)
  | none => pure none

def tryGetInterface (scope : ScopeId) (interface : TypeInfo) : Asking (Option Value) := do
  match ← resolveAny scope (.plain interface) with
  | some value => some <$> lift (value.asInterface interface)
  | none => pure none

def required (name : String) : Option Value → Except Failure Value
  | some value => .ok value
  | none => .error (.notFound name)

def get (scope : ScopeId) (type : TypeInfo) : Asking Value := do
  lift (required type.name (← tryGet scope type))

def getInterface (scope : ScopeId) (interface : TypeInfo) : Asking Value := do
  lift (required interface.name (← tryGetInterface scope interface))

/-- All values of a service, each checked; `list` is the type that collections have. -/
def getEach (scope : ScopeId) (list : TypeInfo) (service : ServiceType)
    (check : Value → Except Failure Value) : Asking (List Value) := do
  match ← resolveAny scope (.collection service) with
  | some value => lift do (← value.items list).mapM check
  | none => pure []

def getAll (scope : ScopeId) (list type : TypeInfo) : Asking (List Value) :=
  getEach scope list (.plain type) (·.as type)

def getAllInterface (scope : ScopeId) (list interface : TypeInfo) : Asking (List Value) :=
  getEach scope list (.plain interface) (·.asInterface interface)

def getGeneric (scope : ScopeId) (closed definition : TypeInfo) (arguments : List ServiceType) :
    Asking Value := do
  match ← resolveAny scope (.generic closed definition arguments) with
  | some value => lift (value.as closed)
  | none => throw (.notFound closed.name)

def dispose (scope : ScopeId) (mode : DisposalMode) : Asking Unit :=
  ask (.dispose scope mode) id

def createScope (scope : ScopeId) : Asking ScopeId :=
  ask (.createScope scope) .ok

/-- What can be seen of a scope; one that does not exist is as good as disposed. -/
def inspect (scope : ScopeId) : Asking ScopeView :=
  ask (.inspect scope) fun
    | some view => .ok view
    | none => .error .scopeDisposed

def activator (scope : ScopeId) (service : ServiceType) : Asking (Option Activator) := do
  let view ← inspect scope
  ask (.activator view.engine service) id

def activate (activator : Activator) (scope : ScopeId) : Asking Value :=
  ask (.activate activator scope) id

def prepare (scope : ScopeId) (implementation : TypeInfo) (supplied : List ServiceType) :
    Asking FactoryId := do
  let view ← inspect scope
  ask (.prepare view.engine implementation supplied) id

def create (factory : FactoryId) (scope : ScopeId) (arguments : List Argument) : Asking Value :=
  ask (.create factory scope arguments) id

def createInstance (scope : ScopeId) (implementation : TypeInfo) (arguments : List Argument) :
    Asking Value := do
  let factory ← prepare scope implementation (arguments.map (·.service))
  create factory scope arguments

end Resolver
end ServiceContainer
