import ServiceContainer.Failure
import ServiceContainer.Service.Identity

/-! Service values. A value carries its own type, so that a use at another type is refused with
`typeMismatch`. -/
namespace ServiceContainer

/-- Scopes, providers and instance factories are known by their numbers. -/
abbrev ScopeId := Nat
abbrev EngineId := Nat
abbrev FactoryId := Nat

/-- An instance of a concrete type. Instances made in a run are numbered; parameter defaults are
not. -/
structure Object where
  type : TypeInfo
  serial : Option Nat := none
  text : String

inductive Value where
  | object (made : Object)
  /-- A value held through an interface. -/
  | view (interface : TypeInfo) (inner : Value)
  | list (items : List Value)
  | scope (id : ScopeId)
  /-- Creates child scopes of the given root. -/
  | scopeFactory (root : ScopeId)
  | activatorFactory (engine : EngineId)

namespace Value

/-- The type of the value itself; a value held through an interface is of no plain type. -/
def typeId : Value → Option TypeId
  | .object made => some made.type.id
  | .view _ _ => none
  | .list _ => some listTypeId
  | .scope _ => some OwnService.scope.id
  | .scopeFactory _ => some OwnService.scopeFactory.id
  | .activatorFactory _ => some OwnService.activatorFactory.id

def as (type : TypeInfo) (value : Value) : Except Failure Value :=
  if value.typeId == some type.id then .ok value else .error (.typeMismatch type.name)

def asInterface (interface : TypeInfo) : Value → Except Failure Value
  | .view held inner =>
    if held == interface then .ok (.view held inner) else .error (.typeMismatch interface.name)
  | _ => .error (.typeMismatch interface.name)

/-- The members of a collection; `list` is the type reported for a value that is none. -/
def items (list : TypeInfo) : Value → Except Failure (List Value)
  | .list items => .ok items
  | _ => .error (.typeMismatch list.name)

mutual
def render : Value → String
  | .object made => made.text
  | .view interface inner => interface.shortName ++ "(" ++ inner.render ++ ")"
  | .list items => "[" ++ String.intercalate "," (renderAll items) ++ "]"
  | .scope id => "scope#" ++ toString id
  | .scopeFactory _ => "scopefactory"
  | .activatorFactory _ => "activatorfactory"
def renderAll : List Value → List String
  | [] => []
  | value :: rest => value.render :: renderAll rest
end

end Value
end ServiceContainer
