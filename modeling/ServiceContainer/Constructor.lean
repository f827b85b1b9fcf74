import ServiceContainer.Program

/-! Constructors: the services that they take, and the body that makes an instance of them. -/
namespace ServiceContainer

structure Parameter where
  service : ServiceType
  /-- Used when the service is not registered. -/
  fallback : Option Value := none

structure Arguments where
  implementation : String
  values : List Value
  position : Nat := 0

namespace Arguments

/-- The next value; a body that takes more than it declares fails. -/
def take (arguments : Arguments) : Except Failure (Value × Arguments) :=
  match arguments.values[arguments.position]? with
  | some value => .ok (value, { arguments with position := arguments.position + 1 })
  | none =>
    .error (.activation arguments.implementation
      ("argument " ++ toString arguments.position ++ " was not declared"))

def remaining (arguments : Arguments) : Nat := arguments.values.length - arguments.position

end Arguments

structure Constructor where
  /-- The name of the type it makes. -/
  implementation : String
  parameters : List Parameter := []
  preferred : Bool := false
  activate : Arguments → Body

namespace Constructor

def arity (constructor : Constructor) : Nat := constructor.parameters.length

def signature (constructor : Constructor) : List ServiceType :=
  constructor.parameters.map (·.service)

def sameSignature (a b : Constructor) : Bool := a.signature == b.signature

end Constructor

structure Catalog where
  rows : List (TypeId × List Constructor) := []

def Catalog.constructors (catalog : Catalog) (type : TypeId) : List Constructor :=
  (catalog.rows.lookup type).getD []

end ServiceContainer
