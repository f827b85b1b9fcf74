import ServiceContainer.Constructor
import ServiceContainer.Service.Key
import ServiceContainer.Service.Lifetime

/-! Registrations of services, and the collection that a provider is built from. -/
namespace ServiceContainer

/-- Exposes an instance of a concrete type through an interface. -/
structure InterfaceCast where
  concrete : TypeInfo
  interface : TypeInfo

def InterfaceCast.apply (cast : InterfaceCast) (value : Value) : Except Failure Value := do
  let value ← value.as cast.concrete
  pure (.view cast.interface value)

inductive Implementation where
  | constructed (type : TypeInfo) (cast : Option InterfaceCast)
  | produced (name : String) (factory : ScopeId → Body)
  /-- A value that its registrar owns. -/
  | fixed (name : String) (value : Value)
  /-- By a constructor of each closed type that names the definition. -/
  | openGeneric (definition : TypeInfo)

namespace Implementation

def name : Implementation → String
  | .constructed type _ => type.name
  | .produced name _ => name
  | .fixed name _ => name
  | .openGeneric definition => definition.name

def kind : Implementation → String
  | .constructed _ _ => "Type"
  | .produced _ _ => "Factory"
  | .fixed _ _ => "Instance"
  | .openGeneric _ => "OpenGeneric"

end Implementation

structure Descriptor where
  service : ServiceType
  lifetime : Lifetime
  implementation : Implementation

namespace Descriptor

def isOpenGeneric (descriptor : Descriptor) : Bool :=
  match descriptor.implementation with
  | .openGeneric _ => true
  | _ => false

/-- An open definition is filed under its type; a registration of a collection is never one. -/
def openId (descriptor : Descriptor) : Option TypeId :=
  if descriptor.isOpenGeneric then descriptor.service.typeId else none

end Descriptor

structure Collection where
  descriptors : List Descriptor := []

namespace Collection

def size (collection : Collection) : Nat := collection.descriptors.length

def isEmpty (collection : Collection) : Bool := collection.descriptors.isEmpty

def contains (collection : Collection) (service : ServiceType) : Bool :=
  collection.descriptors.any (·.service == service)

def add (collection : Collection) (descriptor : Descriptor) : Collection :=
  ⟨collection.descriptors ++ [descriptor]⟩

/-- Adds a registration unless one of the same service is there; tells whether it did. -/
def tryAdd (collection : Collection) (descriptor : Descriptor) : Bool × Collection :=
  if collection.contains descriptor.service then (false, collection)
  else (true, collection.add descriptor)

def extend (collection : Collection) (descriptors : List Descriptor) : Collection :=
  ⟨collection.descriptors ++ descriptors⟩

end Collection
end ServiceContainer
