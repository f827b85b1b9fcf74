import ServiceContainer.Descriptor

/-! Look-up of registrations. A service has exact registrations, filed under its canonical
identity, and a closed generic also those of its open definition. Slots count the
registrations that serve one service from the last one: first the exact ones, then the open
ones. -/
namespace ServiceContainer

structure Registry where
  descriptors : List Descriptor := []

namespace Registry

def positions (registry : Registry) (p : Descriptor → Bool) : List Nat :=
  (registry.descriptors.zipIdx.filter (p ·.1)).map (·.2)

def isFiledUnder (service : ServiceType) (descriptor : Descriptor) : Bool :=
  descriptor.openId.isNone && descriptor.service.canonical == service.canonical

def exactFor (registry : Registry) (service : ServiceType) : List Nat :=
  registry.positions (isFiledUnder service)

def openUnder (registry : Registry) (definition : TypeId) : List Nat :=
  registry.positions (·.openId == some definition)

def openFor (registry : Registry) (service : ServiceType) : List Nat :=
  match service.definition with
  | some definition => registry.openUnder definition.id
  | none => []

/-- The registration for a single request: the last exact one, or else the last open one. -/
def single (registry : Registry) (service : ServiceType) : Option Nat :=
  (registry.exactFor service).getLast?.or (registry.openFor service).getLast?

/-- Gives the slots `first`, `first + 1`, … to the positions from the last one backwards. -/
def withSlots (first : Nat) : List Nat → List (Nat × Nat)
  | [] => []
  | position :: rest => (position, first + rest.length) :: withSlots first rest

def all (registry : Registry) (service : ServiceType) : List (Nat × Nat) :=
  let exact := registry.exactFor service
  withSlots 0 exact ++ withSlots exact.length (registry.openFor service)

/-- The slot of a registration among those of its own service. -/
def slotOf (registry : Registry) (position : Nat) : Nat :=
  match registry.descriptors[position]? with
  | none => 0
  | some descriptor =>
    let siblings :=
      match descriptor.openId with
      | some id => registry.openUnder id
      | none => registry.exactFor descriptor.service
    siblings.length - 1 - siblings.idxOf position

def isRegistered (registry : Registry) (service : ServiceType) : Bool :=
  service.isCollection || (registry.single service).isSome

end Registry

/-- What a provider knows before it resolves anything: its registrations, and the constructors
of each type. -/
structure Blueprint where
  registry : Registry := {}
  catalog : Catalog := {}

/-- Whether a request for the service can be met, without building its graph. -/
def Blueprint.isService (blueprint : Blueprint) (service : ServiceType) : Bool :=
  service.own?.isSome || blueprint.registry.isRegistered service

end ServiceContainer
