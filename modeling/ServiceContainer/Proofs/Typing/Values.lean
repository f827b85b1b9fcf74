import Mathlib.Data.List.Forall2
import ServiceContainer.Proofs.Registry
import ServiceContainer.Script.Step

/-! Types of values. A host knows which of its types are interfaces; values of those are held through
them, and all others are of their own type. Main statement: a value that fits a service is accepted by
the check for that service, as it is. -/
namespace ServiceContainer

/-- Which types are interfaces. The container's own types are none. -/
class Interfaces where
  includes : TypeId → Bool
  own : ∀ service : OwnService, includes service.id = false

variable [Interfaces]

namespace Value

def heldAs : Value → Option TypeId
  | .view held _ => some held.id
  | _ => none

def IsA (value : Value) (type : TypeId) : Prop :=
  if Interfaces.includes type then value.heldAs = some type else value.typeId = some type

/-- The value is what the service promises; a collection has fitting members. -/
def Fits (value : Value) : ServiceType → Prop
  | .plain info => value.IsA info.id
  | .generic closed _ _ => value.IsA closed.id
  | .collection element => ∃ items, value = .list items ∧ ∀ item ∈ items, item.Fits element

variable {value : Value} {type : TypeInfo}

theorem isA_concrete (concrete : Interfaces.includes type.id = false) :
    value.IsA type.id ↔ value.typeId = some type.id := by
  simp [IsA, concrete]

theorem isA_interface (interface : Interfaces.includes type.id = true) :
    value.IsA type.id ↔ ∃ held inner, value = .view held inner ∧ (held == type) = true := by
  simp only [IsA, interface, if_true]
  cases value <;> simp [heldAs, BEq.beq]

theorem isA_own (service : OwnService) {id : TypeId} (same : id = service.id) :
    value.IsA id ↔ value.typeId = some id := by
  simp [IsA, same, Interfaces.own service]

theorem fits_of_beq : ∀ {one other : ServiceType} {value : Value}, (one == other) = true →
    (value.Fits one ↔ value.Fits other)
  | .plain a, .plain b, value, same | .generic a _ _, .generic b _ _, value, same => by
    have ids : a.id = b.id := eq_of_beq (α := TypeId) same
    rw [Fits, Fits, ids]
  | .collection a, .collection b, value, same => by
    have members : ∀ item : Value, item.Fits a ↔ item.Fits b := fun _ => fits_of_beq same
    simp only [Fits, members]
  | .plain _, .generic _ _ _, _, same | .plain _, .collection _, _, same => by cases same
  | .generic _ _ _, .plain _, _, same | .generic _ _ _, .collection _, _, same => by cases same
  | .collection _, .plain _, _, same | .collection _, .generic _ _ _, _, same => by cases same

/-- A closed generic promises what its plain type does. -/
theorem fits_congr {one other : ServiceType} (same : (one.canonical == other.canonical) = true) :
    value.Fits one ↔ value.Fits other := by
  have plain : ∀ service : ServiceType, value.Fits service.canonical ↔ value.Fits service := by
    intro service
    cases service <;> rfl
  rw [← plain one, ← plain other, fits_of_beq same]

theorem as_of_isA (concrete : Interfaces.includes type.id = false) (isA : value.IsA type.id) :
    value.as type = .ok value := by
  rw [as, (isA_concrete concrete).1 isA, if_pos BEq.rfl]

theorem asInterface_of_isA (interface : Interfaces.includes type.id = true)
    (isA : value.IsA type.id) : value.asInterface type = .ok value := by
  obtain ⟨held, inner, rfl, same⟩ := (isA_interface interface).1 isA
  rw [asInterface, if_pos same]

end Value

namespace Failure

/-- The failure is, or is brought together from, neither a value of a wrong type nor an argument that
was not declared. -/
def Honest (failure : Failure) : Prop :=
  ∀ cause ∈ failure.flatten, (∀ type, cause ≠ .typeMismatch type) ∧
    ∀ implementation position, cause ≠ .activation implementation
      ("argument " ++ toString (position : Nat) ++ " was not declared")

end Failure

namespace Script.Wanted

def Suits : Wanted → Prop
  | .concrete made => Interfaces.includes made.type.id = false
  | .named type => Interfaces.includes type.id = false
  | .interface type => Interfaces.includes type.id = true
  | .generic closed _ _ => Interfaces.includes closed.id = false
  | .all _ element => element.Suits

omit [Interfaces] in
theorem mapM_eq_ok {items : List Value} {check : Value → Except Failure Value}
    (accepted : ∀ item ∈ items, check item = .ok item) : items.mapM check = .ok items := by
  induction items with
  | nil => rfl
  | cons item rest ih =>
    rw [List.mapM_cons, accepted item List.mem_cons_self,
      ih fun other member => accepted other (List.mem_cons_of_mem _ member)]
    rfl

theorem accept_of_fits {wanted : Wanted} (suits : wanted.Suits) {value : Value}
    (fits : value.Fits wanted.service) : wanted.accept value = .ok value := by
  induction wanted generalizing value with
  | concrete made => exact Value.as_of_isA suits fits
  | named type => exact Value.as_of_isA suits fits
  | interface type => exact Value.asInterface_of_isA suits fits
  | generic closed _ _ => exact Value.as_of_isA suits fits
  | all list element ih =>
    obtain ⟨items, rfl, members⟩ := fits
    have each := mapM_eq_ok fun item member => ih suits (members item member)
    change (items.mapM (element.accept ·) >>= fun items => pure (Value.list items)) = _
    rw [each]
    rfl

end Script.Wanted
end ServiceContainer
