import Mathlib.Logic.Function.Iterate
import ServiceContainer.Service.Key

/-! Laws of the identities of services. A service is told apart by its outline: how deep its innermost
type is nested, whether that is asked for as a closed generic, and its number. Main statement: services
and keys are fit to be keys of tables, whatever they are called and whatever they are made of. -/
namespace ServiceContainer
namespace ServiceType

/-- How deep the innermost type is nested, whether it is asked for as a closed generic, and its
number. -/
def outline : ServiceType → Nat × Bool × TypeId
  | .plain info => (0, false, info.id)
  | .generic closed _ _ => (0, true, closed.id)
  | .collection element => (element.outline.1 + 1, element.outline.2)

theorem beq_iff_outline : ∀ {a b : ServiceType}, (a == b) = true ↔ a.outline = b.outline
  | .plain a, .plain b => by simp [BEq.beq, same, outline]
  | .generic a _ _, .generic b _ _ => by simp [BEq.beq, same, outline]
  | .collection a, .collection b => by
    have elements : (a == b) = true ↔ a.outline = b.outline := beq_iff_outline
    change (a == b) = true ↔ _
    rw [elements]
    simp [outline, Prod.ext_iff]
  | .plain _, .generic _ _ _ | .plain _, .collection _ => by simp [BEq.beq, same, outline]
  | .generic _ _ _, .plain _ | .generic _ _ _, .collection _ => by simp [BEq.beq, same, outline]
  | .collection _, .plain _ | .collection _, .generic _ _ _ => by simp [BEq.beq, same, outline]

theorem typeId_eq (service : ServiceType) :
    service.typeId = if service.outline.1 = 0 then some service.outline.2.2 else none := by
  cases service <;> simp [typeId, outline]

theorem typeId_congr {a b : ServiceType} (same : (a == b) = true) : a.typeId = b.typeId := by
  rw [typeId_eq, typeId_eq, beq_iff_outline.1 same]

/-- The service with its types under other names, and with other definitions and arguments of its
closed generics. -/
def redescribe (name : TypeInfo → String) (definition : TypeInfo → TypeInfo)
    (arguments : TypeInfo → List ServiceType) : ServiceType → ServiceType
  | .plain info => .plain { info with name := name info }
  | .generic closed _ _ =>
    .generic { closed with name := name closed } (definition closed) (arguments closed)
  | .collection element => .collection (element.redescribe name definition arguments)

@[simp] theorem outline_redescribe (name : TypeInfo → String) (definition : TypeInfo → TypeInfo)
    (arguments : TypeInfo → List ServiceType) :
    ∀ service : ServiceType, (service.redescribe name definition arguments).outline = service.outline
  | .plain _ | .generic _ _ _ => rfl
  | .collection element => by
    simp [redescribe, outline, outline_redescribe name definition arguments element]

@[simp] theorem outline_nested (depth : Nat) (service : ServiceType) :
    (collection^[depth] service).outline = (service.outline.1 + depth, service.outline.2) := by
  induction depth with
  | zero => rfl
  | succ depth ih => simp [Function.iterate_succ_apply', outline, ih, Nat.add_assoc]

theorem canonical_beq_iff {a b : ServiceType} (first : a.element = none) (second : b.element = none) :
    (a.canonical == b.canonical) = true ↔ a.typeId = b.typeId := by
  rw [beq_iff_outline]
  cases a with
  | collection _ => cases first
  | plain _ | generic _ _ _ =>
    cases b with
    | collection _ => cases second
    | plain _ | generic _ _ _ => simp [canonical, outline, typeId]

/-- Equality of services is an equivalence, and so is that of keys. Equal services feed the same to a
hash and have the same type, and so do equal keys. Names, definitions and arguments do not count.
However deep collections of a service are nested, only those of one depth are equal. And what is no
collection is filed together just if it has the same type, so that a closed generic is filed with its
plain type, which it does not equal. -/
theorem lawful_identity :
    Equivalence (fun a b : ServiceType => (a == b) = true) ∧
    Equivalence (fun a b : CacheKey => (a == b) = true) ∧
    (∀ a b : CacheKey, ((a == b) = true ↔ a.digest = b.digest) ∧
      ((a == b) = true → a.service.typeId = b.service.typeId)) ∧
    (∀ a b : ServiceType, ((a == b) = true ↔ a.digest = b.digest) ∧
      ((a == b) = true → a.typeId = b.typeId) ∧
      (∀ names others definitions rivals arguments more,
        (a.redescribe names definitions arguments == b.redescribe others rivals more) = (a == b)) ∧
      (a.element = none → b.element = none →
        ((a.canonical == b.canonical) = true ↔ a.typeId = b.typeId))) ∧
    (∀ (service : ServiceType) (depth other : Nat),
      (collection^[depth] service == collection^[other] service) = true ↔ depth = other) ∧
    ∀ (closed definition : TypeInfo) (arguments : List ServiceType),
      (generic closed definition arguments == plain closed) = false ∧
        (generic closed definition arguments).canonical = (plain closed).canonical := by
  refine ⟨⟨fun _ => BEq.rfl, BEq.symm, BEq.trans⟩, ⟨fun _ => BEq.rfl, BEq.symm, BEq.trans⟩,
    fun _ _ => ⟨CacheKey.digest_eq_iff.symm, fun same => typeId_congr (CacheKey.beq_iff.1 same).1⟩,
    fun a b => ⟨digest_eq_iff.symm, typeId_congr, ?_, canonical_beq_iff⟩,
    fun service depth other => ?_, fun closed definition arguments => ?_⟩
  · intro names others definitions rivals arguments more
    rw [Bool.eq_iff_iff, beq_iff_outline, beq_iff_outline, outline_redescribe, outline_redescribe]
  · simp [beq_iff_outline]
  · exact ⟨rfl, rfl⟩

private def cupRack : ServiceType :=
  .generic ⟨firstFreeTypeId, "Rack<Cup>"⟩ ⟨firstFreeTypeId + 1, "Rack"⟩
    [.plain ⟨firstFreeTypeId + 2, "Cup"⟩]

/-- A rack of cups under another name, said to be of another definition. -/
private def cupShelf : ServiceType :=
  .generic ⟨firstFreeTypeId, "Shelf"⟩ ⟨firstFreeTypeId + 3, "Furniture"⟩ []

/-- Collections of collections of racks and of shelves are equal, either way round, and hash alike. A
rack and a shelf are the same also as keys and are filed together, and so is the plain type, which is
another service. -/
theorem lawful_identity_cupRack :
    (collection^[2] cupShelf == collection^[2] cupRack) = true ∧
      (collection^[2] cupRack).digest = (collection^[2] cupShelf).digest ∧
      (collection^[2] cupRack == collection^[1] cupRack) = false ∧
      cupRack.typeId = cupShelf.typeId ∧
      (CacheKey.mk cupRack 1).digest = (CacheKey.mk cupShelf 1).digest ∧
      (cupRack.canonical == (plain ⟨firstFreeTypeId, "Plate"⟩).canonical) = true ∧
      (cupRack == plain ⟨firstFreeTypeId, "Rack<Cup>"⟩) = false := by
  have rack_shelf : (cupRack == cupShelf) = true := by decide
  have deep : (collection^[2] cupRack == collection^[2] cupShelf) = true := by decide
  have equivalence := lawful_identity.1
  have keys := lawful_identity.2.2.1
  have services := lawful_identity.2.2.2.1
  have nested := lawful_identity.2.2.2.2.1 cupRack 2 1
  have plainly := lawful_identity.2.2.2.2.2
  refine ⟨equivalence.symm deep, (services _ _).1.1 deep, ?_, (services _ _).2.1 rack_shelf,
    (keys _ _).1.1 (by decide), ((services _ _).2.2.2 rfl rfl).2 rfl, (plainly _ _ _).1⟩
  exact Bool.eq_false_iff.2 fun same => absurd (nested.1 same) (by decide)

end ServiceType
end ServiceContainer
