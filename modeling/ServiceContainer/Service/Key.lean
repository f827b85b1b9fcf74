import ServiceContainer.Service.Identity

/-! Keys of graphs and of cached instances: a service and the slot of a registration among
those of the same service, counted from the last one. -/
namespace ServiceContainer

structure CacheKey where
  service : ServiceType
  slot : Nat

namespace CacheKey

instance : BEq CacheKey where
  beq a b := a.service == b.service && a.slot == b.slot

def digest (key : CacheKey) : List Nat := key.service.digest ++ [key.slot]

def name (key : CacheKey) : String := key.service.name

theorem beq_iff {a b : CacheKey} :
    (a == b) = true ↔ (a.service == b.service) = true ∧ a.slot = b.slot := by
  simp [BEq.beq]

instance : EquivBEq CacheKey where
  rfl := beq_iff.2 ⟨BEq.rfl, rfl⟩
  symm h := beq_iff.2 ⟨BEq.symm (beq_iff.1 h).1, (beq_iff.1 h).2.symm⟩
  trans hab hbc :=
    beq_iff.2
      ⟨BEq.trans (beq_iff.1 hab).1 (beq_iff.1 hbc).1,
        (beq_iff.1 hab).2.trans (beq_iff.1 hbc).2⟩

theorem digest_eq_iff {a b : CacheKey} : a.digest = b.digest ↔ (a == b) = true := by
  rw [beq_iff]
  constructor
  · intro same
    obtain ⟨services, slots⟩ := List.append_inj' same rfl
    exact ⟨ServiceType.digest_eq_iff.1 services, List.singleton_inj.1 slots⟩
  · rintro ⟨services, slots⟩
    rw [digest, digest, ServiceType.digest_eq_iff.2 services, slots]

end CacheKey
end ServiceContainer
