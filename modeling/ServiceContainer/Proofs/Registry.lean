import Mathlib.Data.List.Nodup
import ServiceContainer.Registry

/-! Slots of registrations. The registrations that serve a service stand in one list, the last
exact one first, and the slot of each is its place there. Main statements: a slot stands for one
registration, and an exact registration has the same slot whatever service it serves. -/
namespace ServiceContainer

theorem ServiceType.canonical_congr {a b : ServiceType} (same : (a == b) = true) :
    (a.canonical == b.canonical) = true := by
  change ServiceType.same a b = true at same
  change ServiceType.same a.canonical b.canonical = true
  cases a <;> cases b <;> simp_all [ServiceType.same, canonical]

namespace Registry
variable {registry : Registry}

/-- The registrations that serve a service, in the order of their slots. -/
def served (registry : Registry) (service : ServiceType) : List Nat :=
  (registry.exactFor service).reverse ++ (registry.openFor service).reverse

theorem mem_positions {p : Descriptor → Bool} {position : Nat} :
    position ∈ registry.positions p ↔
      ∃ descriptor, registry.descriptors[position]? = some descriptor ∧ p descriptor = true := by
  simp only [positions, List.mem_map, List.mem_filter]
  constructor
  · rintro ⟨⟨descriptor, _⟩, ⟨listed, holds⟩, rfl⟩
    exact ⟨descriptor, List.mk_mem_zipIdx_iff_getElem?.1 listed, holds⟩
  · rintro ⟨descriptor, registered, holds⟩
    exact ⟨(descriptor, position), ⟨List.mk_mem_zipIdx_iff_getElem?.2 registered, holds⟩, rfl⟩

theorem positions_increase (p : Descriptor → Bool) :
    (registry.positions p).Pairwise (· < ·) := by
  have sub : (registry.positions p).Sublist (registry.descriptors.zipIdx.map (·.2)) :=
    List.filter_sublist.map _
  refine List.Pairwise.sublist sub ?_
  rw [List.zipIdx_map_snd]
  exact List.pairwise_lt_range'

theorem nodup_positions (p : Descriptor → Bool) : (registry.positions p).Nodup :=
  (positions_increase p).imp Nat.ne_of_lt

theorem map_fst_withSlots (first : Nat) (positions : List Nat) :
    (withSlots first positions).map Prod.fst = positions := by
  induction positions with
  | nil => rfl
  | cons position rest ih => rw [withSlots, List.map_cons, ih]

theorem map_fst_all (service : ServiceType) :
    (registry.all service).map Prod.fst = registry.exactFor service ++ registry.openFor service := by
  rw [all, List.map_append, map_fst_withSlots, map_fst_withSlots]

theorem mem_withSlots {first position slot : Nat} {positions : List Nat} :
    (position, slot) ∈ withSlots first positions ↔
      ∃ place, slot = first + place ∧ positions.reverse[place]? = some position := by
  induction positions with
  | nil => simp [withSlots]
  | cons head rest ih =>
    rw [withSlots, List.mem_cons, ih, List.reverse_cons]
    constructor
    · rintro (same | ⟨place, rfl, found⟩)
      · cases same
        exact ⟨rest.length, rfl, by simp⟩
      · have inside : place < rest.reverse.length := (List.getElem?_eq_some_iff.1 found).1
        exact ⟨place, rfl, by rwa [List.getElem?_append_left inside]⟩
    · rintro ⟨place, rfl, found⟩
      by_cases inside : place < rest.reverse.length
      · rw [List.getElem?_append_left inside] at found
        exact .inr ⟨place, rfl, found⟩
      · have last : place = rest.length := by
          have bound := (List.getElem?_eq_some_iff.1 found).1
          simp at bound inside
          omega
        subst last
        refine .inl ?_
        simpa [eq_comm] using found

theorem mem_all {service : ServiceType} {position slot : Nat} :
    (position, slot) ∈ registry.all service ↔ (registry.served service)[slot]? = some position := by
  simp only [all, served, List.mem_append, mem_withSlots, Nat.zero_add]
  by_cases inside : slot < (registry.exactFor service).reverse.length
  · rw [List.getElem?_append_left inside]
    constructor
    · rintro (⟨place, rfl, found⟩ | ⟨place, rfl, found⟩)
      · exact found
      · rw [List.length_reverse] at inside
        omega
    · exact fun found => .inl ⟨slot, rfl, found⟩
  · have least : (registry.exactFor service).length ≤ slot := by simpa using inside
    rw [List.getElem?_append_right (Nat.not_lt.1 inside), List.length_reverse]
    constructor
    · rintro (⟨place, rfl, found⟩ | ⟨place, rfl, found⟩)
      · exact absurd (List.getElem?_eq_some_iff.1 found).1 inside
      · rwa [Nat.add_sub_cancel_left]
    · exact fun found => .inr ⟨_, (Nat.add_sub_cancel' least).symm, found⟩

/-- A single request is served by the registration in the first slot. -/
theorem single_eq (service : ServiceType) :
    registry.single service = (registry.served service)[0]? := by
  simp only [single, served, ← List.head?_eq_getElem?, List.head?_append, List.head?_reverse]

theorem position_unique {service : ServiceType} {first second slot : Nat}
    (one : (first, slot) ∈ registry.all service) (other : (second, slot) ∈ registry.all service) :
    first = second :=
  Option.some.inj ((mem_all.1 one).symm.trans (mem_all.1 other))

theorem openFor_eq_nil_or (service : ServiceType) :
    registry.openFor service = [] ∨
      ∃ definition, registry.openFor service = registry.openUnder definition := by
  unfold openFor
  cases service.definition with
  | none => exact .inl rfl
  | some definition => exact .inr ⟨definition.id, rfl⟩

theorem openFor_increases (service : ServiceType) :
    (registry.openFor service).Pairwise (· < ·) := by
  obtain none | ⟨definition, opened⟩ := registry.openFor_eq_nil_or service
  · rw [none]
    exact .nil
  · rw [opened]
    exact positions_increase _

/-- No registration serves a service twice. -/
theorem nodup_served (service : ServiceType) : (registry.served service).Nodup := by
  have distinct : (registry.exactFor service).Nodup := nodup_positions _
  obtain none | ⟨definition, opened⟩ := registry.openFor_eq_nil_or service
  · simpa [served, none] using List.nodup_reverse.2 distinct
  · have others : (registry.openUnder definition).Nodup := nodup_positions _
    rw [served, opened]
    refine List.Nodup.append (List.nodup_reverse.2 distinct) (List.nodup_reverse.2 others) ?_
    intro position one other
    obtain ⟨descriptor, registered, filed⟩ := mem_positions.1 (List.mem_reverse.1 one)
    obtain ⟨again, found, under⟩ := mem_positions.1 (List.mem_reverse.1 other)
    cases registered.symm.trans found
    simp only [isFiledUnder, Bool.and_eq_true, Option.isNone_iff_eq_none] at filed
    simp [filed.1] at under

theorem slot_unique {service : ServiceType} {position first second : Nat}
    (one : (position, first) ∈ registry.all service)
    (other : (position, second) ∈ registry.all service) : first = second := by
  rw [mem_all] at one other
  have inside := (List.getElem?_eq_some_iff.1 one).1
  exact (List.getElem?_inj inside (nodup_served service)).1 (one.trans other.symm)

theorem lt_length_of_mem_positions {p : Descriptor → Bool} {position : Nat}
    (member : position ∈ registry.positions p) : position < registry.descriptors.length := by
  obtain ⟨descriptor, registered, _⟩ := mem_positions.1 member
  exact (List.getElem?_eq_some_iff.1 registered).1

theorem lt_length_of_mem_served {service : ServiceType} {position : Nat}
    (member : position ∈ registry.served service) : position < registry.descriptors.length := by
  obtain one | two := List.mem_append.1 member
  · exact lt_length_of_mem_positions (List.mem_reverse.1 one)
  · obtain none | ⟨definition, opened⟩ := registry.openFor_eq_nil_or service
    · simp [none] at two
    · rw [opened] at two
      exact lt_length_of_mem_positions (List.mem_reverse.1 two)

theorem slot_lt {service : ServiceType} {position slot : Nat}
    (member : (position, slot) ∈ registry.all service) : slot < registry.descriptors.length := by
  have inside := (List.getElem?_eq_some_iff.1 (mem_all.1 member)).1
  have bounded : registry.served service ⊆ List.range registry.descriptors.length :=
    fun other listed => List.mem_range.2 (lt_length_of_mem_served listed)
  have short := (nodup_served service).length_le_of_subset bounded
  rw [List.length_range] at short
  omega

theorem mem_all_of_single {service : ServiceType} {position : Nat}
    (last : registry.single service = some position) : (position, 0) ∈ registry.all service := by
  rw [mem_all, ← single_eq, last]

theorem exactFor_congr {a b : ServiceType} (same : (a.canonical == b.canonical) = true) :
    registry.exactFor a = registry.exactFor b := by
  unfold exactFor
  congr 1
  funext descriptor
  simp only [isFiledUnder, BEq.congr_right same]

theorem isOpenGeneric_of_mem_openFor {service : ServiceType} {position : Nat}
    {descriptor : Descriptor}
    (registered : registry.descriptors[position]? = some descriptor)
    (member : position ∈ registry.openFor service) : descriptor.isOpenGeneric = true := by
  unfold openFor at member
  cases defined : service.definition with
  | none => simp [defined] at member
  | some definition =>
    simp only [defined, openUnder] at member
    obtain ⟨found, listed, filed⟩ := mem_positions.1 member
    cases registered.symm.trans listed
    by_cases opened : descriptor.isOpenGeneric = true
    · exact opened
    · simp [Descriptor.openId, opened] at filed

theorem mem_exactFor {service : ServiceType} {position : Nat} {descriptor : Descriptor}
    (registered : registry.descriptors[position]? = some descriptor)
    (closed : descriptor.isOpenGeneric = false) :
    position ∈ registry.exactFor service ↔
      (descriptor.service.canonical == service.canonical) = true := by
  rw [exactFor, mem_positions]
  simp [registered, isFiledUnder, Descriptor.openId, closed]

theorem slotOf_add_idxOf {position : Nat} {descriptor : Descriptor}
    (registered : registry.descriptors[position]? = some descriptor)
    (closed : descriptor.isOpenGeneric = false) :
    registry.slotOf position + (registry.exactFor descriptor.service).idxOf position + 1 =
      (registry.exactFor descriptor.service).length := by
  have member : position ∈ registry.exactFor descriptor.service :=
    (mem_exactFor registered closed).2 BEq.rfl
  have bound := List.idxOf_lt_length_of_mem member
  have slotted : registry.slotOf position =
      (registry.exactFor descriptor.service).length - 1 -
        (registry.exactFor descriptor.service).idxOf position := by
    simp [slotOf, registered, Descriptor.openId, closed]
  omega

/-- The slot of an exact registration is its place among those of its own service. -/
theorem slotOf_eq_iff {position slot : Nat} {descriptor : Descriptor}
    (registered : registry.descriptors[position]? = some descriptor)
    (closed : descriptor.isOpenGeneric = false) :
    registry.slotOf position = slot ↔
      (registry.exactFor descriptor.service).reverse[slot]? = some position := by
  have slotted := slotOf_add_idxOf registered closed
  have found := List.getElem?_idxOf ((mem_exactFor registered closed).2 BEq.rfl)
  have place : (registry.exactFor descriptor.service).reverse[registry.slotOf position]? =
      some position := by
    rw [List.getElem?_reverse (by omega), ← found]
    congr 1
    omega
  constructor
  · rintro rfl
    exact place
  · intro other
    have distinct : (registry.exactFor descriptor.service).reverse.Nodup :=
      List.nodup_reverse.2 (nodup_positions _)
    have inside := (List.getElem?_eq_some_iff.1 place).1
    exact (List.getElem?_inj inside distinct).1 (place.trans other.symm)

/-- The slot of an exact registration is the same for every service that it serves. -/
theorem slot_of_exact {service : ServiceType} {position slot : Nat} {descriptor : Descriptor}
    (registered : registry.descriptors[position]? = some descriptor)
    (closed : descriptor.isOpenGeneric = false) (member : (position, slot) ∈ registry.all service) :
    (descriptor.service.canonical == service.canonical) = true ∧
      registry.slotOf position = slot := by
  rw [mem_all, served] at member
  by_cases inside : slot < (registry.exactFor service).reverse.length
  · rw [List.getElem?_append_left inside] at member
    have listed : position ∈ registry.exactFor service :=
      List.mem_reverse.1 (List.mem_of_getElem? member)
    have same := (mem_exactFor registered closed).1 listed
    refine ⟨same, (slotOf_eq_iff registered closed).2 ?_⟩
    rwa [exactFor_congr same]
  · rw [List.getElem?_append_right (Nat.not_lt.1 inside)] at member
    have listed : position ∈ registry.openFor service :=
      List.mem_reverse.1 (List.mem_of_getElem? member)
    rw [isOpenGeneric_of_mem_openFor registered listed] at closed
    cases closed

theorem mem_all_slotOf {position : Nat} {descriptor : Descriptor}
    (registered : registry.descriptors[position]? = some descriptor)
    (closed : descriptor.isOpenGeneric = false) :
    (position, registry.slotOf position) ∈ registry.all descriptor.service := by
  have place := (slotOf_eq_iff registered closed).1 rfl
  rw [mem_all, served, List.getElem?_append_left (List.getElem?_eq_some_iff.1 place).1]
  exact place

end Registry
end ServiceContainer
