import Mathlib.Data.List.Sort
import ServiceContainer.Proofs.Service.Host
import ServiceContainer.Table

/-! Indexes of registrations. They are filled in one pass, each registration being listed under its
canonical service or under its open definition. Main statements: what an index lists are the
registrations that are filed there, and the slots of a service number them without a gap, however they
are computed. -/
namespace ServiceContainer

namespace Table
variable {κ : Type} [BEq κ]

def listed (table : Table κ (List Nat)) (key : κ) : List Nat := (table.lookup key).getD []

def push (table : Table κ (List Nat)) (key : κ) (position : Nat) : Table κ (List Nat) :=
  table.insert key (table.listed key ++ [position])

theorem listed_push [EquivBEq κ] (table : Table κ (List Nat)) (key other : κ) (position : Nat) :
    (table.push key position).listed other =
      table.listed other ++ if key == other then [position] else [] := by
  rw [push, listed, lookup_insert]
  by_cases same : key == other
  · simp [same, listed, table.lookup_congr same]
  · simp [same, listed]

end Table

namespace Registry
variable {registry : Registry}

/-- The positions of the exact registrations by their canonical services, and those of the open
definitions by their types. -/
structure Index where
  exact : Table ServiceType (List Nat) := ⟨[]⟩
  opened : Table TypeId (List Nat) := ⟨[]⟩

namespace Index

def file (index : Index) (descriptor : Descriptor) (position : Nat) : Index :=
  match descriptor.openId with
  | some definition => { index with opened := index.opened.push definition position }
  | none => { index with exact := index.exact.push descriptor.service.canonical position }

def fill (index : Index) (entries : List (Descriptor × Nat)) : Index :=
  entries.foldl (fun index entry => index.file entry.1 entry.2) index

def of (registry : Registry) : Index := fill {} registry.descriptors.zipIdx

theorem exact_file (service : ServiceType) (index : Index) (descriptor : Descriptor)
    (position : Nat) : (index.file descriptor position).exact.listed service.canonical =
      index.exact.listed service.canonical ++
        if isFiledUnder service descriptor then [position] else [] := by
  unfold file isFiledUnder
  cases descriptor.openId with
  | some definition => simp
  | none => simp [Table.listed_push]

theorem opened_file (definition : TypeId) (index : Index) (descriptor : Descriptor)
    (position : Nat) : (index.file descriptor position).opened.listed definition =
      index.opened.listed definition ++
        if descriptor.openId == some definition then [position] else [] := by
  unfold file
  cases descriptor.openId with
  | some other => simp [Table.listed_push]
  | none => simp

/-- Whatever one filing adds to a list, a filling adds for each registration in turn. -/
theorem listed_fill (listed : Index → List Nat) {p : Descriptor → Bool}
    (files : ∀ (index : Index) (descriptor : Descriptor) (position : Nat),
      listed (index.file descriptor position) =
        listed index ++ if p descriptor then [position] else [])
    (entries : List (Descriptor × Nat)) (index : Index) :
    listed (index.fill entries) = listed index ++ (entries.filter (p ·.1)).map Prod.snd := by
  induction entries generalizing index with
  | nil => simp [fill]
  | cons entry rest ih =>
    have step := ih (index.file entry.1 entry.2)
    rw [files, List.append_assoc] at step
    refine step.trans ?_
    by_cases filed : p entry.1 <;> simp [filed]

theorem exact_of (service : ServiceType) :
    (of registry).exact.listed service.canonical = registry.exactFor service :=
  listed_fill (·.exact.listed service.canonical) (exact_file service) registry.descriptors.zipIdx {}

theorem opened_of (definition : TypeId) :
    (of registry).opened.listed definition = registry.openUnder definition :=
  listed_fill (·.opened.listed definition) (opened_file definition) registry.descriptors.zipIdx {}

end Index

/-- The exact registrations of what the service is filed under, in the order of registration. -/
def exactly (registry : Registry) (service : ServiceType) : List Nat :=
  (List.range registry.descriptors.length).filter fun position =>
    registry.descriptors[position]?.any fun descriptor =>
      !descriptor.isOpenGeneric && descriptor.service.canonical == service.canonical

/-- The open definitions that the service belongs to, in the order of registration. -/
def matching (registry : Registry) (service : ServiceType) : List Nat :=
  (List.range registry.descriptors.length).filter fun position =>
    registry.descriptors[position]?.any fun descriptor =>
      descriptor.isOpenGeneric &&
        service.definition.any (descriptor.service.typeId == some ·.id)

theorem positions_eq_filter {p : Descriptor → Bool} {q : Descriptor → Bool}
    (agree : ∀ descriptor ∈ registry.descriptors, p descriptor = q descriptor) :
    registry.positions p = (List.range registry.descriptors.length).filter fun position =>
      registry.descriptors[position]?.any q := by
  refine (positions_increase p).eq_of_mem_iff (List.pairwise_lt_range.filter _) fun position => ?_
  rw [mem_positions, List.mem_filter, List.mem_range, Option.any_eq_true]
  constructor
  · intro ⟨descriptor, registered, holds⟩
    rw [agree descriptor (List.mem_of_getElem? registered)] at holds
    exact ⟨(List.getElem?_eq_some_iff.1 registered).1, descriptor, registered, holds⟩
  · intro ⟨_, descriptor, registered, holds⟩
    rw [← agree descriptor (List.mem_of_getElem? registered)] at holds
    exact ⟨descriptor, registered, holds⟩

theorem exactFor_eq_exactly (types : registry.DefinesTypes) (service : ServiceType) :
    registry.exactFor service = registry.exactly service := by
  refine positions_eq_filter fun descriptor listed => ?_
  unfold isFiledUnder Descriptor.openId
  cases opened : descriptor.isOpenGeneric with
  | false => rfl
  | true =>
    -- An open definition of a collection would be filed with the exact registrations.
    have alone := types descriptor listed opened
    cases kind : descriptor.service with
    | collection element => simp [kind, ServiceType.element] at alone
    | plain info | generic closed definition arguments => rfl

theorem openFor_eq_matching (service : ServiceType) :
    registry.openFor service = registry.matching service := by
  unfold openFor matching
  cases service.definition with
  | none => simp
  | some definition =>
    refine positions_eq_filter fun descriptor _ => ?_
    unfold Descriptor.openId
    cases descriptor.isOpenGeneric <;> simp

theorem getElem?_withSlots {first place position slot : Nat} {positions : List Nat} :
    (withSlots first positions)[place]? = some (position, slot) ↔
      positions[place]? = some position ∧ slot + place + 1 = first + positions.length := by
  induction positions generalizing place with
  | nil => simp [withSlots]
  | cons head rest ih =>
    cases place with
    | zero =>
      have last : first + rest.length = slot ↔ slot + 0 + 1 = first + (rest.length + 1) := by omega
      simpa [withSlots] using fun _ => last
    | succ place =>
      rw [withSlots, List.getElem?_cons_succ, ih, List.getElem?_cons_succ, List.length_cons]
      exact and_congr_right fun _ => by omega

theorem map_snd_withSlots (first : Nat) (positions : List Nat) :
    (withSlots first positions).map Prod.snd = (List.range' first positions.length).reverse := by
  induction positions with
  | nil => rfl
  | cons position rest ih =>
    rw [withSlots, List.map_cons, ih, List.length_cons, List.range'_concat, List.reverse_append]
    simp

@[simp] theorem length_withSlots (first : Nat) (positions : List Nat) :
    (withSlots first positions).length = positions.length := by
  rw [← List.length_map Prod.fst, map_fst_withSlots]

@[simp] theorem length_all (service : ServiceType) : (registry.all service).length =
    (registry.exactFor service).length + (registry.openFor service).length := by
  simp [all]

theorem slots_perm_range (service : ServiceType) :
    ((registry.all service).map Prod.snd).Perm (List.range (registry.all service).length) := by
  rw [length_all, all, List.map_append, map_snd_withSlots, map_snd_withSlots,
    List.range_eq_range', ← List.range'_append_1, Nat.zero_add]
  exact (List.reverse_perm _).append (List.reverse_perm _)

/-- A slot and the places up to it make up the length that it is counted down from. -/
theorem slot_add_place {service : ServiceType} {place position slot : Nat}
    (found : (registry.all service)[place]? = some (position, slot)) :
    slot + place + 1 = if place < (registry.exactFor service).length
      then (registry.exactFor service).length
      else (registry.exactFor service).length + (registry.all service).length := by
  rw [length_all]
  by_cases inside : place < (registry.exactFor service).length
  · rw [all, List.getElem?_append_left (by simpa using inside), getElem?_withSlots] at found
    rw [if_pos inside, found.2, Nat.zero_add]
  · rw [all, List.getElem?_append_right (by simpa using inside), getElem?_withSlots,
      length_withSlots] at found
    rw [if_neg inside]
    omega

theorem single_eq_getLast? (service : ServiceType) : registry.single service =
    if (registry.exactFor service).isEmpty then (registry.openFor service).getLast?
    else (registry.exactFor service).getLast? := by
  unfold single
  cases exact : registry.exactFor service with
  | nil => simp
  | cons head rest => simp [List.getLast?_cons]

theorem single_eq_some_iff {service : ServiceType} {position : Nat} :
    registry.single service = some position ↔ (position, 0) ∈ registry.all service :=
  ⟨mem_all_of_single, single_of_mem_all⟩

/-- A registry lists, for every service, first the exact registrations and then the open definitions,
each in the order of registration and once, and its indexes list the same. The slots number what is
listed without a gap: in either part a slot is what the places up to it leave, which is never less than
nothing. A single request gets the last exact registration, or else the last open definition, and that
is the one in the first slot. And an exact registration is listed for its own service in the slot that
its position in the index leaves. -/
theorem slots_consistent (types : registry.DefinesTypes) (service : ServiceType) :
    (Index.of registry).exact.listed service.canonical = registry.exactly service ∧
    (∀ definition, service.definition = some definition →
      (Index.of registry).opened.listed definition.id = registry.matching service) ∧
    (registry.all service).map Prod.fst = registry.exactly service ++ registry.matching service ∧
    ((registry.all service).map Prod.fst).Nodup ∧
    ((registry.all service).map Prod.snd).Perm (List.range (registry.all service).length) ∧
    (∀ place position slot, (registry.all service)[place]? = some (position, slot) →
      slot + place + 1 = if place < (registry.exactly service).length
        then (registry.exactly service).length
        else (registry.exactly service).length + (registry.all service).length) ∧
    (registry.single service =
      if (registry.exactly service).isEmpty then (registry.matching service).getLast?
      else (registry.exactly service).getLast?) ∧
    (∀ position, registry.single service = some position ↔ (position, 0) ∈ registry.all service) ∧
    ∀ position descriptor, registry.descriptors[position]? = some descriptor →
      descriptor.isOpenGeneric = false →
      (position, registry.slotOf position) ∈ registry.all descriptor.service ∧
        position ∈ registry.exactly descriptor.service ∧
        registry.slotOf position + (registry.exactly descriptor.service).idxOf position + 1 =
          (registry.exactly descriptor.service).length := by
  simp only [← exactFor_eq_exactly types, ← openFor_eq_matching]
  refine ⟨Index.exact_of service, fun definition defined => ?_, map_fst_all service, ?_,
    slots_perm_range service, fun _ _ _ => slot_add_place, single_eq_getLast? service,
    fun _ => single_eq_some_iff, fun position descriptor registered closed =>
      ⟨mem_all_slotOf registered closed, (mem_exactFor registered closed).2 BEq.rfl,
        slotOf_add_idxOf registered closed⟩⟩
  · rw [Index.opened_of, openFor, defined]
  · have reversed : (registry.served service).Perm ((registry.all service).map Prod.fst) := by
      rw [map_fst_all]
      exact (List.reverse_perm _).append (List.reverse_perm _)
    exact reversed.nodup (nodup_served service)

private def rackOfLamps : TypeInfo := ⟨firstFreeTypeId + 1, "Rack<Lamp>"⟩

private def racksOfLamps : ServiceType :=
  .generic rackOfLamps ⟨firstFreeTypeId, "Rack"⟩ [.plain ⟨firstFreeTypeId + 2, "Lamp"⟩]

/-- Racks are defined first and last, and in between a rack of lamps is registered as a plain type, then
a lamp, then a rack of lamps as the closed generic. -/
private def mixed : Registry where
  descriptors := [
    ⟨.plain ⟨firstFreeTypeId, "Rack"⟩, .scoped, .openGeneric ⟨firstFreeTypeId, "Rack"⟩⟩,
    ⟨.plain rackOfLamps, .singleton, .constructed rackOfLamps none⟩,
    ⟨.plain ⟨firstFreeTypeId + 2, "Lamp"⟩, .transient,
      .constructed ⟨firstFreeTypeId + 2, "Lamp"⟩ none⟩,
    ⟨racksOfLamps, .transient, .constructed rackOfLamps none⟩,
    ⟨.plain ⟨firstFreeTypeId, "Rack"⟩, .transient, .openGeneric ⟨firstFreeTypeId, "Rack"⟩⟩]

/-- Four registrations serve a rack of lamps. The plain one has the second slot however it is found. -/
theorem slots_consistent_mixed :
    mixed.DefinesTypes ∧
    (mixed.all racksOfLamps).map Prod.fst = [1, 3] ++ [0, 4] ∧
    ((mixed.all racksOfLamps).map Prod.snd).Perm (List.range 4) ∧
    (Index.of mixed).exact.listed racksOfLamps.canonical = [1, 3] ∧
    (Index.of mixed).opened.listed firstFreeTypeId = [0, 4] ∧
    mixed.single racksOfLamps = some 3 ∧
    (3, 0) ∈ mixed.all racksOfLamps ∧
    (1, mixed.slotOf 1) ∈ mixed.all (.plain rackOfLamps) ∧ mixed.slotOf 1 + 0 + 1 = 2 := by
  have types : mixed.DefinesTypes := by
    simp [DefinesTypes, mixed, racksOfLamps, Descriptor.isOpenGeneric, ServiceType.element]
  obtain ⟨exact, opened, members, _, numbered, _, single, first, own⟩ :=
    slots_consistent types racksOfLamps
  have found : mixed.single racksOfLamps = some 3 := single.trans (by decide)
  obtain ⟨plain, _, placed⟩ := own 1 _ rfl rfl
  exact ⟨types, members.trans (by decide), numbered, exact.trans (by decide),
    (opened _ rfl).trans (by decide), found, (first 3).1 found, plain, placed⟩

end Registry
end ServiceContainer
