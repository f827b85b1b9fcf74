import ServiceContainer.Proofs.Registry

/-! Registrations that are added unless their service is registered. Main statement: one that was
added displaces the registration of a registered service just if the two services are not the same but
are filed together, as a plain type and its closed generic are, or if it is open and the service has no
exact registration. -/
namespace ServiceContainer

/-- The services are two, but their registrations are filed together. -/
def ServiceType.Twins (a b : ServiceType) : Prop :=
  (a.canonical == b.canonical) = true ∧ (a == b) = false

instance (a b : ServiceType) : Decidable (a.Twins b) :=
  inferInstanceAs (Decidable (_ ∧ _))

/-- A plain type and its closed generic are twins, and nothing else is. -/
theorem ServiceType.twins_iff {a b : ServiceType} :
    a.Twins b ↔ ∃ info closed definition arguments, info.id = closed.id ∧
      (a = .plain info ∧ b = .generic closed definition arguments ∨
        a = .generic closed definition arguments ∧ b = .plain info) := by
  constructor
  · rintro ⟨together, different⟩
    change same a.canonical b.canonical = true at together
    change same a b = false at different
    cases a with
    | plain info =>
      cases b with
      | plain other => exact absurd together (ne_true_of_eq_false different)
      | generic closed definition arguments =>
        have alike : info.id = closed.id := (beq_iff_eq (a := info.id)).mp together
        exact ⟨info, closed, definition, arguments, alike, .inl ⟨rfl, rfl⟩⟩
      | collection element => cases together
    | generic closed definition arguments =>
      cases b with
      | plain info =>
        have alike : closed.id = info.id := (beq_iff_eq (a := closed.id)).mp together
        exact ⟨info, closed, definition, arguments, alike.symm, .inr ⟨rfl, rfl⟩⟩
      | generic other _ _ => exact absurd together (ne_true_of_eq_false different)
      | collection element => cases together
    | collection element =>
      cases b with
      | plain info => cases together
      | generic closed definition arguments => cases together
      | collection other => exact absurd together (ne_true_of_eq_false different)
  · rintro ⟨info, closed, definition, arguments, alike, ⟨rfl, rfl⟩ | ⟨rfl, rfl⟩⟩
    · exact ⟨(beq_iff_eq (a := info.id)).mpr alike, rfl⟩
    · exact ⟨(beq_iff_eq (a := closed.id)).mpr alike.symm, rfl⟩

namespace Registry
variable {registry : Registry}

theorem positions_add (p : Descriptor → Bool) (descriptor : Descriptor) :
    positions ⟨registry.descriptors ++ [descriptor]⟩ p =
      registry.positions p ++ if p descriptor then [registry.descriptors.length] else [] := by
  simp only [positions, List.zipIdx_append, List.filter_append, List.map_append]
  cases holds : p descriptor <;> simp [holds]

def isOpenFor (service : ServiceType) (descriptor : Descriptor) : Bool :=
  service.definition.any (descriptor.openId == some ·.id)

theorem openFor_add (descriptor : Descriptor) (service : ServiceType) :
    openFor ⟨registry.descriptors ++ [descriptor]⟩ service =
      registry.openFor service ++
        if isOpenFor service descriptor then [registry.descriptors.length] else [] := by
  cases defined : service.definition with
  | none => simp [openFor, isOpenFor, defined]
  | some definition => simp [openFor, isOpenFor, defined, openUnder, positions_add]

/-- A further registration would serve single requests for the service: it is exact, or it is open and
no exact one is there. -/
def Displaces (registry : Registry) (service : ServiceType) (descriptor : Descriptor) : Prop :=
  isFiledUnder service descriptor = true ∨
    registry.exactFor service = [] ∧ isOpenFor service descriptor = true

theorem Displaces.single_add {service : ServiceType} {descriptor : Descriptor}
    (displaces : registry.Displaces service descriptor) :
    single ⟨registry.descriptors ++ [descriptor]⟩ service = some registry.descriptors.length := by
  rw [single, exactFor, positions_add, ← exactFor, openFor_add]
  obtain exact | ⟨none, opened⟩ := displaces
  · rw [if_pos exact, List.getLast?_concat, Option.some_or]
  · rw [if_pos opened, none]
    split <;> simp

theorem single_add_of_not_displaces {service : ServiceType} {descriptor : Descriptor}
    (keeps : ¬registry.Displaces service descriptor) :
    single ⟨registry.descriptors ++ [descriptor]⟩ service = registry.single service := by
  rw [Displaces, not_or, not_and] at keeps
  rw [single, exactFor, positions_add, ← exactFor, openFor_add, if_neg keeps.1, List.append_nil, single]
  cases files : registry.exactFor service with
  | nil => rw [if_neg (keeps.2 files), List.append_nil]
  | cons first rest => rw [List.getLast?_cons, Option.some_or, Option.some_or]

theorem lt_length_of_single {service : ServiceType} {position : Nat}
    (picked : registry.single service = some position) : position < registry.descriptors.length := by
  rw [single_eq] at picked
  exact lt_length_of_mem_served (List.mem_of_getElem? picked)

end Registry

namespace Collection
variable {collection : Collection} {service : ServiceType} {descriptor : Descriptor}

def registry (collection : Collection) : Registry := ⟨collection.descriptors⟩

theorem tryAdd_of_contains (contained : collection.contains descriptor.service = true) :
    collection.tryAdd descriptor = (false, collection) := by
  rw [tryAdd, if_pos contained]

theorem tryAdd_of_missing (missing : collection.contains descriptor.service = false) :
    collection.tryAdd descriptor = (true, collection.add descriptor) := by
  rw [tryAdd, if_neg (ne_true_of_eq_false missing)]

theorem beq_eq_false_of_missing (contained : collection.contains service = true)
    {other : ServiceType} (missing : collection.contains other = false) : (other == service) = false := by
  rw [Bool.eq_false_iff]
  intro same
  obtain ⟨descriptor, registered, serves⟩ := List.any_eq_true.mp contained
  refine ne_true_of_eq_false missing (List.any_eq_true.mpr ⟨descriptor, registered, ?_⟩)
  exact PartialEquivBEq.trans serves (PartialEquivBEq.symm same)

theorem displaces_iff_of_missing (contained : collection.contains service = true)
    (missing : collection.contains descriptor.service = false) :
    collection.registry.Displaces service descriptor ↔
      descriptor.openId = none ∧ descriptor.service.Twins service ∨
        collection.registry.exactFor service = [] ∧
          Registry.isOpenFor service descriptor = true := by
  rw [Registry.Displaces, Registry.isFiledUnder, Bool.and_eq_true, Option.isNone_iff_eq_none]
  exact or_congr_left (and_congr_right fun _ =>
    ⟨fun together => ⟨together, beq_eq_false_of_missing contained missing⟩, fun twins => twins.1⟩)

/-- Adding a registration unless its service is registered leaves the registration that a registered
service is resolved by, or puts the new one in its place. It does the latter just if the new one is
added and is an exact one of the service's twin, or an open one and the service has no exact one. -/
theorem single_tryAdd (contained : collection.contains service = true) (descriptor : Descriptor) :
    let added := (collection.tryAdd descriptor).1
    let before := collection.registry
    let after := (collection.tryAdd descriptor).2.registry
    (∀ position, before.single service = some position →
      after.descriptors[position]? = before.descriptors[position]?) ∧
    (after.single service = before.single service ↔
      ¬(added = true ∧ (descriptor.openId = none ∧ descriptor.service.Twins service ∨
        before.exactFor service = [] ∧ Registry.isOpenFor service descriptor = true))) ∧
    (after.single service ≠ before.single service →
      after.single service = some collection.size) := by
  intro added before after
  cases missing : collection.contains descriptor.service with
  | true =>
    have kept : collection.tryAdd descriptor = (false, collection) := tryAdd_of_contains missing
    have unadded : added = false := congrArg Prod.fst kept
    have same : after = before := congrArg (registry ·.2) kept
    rw [same, unadded]
    simp
  | false =>
    have grown : collection.tryAdd descriptor = (true, collection.add descriptor) :=
      tryAdd_of_missing missing
    have added : added = true := congrArg Prod.fst grown
    have after_eq : after = ⟨before.descriptors ++ [descriptor]⟩ := congrArg (registry ·.2) grown
    rw [after_eq, ← displaces_iff_of_missing contained missing]
    have listed {position : Nat} (picked : before.single service = some position) :
        position < before.descriptors.length := Registry.lt_length_of_single picked
    by_cases displaces : before.Displaces service descriptor
    · have taken := displaces.single_add
      refine ⟨fun position picked => List.getElem?_append_left (listed picked), ?_, fun _ => taken⟩
      refine iff_of_false (fun same => ?_) (not_not_intro ⟨added, displaces⟩)
      exact Nat.lt_irrefl _ (listed (same ▸ taken))
    · have same := Registry.single_add_of_not_displaces displaces
      exact ⟨fun position picked => List.getElem?_append_left (listed picked),
        iff_of_true same fun both => displaces both.2, fun other => absurd same other⟩

section Sample

def crate : TypeInfo := ⟨firstFreeTypeId, "Crate"⟩

def openCrate : TypeInfo := ⟨firstFreeTypeId + 1, "Crate<_>"⟩

def crates : Collection := ⟨[⟨.plain crate, .transient, .constructed crate none⟩]⟩

def spare : Descriptor := ⟨.generic crate openCrate [], .transient, .constructed crate none⟩

end Sample

/-- A registration of the open definition serves no crates, as they have an exact one. -/
theorem single_tryAdd_open :
    crates.contains (.plain crate) = true ∧
    (crates.tryAdd ⟨.plain openCrate, .transient, .openGeneric openCrate⟩).2.registry.single
      (.plain crate) = some 0 :=
  ⟨by decide, ((single_tryAdd (by decide) _).2.1.mpr (by decide)).trans (by decide)⟩

/-- Crates are registered, but the spare ones are added and take their place. -/
theorem single_tryAdd_spare :
    crates.contains (.plain crate) = true ∧ (crates.tryAdd spare).1 = true ∧
    crates.registry.single (.plain crate) = some 0 ∧
    (crates.tryAdd spare).2.registry.single (.plain crate) = some 1 := by
  decide

end Collection
end ServiceContainer
