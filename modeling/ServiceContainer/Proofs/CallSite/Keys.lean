import ServiceContainer.Proofs.Execution.Compilation
import ServiceContainer.Proofs.Registry

/-! Keys of instances. A registration may be planned many times, for single requests, as a member of
a collection, by its plain or by its generic name. Main statements: all these graphs cache under one
key, and graphs that cache under one key are of one registration. -/
namespace ServiceContainer
open Blueprint

/-- The memo holds the graph as the one that the registration at the position yields for the
service. -/
def Memo.Plans (blueprint : Blueprint) (memo : Memo) (position : Nat) (service : ServiceType)
    (callSite : CallSite) : Prop :=
  ∃ target slot, blueprint.registry.Lists target ∧
    blueprint.registry.Picks target service position slot ∧
      blueprint.Assembles memo.Records target callSite ∧ memo.Records target (some callSite)

theorem ServiceType.canonical_ne_generic (service : ServiceType) (closed definition : TypeInfo)
    (arguments : List ServiceType) :
    (service.canonical == .generic closed definition arguments) = false := by
  cases service <;> rfl

namespace Registry
variable {registry : Registry} {target : Target} {service other : ServiceType}
  {position second slot place : Nat}

theorem Picks.key (picked : registry.Picks target service position slot) :
    target.key = ⟨service, slot⟩ := by
  cases picked <;> rfl

theorem Picks.served (picked : registry.Picks target service position slot)
    (lists : registry.Lists target) : (position, slot) ∈ registry.all service := by
  cases picked with
  | member => exact lists
  | single _ _ last => exact mem_all_of_single last

theorem Picks.eq (picked : registry.Picks target service position slot)
    (again : registry.Picks target other second place) :
    service = other ∧ position = second ∧ slot = place := by
  cases picked with
  | member =>
    cases again
    exact ⟨rfl, rfl, rfl⟩
  | single _ _ last =>
    cases again with
    | single _ _ found => exact ⟨rfl, Option.some.inj (last.symm.trans found), rfl⟩

theorem mem_openFor {descriptor : Descriptor} {closed definition : TypeInfo}
    {arguments : List ServiceType} (registered : registry.descriptors[position]? = some descriptor)
    (opened : descriptor.isOpenGeneric = true)
    (member : (position, slot) ∈ registry.all (.generic closed definition arguments)) :
    position ∈ registry.openFor (.generic closed definition arguments) := by
  have served := List.mem_of_getElem? (mem_all.1 member)
  obtain strange | listed := List.mem_append.1 served
  · obtain ⟨found, again, filed⟩ := mem_positions.1 (List.mem_reverse.1 strange)
    cases registered.symm.trans again
    simp only [isFiledUnder, Descriptor.openId, opened, if_true, Bool.and_eq_true,
      Option.isNone_iff_eq_none] at filed
    obtain ⟨untyped, canonical⟩ := filed
    cases service : descriptor.service with
    | plain info => simp [service, ServiceType.typeId] at untyped
    | generic closed definition arguments => simp [service, ServiceType.typeId] at untyped
    | collection element =>
      rw [service] at canonical
      cases canonical
  · exact List.mem_reverse.1 listed

theorem slot_congr (same : (service == other) = true)
    (one : position ∈ registry.openFor service) (two : position ∈ registry.openFor other)
    (listed : (position, slot) ∈ registry.all service)
    (again : (position, place) ∈ registry.all other) : slot = place := by
  have filed : ∀ {wanted : ServiceType}, position ∈ registry.openFor wanted →
      ∃ definition, registry.openFor wanted = registry.openUnder definition ∧
        ∀ descriptor, registry.descriptors[position]? = some descriptor →
          descriptor.openId = some definition := by
    intro wanted listed
    unfold openFor at listed ⊢
    cases defined : wanted.definition with
    | none => simp [defined] at listed
    | some definition =>
      simp only [defined] at listed
      obtain ⟨found, registered, under⟩ := mem_positions.1 listed
      refine ⟨definition.id, rfl, fun descriptor again => ?_⟩
      cases registered.symm.trans again
      exact eq_of_beq under
  obtain ⟨first, here, under⟩ := filed one
  obtain ⟨second, there, beneath⟩ := filed two
  have inside := lt_length_of_mem_positions (here ▸ one : position ∈ registry.openUnder first)
  have registered := List.getElem?_eq_getElem inside
  cases (under _ registered).symm.trans (beneath _ registered)
  have lists : registry.served service = registry.served other := by
    rw [served, served, exactFor_congr (ServiceType.canonical_congr same), here, there]
  rw [mem_all, ← lists, ← mem_all] at again
  exact slot_unique listed again

end Registry

namespace Memo
variable {blueprint : Blueprint} {memo : Memo} {position second : Nat}
  {service other : ServiceType} {callSite another : CallSite} {descriptor : Descriptor}

structure Files (blueprint : Blueprint) (memo : Memo) (position : Nat) (service : ServiceType)
    (callSite : CallSite) (descriptor : Descriptor) (slot : Nat) : Prop where
  registered : blueprint.registry.descriptors[position]? = some descriptor
  served : (position, slot) ∈ blueprint.registry.all service
  known : memo.lookup ⟨service, slot⟩ = some (some callSite)
  key : callSite.site.key = instanceKey descriptor service slot
  /-- Open definitions only make generics. -/
  generic : descriptor.isOpenGeneric = true → ∃ closed definition arguments,
    service = .generic closed definition arguments

structure Describes (blueprint : Blueprint) (memo : Memo) (position : Nat) (service : ServiceType)
    (callSite : CallSite) (descriptor : Descriptor) (slot : Nat) : Prop extends
    Files blueprint memo position service callSite descriptor slot where
  location : callSite.site.location = descriptor.lifetime.location

theorem Plans.filed (planned : memo.Plans blueprint position service callSite) :
    ∃ descriptor slot, Files blueprint memo position service callSite descriptor slot ∧
      (callSite.kind.constructs = true → callSite.site.location = descriptor.lifetime.location) := by
  obtain ⟨target, slot, lists, picked, assembled, recorded⟩ := planned
  have served := picked.served lists
  rw [Records, picked.key] at recorded
  cases assembled with
  | own asked provides =>
    subst asked
    cases picked with
    | single foreign _ _ => simp [foreign] at provides
  | collect asked collection _ =>
    subst asked
    cases picked with
    | single _ alone _ => simp [alone] at collection
  | fixed again registered implemented =>
    obtain ⟨rfl, rfl, rfl⟩ := picked.eq again
    refine ⟨_, _, ⟨registered, served, recorded, rfl, fun opened => ?_⟩, by rintro ⟨⟩⟩
    simp [Descriptor.isOpenGeneric, implemented] at opened
  | produced again registered implemented =>
    obtain ⟨rfl, rfl, rfl⟩ := picked.eq again
    refine ⟨_, _, ⟨registered, served, recorded, rfl, fun opened => ?_⟩, fun _ => rfl⟩
    simp [Descriptor.isOpenGeneric, implemented] at opened
  | constructed again registered implemented _ _ =>
    obtain ⟨rfl, rfl, rfl⟩ := picked.eq again
    refine ⟨_, _, ⟨registered, served, recorded, rfl, fun opened => ?_⟩, fun _ => rfl⟩
    simp [Descriptor.isOpenGeneric, implemented] at opened
  | opened again registered _ _ _ =>
    obtain ⟨rfl, rfl, rfl⟩ := picked.eq again
    exact ⟨_, _, ⟨registered, served, recorded, rfl, fun _ => ⟨_, _, _, rfl⟩⟩, fun _ => rfl⟩

theorem Plans.described (planned : memo.Plans blueprint position service callSite)
    (constructs : callSite.kind.constructs = true) :
    ∃ descriptor slot, Describes blueprint memo position service callSite descriptor slot := by
  obtain ⟨descriptor, slot, filed, located⟩ := planned.filed
  exact ⟨descriptor, slot, filed, located constructs⟩

theorem Plans.location (planned : memo.Plans blueprint position service callSite)
    (constructs : callSite.kind.constructs = true)
    (registered : blueprint.registry.descriptors[position]? = some descriptor) :
    callSite.site.location = descriptor.lifetime.location := by
  obtain ⟨_, _, described⟩ := planned.described constructs
  cases registered.symm.trans described.registered
  exact described.location

theorem Plans.constructs (planned : memo.Plans blueprint position service callSite)
    (registered : blueprint.registry.descriptors[position]? = some descriptor)
    (unowned : ∀ name value, descriptor.implementation ≠ .fixed name value) :
    callSite.kind.constructs = true := by
  obtain ⟨target, slot, _, picked, assembled, _⟩ := planned
  cases assembled with
  | own asked provides =>
    subst asked
    cases picked with
    | single foreign _ _ => simp [foreign] at provides
  | collect asked collection _ =>
    subst asked
    cases picked with
    | single _ alone _ => simp [alone] at collection
  | fixed again listed implemented =>
    obtain ⟨_, rfl, _⟩ := picked.eq again
    cases registered.symm.trans listed
    exact absurd implemented (unowned _ _)
  | produced _ _ _ | constructed _ _ _ _ _ | opened _ _ _ _ _ => rfl

theorem Plans.unowned (planned : memo.Plans blueprint position service callSite)
    (registered : blueprint.registry.descriptors[position]? = some descriptor)
    (constructs : callSite.kind.constructs = true) (name : String) (value : Value) :
    descriptor.implementation ≠ .fixed name value := by
  intro fixed
  obtain ⟨target, slot, _, picked, assembled, _⟩ := planned
  cases assembled with
  | @own _ own _ _ => cases own <;> cases constructs
  | collect _ _ _ | fixed _ _ _ => cases constructs
  | produced again listed implemented
  | constructed again listed implemented _ _
  | opened again listed implemented _ _ =>
    obtain ⟨_, rfl, _⟩ := picked.eq again
    cases registered.symm.trans listed
    rw [implemented] at fixed
    cases fixed

/-- Every graph in which user code takes part is planned for some registration. -/
theorem Holds.plans (held : memo.Holds callSite) (sound : Sound blueprint memo)
    (constructs : callSite.kind.constructs = true) :
    ∃ position service, memo.Plans blueprint position service callSite := by
  obtain ⟨key, known⟩ | ⟨service, value, rfl, _⟩ := held
  · obtain ⟨target, lists, assembled, _, recorded⟩ := sound.assembles known
    cases assembled with
    | @own _ own _ _ => cases own <;> cases constructs
    | collect _ _ _ => cases constructs
    | fixed _ _ _ => cases constructs
    | produced picked registered implemented =>
      exact ⟨_, _, target, _, lists, picked, .produced picked registered implemented, recorded⟩
    | constructed picked registered implemented listed bound =>
      exact ⟨_, _, target, _, lists, picked, .constructed picked registered implemented listed bound,
        recorded⟩
    | opened picked registered implemented listed bound =>
      exact ⟨_, _, target, _, lists, picked, .opened picked registered implemented listed bound,
        recorded⟩
  · cases constructs

/-- All graphs of a registration have one key; those of an open definition, for equal services. -/
theorem Plans.key_congr (planned : memo.Plans blueprint position service callSite)
    (again : memo.Plans blueprint position other another)
    (constructs : callSite.kind.constructs = true) (too : another.kind.constructs = true)
    (registered : blueprint.registry.descriptors[position]? = some descriptor)
    (same : descriptor.isOpenGeneric = true → (service == other) = true) :
    (callSite.site.key == another.site.key) = true := by
  obtain ⟨_, slot, one⟩ := planned.described constructs
  obtain ⟨_, place, two⟩ := again.described too
  cases registered.symm.trans one.registered
  cases registered.symm.trans two.registered
  rw [one.key, two.key]
  unfold instanceKey
  by_cases opened : descriptor.isOpenGeneric = true
  · obtain ⟨_, _, _, rfl⟩ := one.generic opened
    obtain ⟨_, _, _, rfl⟩ := two.generic opened
    have first := Registry.mem_openFor registered opened one.served
    have second := Registry.mem_openFor registered opened two.served
    have slots := Registry.slot_congr (same opened) first second one.served two.served
    simp only [opened, if_true]
    exact CacheKey.beq_iff.2 ⟨same opened, slots⟩
  · have plain : descriptor.isOpenGeneric = false := Bool.not_eq_true _ ▸ opened
    have first := (Registry.slot_of_exact registered plain one.served).2
    have second := (Registry.slot_of_exact registered plain two.served).2
    simp only [plain, Bool.false_eq_true, if_false]
    exact CacheKey.beq_iff.2 ⟨BEq.rfl, first.symm.trans second⟩

theorem Files.position_congr {slot place : Nat} {rival : Descriptor}
    (one : Files blueprint memo position service callSite descriptor slot)
    (two : Files blueprint memo second other another rival place)
    (same : (callSite.site.key == another.site.key) = true) : position = second := by
  have key := one.key
  have keyed := two.key
  rw [one.key, two.key, CacheKey.beq_iff] at same
  unfold instanceKey at same key keyed
  dsimp only at same
  obtain ⟨services, rfl⟩ := same
  by_cases opened : descriptor.isOpenGeneric = true
  · obtain ⟨_, _, _, rfl⟩ := one.generic opened
    by_cases opens : rival.isOpenGeneric = true
    · simp only [opened, opens, if_true] at services key keyed
      have congruent : ((⟨_, slot⟩ : CacheKey) == ⟨other, slot⟩) = true :=
        CacheKey.beq_iff.2 ⟨services, rfl⟩
      have known := one.known
      rw [memo.lookup_congr congruent, two.known] at known
      cases known
      cases key.symm.trans keyed
      exact Registry.position_unique one.served two.served
    · rw [if_pos opened, if_neg opens, BEq.comm, ServiceType.canonical_ne_generic] at services
      cases services
  · by_cases opens : rival.isOpenGeneric = true
    · obtain ⟨_, _, _, rfl⟩ := two.generic opens
      rw [if_neg opened, if_pos opens, ServiceType.canonical_ne_generic] at services
      cases services
    · rw [if_neg opened, if_neg opens] at services
      have plain : descriptor.isOpenGeneric = false := Bool.not_eq_true _ ▸ opened
      have plainly : rival.isOpenGeneric = false := Bool.not_eq_true _ ▸ opens
      have placed := (Registry.slot_of_exact one.registered plain one.served).2
      have places := (Registry.slot_of_exact two.registered plainly two.served).2
      have filed := (Registry.slotOf_eq_iff one.registered plain).1 placed
      have files := (Registry.slotOf_eq_iff two.registered plainly).1 places
      rw [Registry.exactFor_congr services] at filed
      exact Option.some.inj (filed.symm.trans files)

theorem Plans.position_congr (planned : memo.Plans blueprint position service callSite)
    (again : memo.Plans blueprint second other another)
    (constructs : callSite.kind.constructs = true) (too : another.kind.constructs = true)
    (same : (callSite.site.key == another.site.key) = true) : position = second := by
  obtain ⟨_, _, one⟩ := planned.described constructs
  obtain ⟨_, _, two⟩ := again.described too
  exact one.toFiles.position_congr two.toFiles same

theorem Plans.location_congr (planned : memo.Plans blueprint position service callSite)
    (again : memo.Plans blueprint second other another)
    (constructs : callSite.kind.constructs = true) (too : another.kind.constructs = true)
    (same : (callSite.site.key == another.site.key) = true) :
    callSite.site.location = another.site.location := by
  obtain ⟨descriptor, slot, one⟩ := planned.described constructs
  cases planned.position_congr again constructs too same
  rw [one.location, again.location too one.registered]

end Memo
end ServiceContainer
