import Mathlib.Data.Finset.Card
import Mathlib.Data.List.Dedup
import ServiceContainer.Proofs.Nesting

/-! How deep constructions nest. A provider constructs only under the keys that its registrations
have, and never under a key inside itself. Main statement: at any time, there are no more
constructions in progress than providers have such keys. -/
namespace ServiceContainer
open Blueprint

namespace Blueprint

/-- The closed types that have constructors, as ones of each open definition. Names do not matter. -/
def closedTypes (blueprint : Blueprint) : List ServiceType :=
  blueprint.catalog.rows.flatMap fun (closed, _) =>
    blueprint.registry.descriptors.filterMap fun descriptor =>
      descriptor.openId.map fun definition => .generic ⟨closed, ""⟩ ⟨definition, ""⟩ []

def keysOf (blueprint : Blueprint) (service : ServiceType) : List CacheKey :=
  (blueprint.registry.all service).filterMap fun (position, slot) => do
    let descriptor ← blueprint.registry.descriptors[position]?
    match descriptor.implementation with
    | .fixed _ _ => none
    | _ => some (instanceKey descriptor service slot)

def constructionKeys (blueprint : Blueprint) : List CacheKey :=
  (blueprint.registry.descriptors.map (·.service) ++ blueprint.closedTypes).flatMap
    blueprint.keysOf

variable {blueprint : Blueprint} {position slot : Nat} {descriptor : Descriptor}
  {service : ServiceType}

theorem mem_keysOf (served : (position, slot) ∈ blueprint.registry.all service)
    (registered : blueprint.registry.descriptors[position]? = some descriptor)
    (unowned : ∀ name value, descriptor.implementation ≠ .fixed name value) :
    instanceKey descriptor service slot ∈ blueprint.keysOf service := by
  refine List.mem_filterMap.2 ⟨(position, slot), served, ?_⟩
  cases made : descriptor.implementation with
  | fixed name value => exact absurd made (unowned name value)
  | _ => simp [registered, made]

theorem mem_constructionKeys_of_exact (served : (position, slot) ∈ blueprint.registry.all service)
    (registered : blueprint.registry.descriptors[position]? = some descriptor)
    (closed : descriptor.isOpenGeneric = false)
    (unowned : ∀ name value, descriptor.implementation ≠ .fixed name value) :
    instanceKey descriptor service slot ∈ blueprint.constructionKeys := by
  have same : instanceKey descriptor service slot =
      instanceKey descriptor descriptor.service slot := by
    simp [instanceKey, closed]
  obtain ⟨_, rfl⟩ := Registry.slot_of_exact registered closed served
  rw [same]
  refine List.mem_flatMap.2 ⟨descriptor.service, List.mem_append_left _ ?_, ?_⟩
  · exact List.mem_map_of_mem (List.mem_of_getElem? registered)
  · exact mem_keysOf (Registry.mem_all_slotOf registered closed) registered unowned

/-- An open definition has a key for each closed type that has constructors. -/
theorem digest_mem_of_open {closed definition : TypeInfo} {arguments : List ServiceType}
    (served : (position, slot) ∈ blueprint.registry.all (.generic closed definition arguments))
    (registered : blueprint.registry.descriptors[position]? = some descriptor)
    (opened : descriptor.isOpenGeneric = true) {chosen : Constructor}
    (listed : chosen ∈ blueprint.catalog.constructors closed.id) :
    (instanceKey descriptor (.generic closed definition arguments) slot).digest ∈
      blueprint.constructionKeys.map CacheKey.digest := by
  have under : position ∈ blueprint.registry.openUnder definition.id :=
    Registry.mem_openFor registered opened served
  have filed : descriptor.openId = some definition.id := by
    obtain ⟨_, again, here⟩ := Registry.mem_positions.1 under
    cases registered.symm.trans again
    exact eq_of_beq here
  have unowned : ∀ name value, descriptor.implementation ≠ .fixed name value := by
    intro name value fixed
    simp [Descriptor.isOpenGeneric, fixed] at opened
  obtain ⟨row, found⟩ : ∃ row, (closed.id, row) ∈ blueprint.catalog.rows := by
    unfold Catalog.constructors at listed
    cases found : blueprint.catalog.rows.lookup closed.id with
    | none => simp [found] at listed
    | some row =>
      obtain ⟨before, after, split, _⟩ := List.lookup_eq_some_iff.1 found
      exact ⟨row, by simp [split]⟩
  -- What serves a closed generic depends on the numbers of its type and of its definition.
  have same : blueprint.registry.all (.generic closed definition arguments) =
      blueprint.registry.all (.generic ⟨closed.id, ""⟩ ⟨definition.id, ""⟩ []) := by
    have exact : blueprint.registry.exactFor (.generic closed definition arguments) =
        blueprint.registry.exactFor (.generic ⟨closed.id, ""⟩ ⟨definition.id, ""⟩ []) :=
      Registry.exactFor_congr (by simp [ServiceType.canonical, BEq.beq, ServiceType.same])
    simp only [Registry.all, exact]
    rfl
  rw [same] at served
  refine List.mem_map.2 ⟨_, List.mem_flatMap.2 ⟨_, List.mem_append_right _ ?_,
    mem_keysOf served registered unowned⟩, ?_⟩
  · exact List.mem_flatMap.2 ⟨_, found, List.mem_filterMap.2
      ⟨descriptor, List.mem_of_getElem? registered, by rw [filed]; rfl⟩⟩
  · simp [instanceKey, opened, CacheKey.digest, ServiceType.digest]

end Blueprint

theorem Memo.Plans.digest_mem {blueprint : Blueprint} {memo : Memo} {position : Nat}
    {service : ServiceType} {callSite : CallSite}
    (planned : memo.Plans blueprint position service callSite)
    (constructs : callSite.kind.constructs = true) :
    callSite.site.key.digest ∈ blueprint.constructionKeys.map CacheKey.digest := by
  obtain ⟨target, slot, lists, picked, assembled, _⟩ := planned
  have served := picked.served lists
  -- Registrations that are no open definitions have one key each.
  have exact : ∀ {other : ServiceType} {place : Nat} {descriptor : Descriptor},
      blueprint.registry.Picks target other place slot →
      blueprint.registry.descriptors[place]? = some descriptor →
      descriptor.isOpenGeneric = false →
      (∀ name value, descriptor.implementation ≠ .fixed name value) →
      (instanceKey descriptor other slot).digest ∈
        blueprint.constructionKeys.map CacheKey.digest := by
    intro other place descriptor again registered closed unowned
    exact List.mem_map_of_mem
      (mem_constructionKeys_of_exact (again.served lists) registered closed unowned)
  cases assembled with
  | @own _ own _ _ => cases own <;> cases constructs
  | collect _ _ _ | fixed _ _ _ => cases constructs
  | produced again registered implemented | constructed again registered implemented _ _ =>
    obtain ⟨_, _, rfl⟩ := picked.eq again
    refine exact again registered ?_ ?_
    · simp [Descriptor.isOpenGeneric, implemented]
    · simp [implemented]
  | opened again registered implemented listed _ =>
    obtain ⟨rfl, rfl, rfl⟩ := picked.eq again
    exact digest_mem_of_open served registered (by simp [Descriptor.isOpenGeneric, implemented])
      listed

namespace World
variable {world later : World}

/-- The provider and the key of every construction that there can be. -/
def pairs (world : World) : Finset (EngineId × List Nat) :=
  (world.blueprints.zipIdx.flatMap fun (blueprint, id) =>
    blueprint.constructionKeys.map fun key => (id, key.digest)).toFinset

def pairOf (frame : Frame) : EngineId × List Nat := (frame.engine, frame.key.digest)

theorem pairs_congr (same : later.blueprints = world.blueprints) : later.pairs = world.pairs := by
  rw [pairs, same, pairs]

theorem mem_pairs {id : EngineId} {engine : Engine} (listed : world.engines[id]? = some engine)
    {digest : List Nat} (known : digest ∈ engine.blueprint.constructionKeys.map CacheKey.digest) :
    (id, digest) ∈ world.pairs := by
  obtain ⟨key, member, rfl⟩ := List.mem_map.1 known
  refine List.mem_toFinset.2 (List.mem_flatMap.2 ⟨(engine.blueprint, id), ?_, ?_⟩)
  · refine List.mk_mem_zipIdx_iff_getElem?.2 ?_
    rw [blueprints, List.getElem?_map, listed]
    rfl
  · exact List.mem_map_of_mem member

/-- No more constructions are in progress than there are providers' keys. -/
theorem Regular.depth_le (regular : world.Regular)
    (nested : world.stack = (underway world.journal).map (·.frame)) :
    world.stack.length ≤ world.pairs.card := by
  have distinct : (world.stack.map pairOf).Nodup := by
    refine List.pairwise_map.2 (regular.apart.imp fun {outer inner} apart same => ?_)
    obtain ⟨engines, digests⟩ := Prod.mk.inj same
    rw [Bool.eq_false_iff] at apart
    exact apart (Frame.makes_iff.2 ⟨engines, CacheKey.digest_eq_iff.1 digests⟩)
  have inside : (world.stack.map pairOf).toFinset ⊆ world.pairs := by
    intro pair listed
    obtain ⟨frame, member, rfl⟩ := List.mem_map.1 (List.mem_toFinset.1 listed)
    obtain ⟨location, callSite, warrants⟩ := regular.warrants nested member
    obtain ⟨held, constructs, keyed, _, _, hosted, _⟩ := warrants
    obtain ⟨_, _, planned⟩ := held.plans (regular.formed.engine_sound _).memo constructs
    have placed := regular.formed.placed _ _ hosted
    have listed : world.engines[frame.engine]? = some world.engines[frame.engine] :=
      List.getElem?_eq_getElem placed
    have known := planned.digest_mem constructs
    rw [keyed, engine_of_some listed] at known
    exact mem_pairs listed known
  have counted := Finset.card_le_card inside
  rwa [List.toFinset_card_of_nodup distinct, List.length_map] at counted

end World
end ServiceContainer
