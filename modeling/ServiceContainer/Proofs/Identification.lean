import ServiceContainer.Proofs.Capture
import ServiceContainer.Proofs.Collections

/-! Keys of instances that are kept. All that a provider builds, it remembers, so every node of its
graphs that is kept comes from a registration. Main statement: two such nodes have one key if and only
if they come from one registration, and from an open definition for one closed type. -/
namespace ServiceContainer
open Relation

namespace Memo
variable {blueprint : Blueprint} {memo : Memo} {position second slot place : Nat}
  {service wanted : ServiceType} {callSite another node : CallSite} {descriptor : Descriptor}

theorem Holds.of_contains (held : memo.Holds callSite) (sound : Sound blueprint memo)
    (contains : callSite.Contains node) : memo.Holds node := by
  induction contains with
  | refl => exact held
  | tail _ member ih => exact ih.child sound _ member

theorem Holds.constructs (held : memo.Holds callSite) (sound : Sound blueprint memo)
    (kept : callSite.site.location ≠ .nowhere) : callSite.kind.constructs = true := by
  by_contra quiet
  exact kept (held.unkept sound (Bool.not_eq_true _ ▸ quiet))

theorem Plans.holds (planned : memo.Plans blueprint position service callSite) :
    memo.Holds callSite := by
  obtain ⟨target, _, _, _, _, recorded⟩ := planned
  exact .inl ⟨target.key, recorded⟩

/-- The key that a registration says: an exact one has one for all services that it serves, an open
definition one for each. -/
theorem Files.key_eq (filed : Files blueprint memo position service callSite descriptor slot) :
    callSite.site.key =
      if descriptor.isOpenGeneric then ⟨service, slot⟩
      else ⟨descriptor.service.canonical, blueprint.registry.slotOf position⟩ := by
  rw [filed.key, Blueprint.instanceKey]
  cases opened : descriptor.isOpenGeneric with
  | true => rfl
  | false => rw [(Registry.slot_of_exact filed.registered opened filed.served).2]; rfl

/-- Graphs of an open definition with one key are for one closed type. -/
theorem Plans.service_congr (one : memo.Plans blueprint position service callSite)
    (other : memo.Plans blueprint position wanted another)
    (registered : blueprint.registry.descriptors[position]? = some descriptor)
    (opened : descriptor.isOpenGeneric = true)
    (same : (callSite.site.key == another.site.key) = true) : (service == wanted) = true := by
  obtain ⟨_, _, filed, _⟩ := one.filed
  obtain ⟨_, _, again, _⟩ := other.filed
  cases registered.symm.trans filed.registered
  cases registered.symm.trans again.registered
  rw [filed.key_eq, again.key_eq, if_pos opened, if_pos opened] at same
  exact (CacheKey.beq_iff.1 same).1

section Kept
variable (one : memo.Plans blueprint position service callSite)
  (constructs : callSite.kind.constructs = true) (too : another.kind.constructs = true)
include one constructs too

theorem Plans.key_iff (other : memo.Plans blueprint second wanted another)
    (registered : blueprint.registry.descriptors[position]? = some descriptor) :
    (callSite.site.key == another.site.key) = true ↔
      position = second ∧ (descriptor.isOpenGeneric = true → (service == wanted) = true) := by
  constructor
  · intro same
    obtain rfl := one.position_congr other constructs too same
    exact ⟨rfl, fun opened => one.service_congr other registered opened same⟩
  · rintro ⟨rfl, services⟩
    exact one.key_congr other constructs too registered services

theorem Plans.slot_iff (other : memo.Plans blueprint second service another)
    (listed : (position, slot) ∈ blueprint.registry.all service)
    (again : (second, place) ∈ blueprint.registry.all service) :
    (callSite.site.key == another.site.key) = true ↔ slot = place := by
  obtain ⟨descriptor, _, filed, _⟩ := one.filed
  rw [one.key_iff constructs too other filed.registered]
  constructor
  · rintro ⟨rfl, _⟩
    exact Registry.slot_unique listed again
  · rintro rfl
    exact ⟨Registry.position_unique listed again, fun _ => BEq.rfl⟩

end Kept
end Memo

namespace World
variable {before world : World} {id : EngineId} {callSite : CallSite}

/-- The provider has built the graph, by itself or within another one, and remembers it. -/
def HasBuilt (world : World) (id : EngineId) (callSite : CallSite) : Prop :=
  ∃ key, (world.engine id).memo.lookup key = some (some callSite)

theorem Moves.hasBuilt (moves : before.Moves world) (built : before.HasBuilt id callSite) :
    world.HasBuilt id callSite := by
  obtain ⟨key, known⟩ := built
  exact ⟨key, moves.extends.memo id key _ known⟩

theorem WellFormed.hasBuilt (formed : world.WellFormed) (provided : id < world.engines.length)
    {service : ServiceType} {later : World}
    (asked : (Run.onEngine id (Engine.callSite service)).run world =
      some (.ok (some callSite), later)) : later.HasBuilt id callSite := by
  obtain ⟨found, after⟩ := Run.engine_of_onEngine provided asked
  obtain ⟨_, recorded⟩ := (formed.engine_sound id).callSite rfl
  refine ⟨⟨service, 0⟩, ?_⟩
  rw [after]
  exact recorded _ found.symm

section Sample

/-- The provider's world after it has found the graphs of racks of lamps, by their plain and by their
generic name, and of all of them. -/
def arranging : World :=
  afterAsking racking [.plain lampRack, lampRacks, .collection lampRacks]

def keepsUnder (request key : CacheKey) : Bool :=
  ((arranging.engine 0).memo.lookup request).join.any fun callSite =>
    callSite.site.location == .scope && callSite.site.key == key

theorem exists_of_keepsUnder (request key : CacheKey) (shown : keepsUnder request key = true) :
    ∃ callSite, arranging.HasBuilt 0 callSite ∧ callSite.site.location ≠ .nowhere ∧
      (callSite.site.key == key) = true := by
  obtain ⟨callSite, found, held⟩ := (Option.any_eq_true ..).1 shown
  obtain ⟨placed, keyed⟩ := Bool.and_eq_true_iff.1 held
  refine ⟨callSite, ⟨request, Option.join_eq_some_iff.1 found⟩, ?_, keyed⟩
  rw [beq_iff_eq.1 placed]
  exact CacheLocation.noConfusion

end Sample

/-- A provider remembers all graphs that it ever built, for requests and for realizations. Each node
of them that is kept comes from a registration that serves its service in its slot, and has the key
that the registration says. And two of these nodes have one key if and only if they come from one
registration and, if it is an open definition, for one closed type; so an exact registration has one
key whatever it is asked for as, and the slots of a service have as many keys. -/
theorem Reachable.keys_identify (reached : before.Reachable) (moves : before.Moves world)
    (provided : id < world.engines.length) :
    (∀ between callSite, Moves between world → between.HasBuilt id callSite →
      world.HasBuilt id callSite) ∧
    (∀ service callSite later, (Run.onEngine id (Engine.callSite service)).run world =
      some (.ok (some callSite), later) → later.HasBuilt id callSite) ∧
    (∀ realization ∈ (world.engine id).realizations, world.HasBuilt id realization.callSite) ∧
    (∀ callSite node : CallSite, world.HasBuilt id callSite → callSite.Contains node →
      node.site.location ≠ .nowhere → ∃ position descriptor service slot,
        (world.engine id).blueprint.registry.descriptors[position]? = some descriptor ∧
        (position, slot) ∈ (world.engine id).blueprint.registry.all service ∧
        world.Plans id position service node ∧
        node.site.key =
          if descriptor.isOpenGeneric then ⟨service, slot⟩
          else ⟨descriptor.service.canonical,
            (world.engine id).blueprint.registry.slotOf position⟩) ∧
    ∀ (one other : CallSite) (position second : Nat) (service wanted : ServiceType),
      world.Plans id position service one → world.Plans id second wanted other →
      one.site.location ≠ .nowhere → other.site.location ≠ .nowhere →
      (∀ descriptor,
        (world.engine id).blueprint.registry.descriptors[position]? = some descriptor →
        ((one.site.key == other.site.key) = true ↔ position = second ∧
          (descriptor.isOpenGeneric = true → (service == wanted) = true))) ∧
      ∀ slot place, service = wanted →
        (position, slot) ∈ (world.engine id).blueprint.registry.all service →
        (second, place) ∈ (world.engine id).blueprint.registry.all wanted →
        ((one.site.key == other.site.key) = true ↔ slot = place) := by
  have formed : world.WellFormed := moves.steps.wellFormed reached.wellFormed
  have sound := formed.engine_sound id
  refine ⟨fun _ _ after built => after.hasBuilt built,
    fun _ _ _ asked => formed.hasBuilt provided asked, fun realization listed => ?_,
    fun callSite node built contains kept => ?_,
    fun one other position second service wanted planned again kept too => ?_⟩
  · obtain ⟨service, known⟩ := sound.realized realization listed
    exact ⟨_, known⟩
  · have root : (world.engine id).memo.Holds callSite := .inl built
    have held := root.of_contains sound.memo contains
    obtain ⟨position, service, planned⟩ :=
      held.plans sound.memo (held.constructs sound.memo kept)
    obtain ⟨descriptor, slot, filed, _⟩ := planned.filed
    exact ⟨position, descriptor, service, slot, filed.registered, filed.served, planned,
      filed.key_eq⟩
  · have constructs := planned.holds.constructs sound.memo kept
    have constructed := again.holds.constructs sound.memo too
    refine ⟨fun descriptor registered => planned.key_iff constructs constructed again registered, ?_⟩
    rintro slot place rfl listed relisted
    exact planned.slot_iff constructs constructed again listed relisted

/-- A rack of lamps is made by one registration under either name, and by another one when it comes
from the open definition. -/
theorem keys_identify_racks :
    ∃ (plain generic opened : CallSite) (position other : Nat) (service wanted closed : ServiceType),
      arranging.Plans 0 position service plain ∧ arranging.Plans 0 position wanted generic ∧
      arranging.Plans 0 other closed opened ∧
      (plain.site.key == ⟨.plain lampRack, 0⟩) = true ∧
      (generic.site.key == ⟨.plain lampRack, 0⟩) = true ∧
      (opened.site.key == ⟨lampRacks, 3⟩) = true ∧
      ¬(position = other ∧ (service == closed) = true) := by
  obtain ⟨plain, built, kept, keyed⟩ :=
    exists_of_keepsUnder ⟨.plain lampRack, 0⟩ ⟨.plain lampRack, 0⟩ (by decide +kernel)
  obtain ⟨generic, builds, keeps, keys⟩ :=
    exists_of_keepsUnder ⟨lampRacks, 0⟩ ⟨.plain lampRack, 0⟩ (by decide +kernel)
  obtain ⟨opened, found, stays, kind⟩ :=
    exists_of_keepsUnder ⟨lampRacks, 3⟩ ⟨lampRacks, 3⟩ (by decide +kernel)
  have provided : 0 < arranging.engines.length := by decide +kernel
  obtain ⟨_, _, _, sources, identify⟩ :=
    (reachable_afterAsking racking _).keys_identify (.refl : arranging.Moves _) provided
  obtain ⟨position, _, service, _, registered, _, planned, _⟩ := sources _ _ built .refl kept
  obtain ⟨second, _, wanted, _, _, _, again, _⟩ := sources _ _ builds .refl keeps
  obtain ⟨other, _, closed, _, _, _, apart, _⟩ := sources _ _ found .refl stays
  obtain ⟨rfl, _⟩ := ((identify _ _ _ _ _ _ planned again kept keeps).1 _ registered).1
    (BEq.trans keyed (BEq.symm keys))
  refine ⟨plain, generic, opened, position, other, service, wanted, closed, planned, again, apart,
    keyed, keys, kind, fun ⟨same, services⟩ => ?_⟩
  have shared := ((identify _ _ _ _ _ _ planned apart kept stays).1 _ registered).2
    ⟨same, fun _ => services⟩
  cases BEq.trans (BEq.symm keyed) (BEq.trans shared kind)

end World
end ServiceContainer
