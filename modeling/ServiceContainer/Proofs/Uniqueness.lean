import ServiceContainer.Proofs.Entries
import ServiceContainer.Proofs.Execution.Replies

/-! Instances of singleton and of scoped registrations over whole runs. Main statements: a singleton
is made at most once, and whoever asks for it gets that instance; a scope makes an instance of a
scoped registration at most once before it is disposed, and at most once more after that. -/
namespace ServiceContainer

theorem eq_singleton_of_mem {value : α} {values : List α} (member : value ∈ values)
    (short : values.length ≤ 1) : values = [value] := by
  obtain ⟨only, rfl⟩ := List.length_eq_one_iff.1 (short.antisymm (List.length_pos_of_mem member))
  rw [List.mem_singleton.1 member]

theorem Lifetime.eq_of_location {one other : Lifetime} (same : one.location = other.location) :
    one = other := by
  cases one <;> cases other <;> first | rfl | cases same

namespace World
variable {world : World} {id : EngineId} {position : Nat} {service : ServiceType}
  {callSite : CallSite} {descriptor : Descriptor}

def Plans (world : World) (id : EngineId) (position : Nat) (service : ServiceType)
    (callSite : CallSite) : Prop :=
  (world.engine id).memo.Plans (world.engine id).blueprint position service callSite

/-- The key is that of all graphs of the registration, or of an open definition for the service, and
of no graph of another one. -/
structure Identifies (world : World) (id : EngineId) (position : Nat) (descriptor : Descriptor)
    (service : ServiceType) (key : CacheKey) : Prop where
  shared : ∀ other another, world.Plans id position other another →
    (descriptor.isOpenGeneric = true → (service == other) = true) →
    (key == another.site.key) = true
  alone : ∀ second other another, world.Plans id second other another →
    another.kind.constructs = true → (key == another.site.key) = true → second = position

theorem Plans.identifies (planned : world.Plans id position service callSite)
    (registered : (world.engine id).blueprint.registry.descriptors[position]? = some descriptor)
    (unowned : ∀ name value, descriptor.implementation ≠ .fixed name value) :
    world.Identifies id position descriptor service callSite.site.key where
  shared other another again same := by
    have constructs := planned.constructs registered unowned
    have too := again.constructs registered unowned
    exact planned.key_congr again constructs too registered same
  alone second other another again too same := by
    have constructs := planned.constructs registered unowned
    exact (planned.position_congr again constructs too same).symm

/-- A construction began for a registration whose instances are made, and are kept where it says. -/
theorem Regular.registered_of_entered (regular : world.Regular) {key : CacheKey}
    {location : CacheLocation} {owner : ScopeId}
    (entered : .entered id key location owner ∈ world.journal) :
    ∃ position descriptor service callSite, callSite.site.key = key ∧
      (world.engine id).blueprint.registry.descriptors[position]? = some descriptor ∧
      (∀ name value, descriptor.implementation ≠ .fixed name value) ∧
      world.Plans id position service callSite ∧ location = descriptor.lifetime.location := by
  obtain ⟨callSite, warrants⟩ := regular.planned id key location owner entered
  obtain ⟨held, constructs, keyed, rfl, _, _, _⟩ := warrants
  obtain ⟨position, service, planned⟩ := held.plans (regular.formed.engine_sound id).memo constructs
  obtain ⟨descriptor, _, described⟩ := planned.described constructs
  exact ⟨position, descriptor, service, callSite, keyed, described.registered,
    planned.unowned described.registered constructs, planned, described.location⟩

theorem Regular.registered_of_made (regular : world.Regular) {among : Frame → Bool} {value : Value}
    (made : value ∈ world.made among) :
    ∃ id owner position descriptor service callSite, among ⟨id, callSite.site.key, owner⟩ = true ∧
      (world.engine id).blueprint.registry.descriptors[position]? = some descriptor ∧
      (∀ name value, descriptor.implementation ≠ .fixed name value) ∧
      world.Plans id position service callSite ∧
      .entered id callSite.site.key descriptor.lifetime.location owner ∈ world.journal := by
  obtain ⟨id, key, owner, completed, here⟩ := mem_made.1 made
  obtain ⟨location, entered⟩ := regular.begun id key owner value completed
  obtain ⟨position, descriptor, service, callSite, rfl, registered, unowned, planned, rfl⟩ :=
    regular.registered_of_entered entered
  exact ⟨id, owner, position, descriptor, service, callSite, here, registered, unowned, planned,
    entered⟩

section Planned
variable (regular : world.Regular) (planned : world.Plans id position service callSite)
  (constructs : callSite.kind.constructs = true)
include regular planned constructs

/-- Constructions under the key of a planned graph are for the place that its registration says, and
those of singletons are for the provider's root. -/
theorem Regular.place {key : CacheKey} {location : CacheLocation} {owner : ScopeId}
    (entered : .entered id key location owner ∈ world.journal)
    (same : (key == callSite.site.key) = true) :
    location = callSite.site.location ∧ (location = .root → world.IsRootOf owner id) := by
  obtain ⟨other, warrants⟩ := regular.planned id key location owner entered
  obtain ⟨held, too, rfl, rfl, rooted, _, _⟩ := warrants
  obtain ⟨_, _, again⟩ := held.plans (regular.formed.engine_sound id).memo too
  exact ⟨again.location_congr planned too constructs same, rooted⟩

theorem Regular.keeps (kept : callSite.site.location ≠ .nowhere)
    (owner : ScopeId) {key : CacheKey} (same : (key == callSite.site.key) = true) :
    world.Keeps ⟨id, key, owner⟩ := by
  intro engine other location holder entered here
  obtain ⟨rfl, keys, _⟩ := Frame.beq_iff.1 here
  rw [(regular.place planned constructs entered (BEq.trans keys same)).1]
  exact kept

theorem Regular.made_of_handed (kept : callSite.site.location ≠ .nowhere)
    {value : Value} (handed : value ∈ world.handed (·.makes id callSite.site.key)) :
    value ∈ world.made (·.makes id callSite.site.key) := by
  obtain ⟨engine, key, owner, obtained, here⟩ := mem_handed.1 handed
  obtain ⟨rfl, same⟩ := Frame.makes_iff.1 here
  have once := regular.once _ (regular.keeps planned constructs kept owner same)
  have used := once.used value (mem_handed.2 ⟨engine, key, owner, obtained, BEq.rfl⟩)
  obtain ⟨_, other, _, completed, found⟩ := mem_made.1 used
  obtain ⟨rfl, keys, _⟩ := Frame.beq_iff.1 found
  exact mem_made.2 ⟨_, other, _, completed, Frame.makes_iff.2 ⟨rfl, BEq.trans keys same⟩⟩

/-- Only the root makes instances under the key of a singleton, so its entry counts them all. -/
theorem Regular.made_of_singleton (singleton : callSite.site.location = .root)
    {root : ScopeId} (top : world.IsRootOf root id) :
    world.made (·.makes id callSite.site.key) =
      world.made (· == ⟨id, callSite.site.key, root⟩) := by
  refine List.filterMap_congr fun event listed => ?_
  cases event with
  | completed engine key owner value =>
    have same : (⟨engine, key, owner⟩ : Frame).makes id callSite.site.key =
        ((⟨engine, key, owner⟩ : Frame) == ⟨id, callSite.site.key, root⟩) := by
      rw [Bool.eq_iff_iff, Frame.makes_iff, Frame.beq_iff]
      constructor
      · rintro ⟨rfl, keys⟩
        obtain ⟨location, entered⟩ := regular.begun engine key owner value listed
        obtain ⟨rfl, rooted⟩ := regular.place planned constructs entered keys
        exact ⟨rfl, keys, regular.formed.alone engine owner root (rooted singleton) top⟩
      · exact fun ⟨engines, keys, _⟩ => ⟨engines, keys⟩
    simp only [Event.made?, same]
  | _ => rfl

theorem Regular.singleton_once (singleton : callSite.site.location = .root) :
    (world.made (·.makes id callSite.site.key)).length ≤ 1 := by
  cases made : world.made (·.makes id callSite.site.key) with
  | nil => exact Nat.zero_le _
  | cons value rest =>
    have first : value ∈ world.made (·.makes id callSite.site.key) := by
      rw [made]
      exact List.mem_cons_self
    obtain ⟨engine, key, owner, completed, here⟩ := mem_made.1 first
    obtain ⟨rfl, keys⟩ := Frame.makes_iff.1 here
    obtain ⟨location, entered⟩ := regular.begun engine key owner value completed
    obtain ⟨rfl, rooted⟩ := regular.place planned constructs entered keys
    have kept : callSite.site.location ≠ .nowhere := by simp [singleton]
    have once := regular.once _ (regular.keeps planned constructs kept owner BEq.rfl)
    have places : world.Places ⟨engine, callSite.site.key, owner⟩ (· = .root) := by
      intro other again place holder began here
      obtain ⟨rfl, same, _⟩ := Frame.beq_iff.1 here
      exact (regular.place planned constructs began same).1.trans singleton
    have counted := Frame.length_made ⟨engine, callSite.site.key, owner⟩ world.journal
    rw [(once.prompt places).2] at counted
    rw [← made, regular.made_of_singleton planned constructs singleton (rooted singleton)]
    exact counted.trans_le once.agrees.few.1

end Planned

section Sample

def kept : TypeInfo := ⟨firstFreeTypeId, "Kept"⟩

def closer : TypeInfo := ⟨firstFreeTypeId + 1, "Closer"⟩

def user : TypeInfo := ⟨firstFreeTypeId + 2, "User"⟩

/-- A service with the given lifetime, one that disposes its scope when it is made, and one that
needs the first, then the second, then the first again. -/
def disposing (lifetime : Lifetime) : Blueprint where
  registry := ⟨[
    ⟨.plain kept, lifetime, .produced kept.name fun _ => do
      let serial ← Program.request .serial
      pure (.ok { value := .object ⟨kept, some serial, kept.name⟩ })⟩,
    ⟨.plain closer, .transient, .produced closer.name fun scope => do
      let _ ← Program.request (.dispose scope .sync)
      pure (.ok { value := .object ⟨closer, none, closer.name⟩ })⟩,
    ⟨.plain user, .transient, .constructed user none⟩]⟩
  catalog := ⟨[(user.id, [{
    implementation := user.name
    parameters := [⟨.plain kept, none⟩, ⟨.plain closer, none⟩, ⟨.plain kept, none⟩]
    activate := fun _ => pure (.ok { value := .object ⟨user, none, user.name⟩ }) }])]⟩

def resolving (services : List TypeInfo) : EngineId → ScopeId → Program Unit := fun _ root => do
  let scope ← Program.request (.createScope root)
  services.foldlM (fun _ service => do
    let _ ← Program.request (.resolve scope (.plain service))
    pure ()) ()

def shows (lifetime : Lifetime) (owner : ScopeId) (count : Nat) (world : World) : Bool :=
  (world.made (· == ⟨0, ⟨.plain kept, 0⟩, owner⟩)).length == count &&
    world.journal.all fun event => match event with
      | .entered _ key location _ => key != ⟨.plain kept, 0⟩ || location == lifetime.location
      | _ => true

theorem exists_of_served (served : Except Failure (Option (Unit × World))) (check : World → Bool)
    (checked : (served.toOption.join.map fun ended => check ended.2) = some true) :
    ∃ world, served = .ok (some ((), world)) ∧ check world = true := by
  cases served with
  | error failure => cases checked
  | ok ended =>
    cases ended with
    | none => cases checked
    | some ended => exact ⟨ended.2, rfl, Option.some.inj checked⟩

theorem exists_of_shows {lifetime : Lifetime} {owner : ScopeId} {count : Nat}
    (shown : world.shows lifetime owner (count + 1) = true) (reached : world.Reachable) :
    ∃ position descriptor service callSite,
      (world.engine 0).blueprint.registry.descriptors[position]? = some descriptor ∧
      descriptor.lifetime = lifetime ∧
      (∀ name value, descriptor.implementation ≠ .fixed name value) ∧
      world.Plans 0 position service callSite ∧
      (world.made (· == ⟨0, callSite.site.key, owner⟩)).length = count + 1 := by
  obtain ⟨counted, placed⟩ := Bool.and_eq_true_iff.1 shown
  have length := eq_of_beq counted
  obtain ⟨value, made⟩ := List.exists_mem_of_length_pos (length ▸ Nat.succ_pos count :
    0 < (world.made (· == ⟨0, ⟨.plain kept, 0⟩, owner⟩)).length)
  obtain ⟨id, holder, position, descriptor, service, callSite, here, registered, unowned, planned,
    entered⟩ := reached.regular.registered_of_made made
  obtain ⟨rfl, keys, _⟩ := Frame.beq_iff.1 here
  have location := List.all_eq_true.1 placed _ entered
  dsimp only at location keys
  rw [bne, keys, Bool.not_true, Bool.false_or] at location
  refine ⟨position, descriptor, service, callSite, registered, ?_, unowned, planned, ?_⟩
  · exact Lifetime.eq_of_location (eq_of_beq location)
  · have same : ((⟨0, callSite.site.key, owner⟩ : Frame) == ⟨0, ⟨.plain kept, 0⟩, owner⟩) = true :=
      Frame.beq_iff.2 ⟨rfl, keys, rfl⟩
    rw [among_congr same, length]

end Sample

/-- However providers and their clients run, a singleton, and for an open definition each closed
one, is made at most once; all graphs of its registration share one key, and every use of it, also
the reply to any request for it at any time, is of that instance. -/
theorem Reachable.singleton_unique (reached : world.Reachable)
    (registered : (world.engine id).blueprint.registry.descriptors[position]? = some descriptor)
    (singleton : descriptor.lifetime = .singleton)
    (unowned : ∀ name value, descriptor.implementation ≠ .fixed name value)
    (planned : world.Plans id position service callSite) :
    world.Identifies id position descriptor service callSite.site.key ∧
    (world.made (·.makes id callSite.site.key)).length ≤ 1 ∧
    (∀ value ∈ world.handed (·.makes id callSite.site.key),
      world.made (·.makes id callSite.site.key) = [value]) ∧
    ∀ before after value, Reachable before → Container.Serves id callSite value before after →
      after.journal <:+ world.journal → world.made (·.makes id callSite.site.key) = [value] := by
  have regular := reached.regular
  have constructs := planned.constructs registered unowned
  have top : callSite.site.location = .root := by
    rw [planned.location constructs registered, singleton]
    rfl
  have once := regular.singleton_once planned constructs top
  have only : ∀ value ∈ world.handed (·.makes id callSite.site.key),
      world.made (·.makes id callSite.site.key) = [value] := by
    intro value handed
    have made := regular.made_of_handed planned constructs (by simp [top]) handed
    exact eq_singleton_of_mem made once
  refine ⟨planned.identifies registered unowned, once, only, ?_⟩
  intro before after value started serves later
  obtain ⟨owner, obtained⟩ := serves.obtained started.wellFormed constructs
  refine only value (mem_handed.2 ⟨id, _, owner, later.subset obtained, ?_⟩)
  exact Frame.makes_iff.2 ⟨rfl, BEq.rfl⟩

/-- The scope is disposed between two uses of the singleton, which is not made again. -/
theorem singleton_unique_disposed :
    ∃ world position descriptor service callSite,
      Container.serve 2 (disposing .singleton) {} [] (resolving [kept, user]) {} =
        .ok (some ((), world)) ∧
      (world.engine 0).blueprint.registry.descriptors[position]? = some descriptor ∧
      descriptor.lifetime = .singleton ∧
      (∀ name value, descriptor.implementation ≠ .fixed name value) ∧
      world.Plans 0 position service callSite ∧
      (world.made (·.makes 0 callSite.site.key)).length = 1 := by
  obtain ⟨world, served, shown⟩ := exists_of_served
    (Container.serve 2 (disposing .singleton) {} [] (resolving [kept, user]) {})
    (shows .singleton 0 1) (by decide +kernel)
  have reached := Container.reachable_of_serve (.start []) served
  obtain ⟨position, descriptor, service, callSite, registered, lifetime, unowned, planned,
    counted⟩ := exists_of_shows shown reached
  refine ⟨world, position, descriptor, service, callSite, served, registered, lifetime, unowned,
    planned, Nat.le_antisymm ?_ ?_⟩
  · exact (reached.singleton_unique registered lifetime unowned planned).2.1
  · obtain ⟨value, made⟩ := List.exists_mem_of_length_pos (counted ▸ Nat.one_pos :
      0 < (world.made (· == ⟨0, callSite.site.key, 0⟩)).length)
    obtain ⟨engine, key, owner, completed, here⟩ := mem_made.1 made
    obtain ⟨engines, keys, _⟩ := Frame.beq_iff.1 here
    exact List.length_pos_of_mem
      (mem_made.2 ⟨engine, key, owner, completed, Frame.makes_iff.2 ⟨engines, keys⟩⟩)

/-- However providers and their clients run, a scope makes an instance of a scoped registration at
most once while it is not disposed, and at most once after that. So the instance is unique, for all
its uses through the scope, if and only if it is not made both before and after the disposal. -/
theorem Reachable.scoped_unique (reached : world.Reachable)
    (registered : (world.engine id).blueprint.registry.descriptors[position]? = some descriptor)
    (lifetime : descriptor.lifetime = .scoped)
    (unowned : ∀ name value, descriptor.implementation ≠ .fixed name value)
    (planned : world.Plans id position service callSite) (scope : ScopeId) :
    world.Identifies id position descriptor service callSite.site.key ∧
    (world.timely ⟨id, callSite.site.key, scope⟩).length ≤ 1 ∧
    (world.late ⟨id, callSite.site.key, scope⟩).length ≤ 1 ∧
    (.closed scope ∉ world.journal → world.late ⟨id, callSite.site.key, scope⟩ = []) ∧
    ((world.made (· == ⟨id, callSite.site.key, scope⟩)).length ≤ 1 ↔
      world.timely ⟨id, callSite.site.key, scope⟩ = [] ∨
        world.late ⟨id, callSite.site.key, scope⟩ = []) ∧
    ((world.made (· == ⟨id, callSite.site.key, scope⟩)).length ≤ 1 →
      ∀ value ∈ world.handed (· == ⟨id, callSite.site.key, scope⟩),
        world.made (· == ⟨id, callSite.site.key, scope⟩) = [value]) := by
  have regular := reached.regular
  have constructs := planned.constructs registered unowned
  have kept : callSite.site.location ≠ .nowhere := by
    rw [planned.location constructs registered, lifetime]
    exact CacheLocation.noConfusion
  have once := regular.once _ (regular.keeps planned constructs kept scope BEq.rfl)
  have counted := Frame.length_made ⟨id, callSite.site.key, scope⟩ world.journal
  obtain ⟨timely, late⟩ := once.agrees.few
  refine ⟨planned.identifies registered unowned, timely, late, fun lasting => ?_, ?_,
    fun short value handed => ?_⟩
  · refine (once.agrees.fresh ?_).2
    by_contra gone
    exact lasting ((Frame.gone_iff _ _).1 (by simpa using gone))
  · rw [World.made, counted, ← List.length_eq_zero_iff, ← List.length_eq_zero_iff]
    change _ ↔ (Frame.history ⟨id, callSite.site.key, scope⟩ world.journal).timely.length = 0 ∨
      (Frame.history ⟨id, callSite.site.key, scope⟩ world.journal).late.length = 0
    omega
  · exact eq_singleton_of_mem (once.used value handed) short

/-- A scope that is disposed after its use has made its instance once. -/
theorem scoped_unique_disposed :
    ∃ world position descriptor service callSite,
      Container.serve 2 (disposing .scoped) {} [] (resolving [kept, closer]) {} =
        .ok (some ((), world)) ∧
      (world.engine 0).blueprint.registry.descriptors[position]? = some descriptor ∧
      descriptor.lifetime = .scoped ∧
      (∀ name value, descriptor.implementation ≠ .fixed name value) ∧
      world.Plans 0 position service callSite ∧
      (world.timely ⟨0, callSite.site.key, 1⟩ = [] ∨
        world.late ⟨0, callSite.site.key, 1⟩ = []) := by
  obtain ⟨world, served, shown⟩ := exists_of_served
    (Container.serve 2 (disposing .scoped) {} [] (resolving [kept, closer]) {})
    (shows .scoped 1 1) (by decide +kernel)
  have reached := Container.reachable_of_serve (.start []) served
  obtain ⟨position, descriptor, service, callSite, registered, lifetime, unowned, planned,
    counted⟩ := exists_of_shows shown reached
  have unique := (reached.scoped_unique registered lifetime unowned planned 1).2.2.2.2.1
  exact ⟨world, position, descriptor, service, callSite, served, registered, lifetime, unowned,
    planned, unique.1 counted.le⟩

/-- A scope that is disposed between two uses makes its instance for each of them. -/
theorem scoped_made_twice :
    ∃ world position descriptor service callSite,
      Container.serve 2 (disposing .scoped) {} [] (resolving [user]) {} = .ok (some ((), world)) ∧
      (world.engine 0).blueprint.registry.descriptors[position]? = some descriptor ∧
      descriptor.lifetime = .scoped ∧
      (∀ name value, descriptor.implementation ≠ .fixed name value) ∧
      world.Plans 0 position service callSite ∧
      (world.made (· == ⟨0, callSite.site.key, 1⟩)).length = 2 := by
  obtain ⟨world, served, shown⟩ := exists_of_served
    (Container.serve 2 (disposing .scoped) {} [] (resolving [user]) {})
    (shows .scoped 1 2) (by decide +kernel)
  have reached := Container.reachable_of_serve (.start []) served
  obtain ⟨position, descriptor, service, callSite, registered, lifetime, unowned, planned,
    counted⟩ := exists_of_shows shown reached
  exact ⟨world, position, descriptor, service, callSite, served, registered, lifetime, unowned,
    planned, counted⟩

end World
end ServiceContainer
