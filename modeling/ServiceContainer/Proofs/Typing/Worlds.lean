import ServiceContainer.Proofs.Closings
import ServiceContainer.Proofs.Typing.Engines

/-! Typed worlds: their registrations are typed, and whatever they keep is of the services that it is
kept for. Main statements: the operations on worlds, used on what is typed, keep worlds typed, and
nothing that was known of them is forgotten. -/
namespace ServiceContainer

namespace World

def known (world : World) : Known where
  provides id := id < world.engines.length
  activates activator service :=
    (world.engine activator.engine).Serves activator.realization service
  makes factory type := ∃ found, world.factories[factory]? = some found ∧
    found.implementation.id = type.id

theorem known_congr {world later : World} (engines : later.engines = world.engines)
    (factories : later.factories = world.factories) : later.known = world.known := by
  unfold known World.engine
  rw [engines, factories]

end World

variable [Interfaces]

/-- The body takes its arguments in the order of the factory's sources, and makes the type. -/
def InstanceFactory.Typed (known : Known) (factory : InstanceFactory) : Prop :=
  ∃ services, Takes (fun value => value.typeId = some factory.implementation.id) known services
      factory.activate ∧
    ArgumentSource.Furnish (fun realization => known.activates ⟨factory.engine, realization⟩)
      factory.supplied factory.sources services

theorem InstanceFactory.Typed.mono {factory : InstanceFactory} {known more : Known}
    (typed : factory.Typed known) (grown : known ≤ more) : factory.Typed more := by
  obtain ⟨services, takes, furnish⟩ := typed
  exact ⟨services, takes.mono grown, furnish.mono fun _ _ => grown.activates _ _⟩

structure Scope.Typed (known : Known) (scope : Scope) : Prop where
  cached : ∀ key value, scope.cache.lookup key = some (some value) → value.Fits key.service
  bag : ∀ tracked ∈ scope.bag, tracked.disposable.cleanup.Typed (fun _ _ => True) known

theorem Scope.Typed.mono {scope : Scope} {known more : Known} (typed : scope.Typed known)
    (grown : known ≤ more) : scope.Typed more :=
  ⟨typed.cached, fun tracked listed => (typed.bag tracked listed).mono lasting_true grown⟩

def Event.Typed : Event → Prop
  | .completed _ key _ value => value.Fits key.service
  | .obtained _ key _ value => value.Fits key.service
  | .entrusted maker _ value _ => value.Fits maker.key.service
  | _ => True

namespace World

structure Typed (world : World) : Prop where
  sound : world.Sound
  blueprints : ∀ blueprint ∈ world.blueprints, blueprint.Typed world.known
  placed : ∀ shape ∈ world.shapes, shape.1 < world.engines.length
  factories : ∀ factory ∈ world.factories, factory.Typed world.known
  scopes : ∀ scope, (world.scope scope).Typed world.known
  journal : ∀ event ∈ world.journal, event.Typed

/-- The later world is typed, and all that was known is still known. -/
def Develops (world later : World) : Prop := later.Typed ∧ world.known ≤ later.known

/-- An activator always activates the same service. -/
theorem Develops.activates_same {world later : World} (developed : world.Develops later)
    {activator : Activator} {one other : ServiceType}
    (first : world.known.activates activator one)
    (second : later.known.activates activator other) : (one == other) = true := by
  obtain ⟨callSite, listed, same⟩ := developed.2.activates _ _ first
  obtain ⟨_, again, services⟩ := second
  cases listed.symm.trans again
  exact BEq.trans (BEq.symm same) services

theorem Develops.makes_same {world later : World} (developed : world.Develops later)
    {factory : FactoryId} {one other : TypeInfo} (first : world.known.makes factory one)
    (second : later.known.makes factory other) : one.id = other.id := by
  obtain ⟨found, listed, same⟩ := developed.2.makes _ _ first
  obtain ⟨_, again, types⟩ := second
  cases listed.symm.trans again
  exact same.symm.trans types

theorem typed_start (metrics : List Metrics) : Typed { metrics } where
  sound id engine listed := by cases listed
  blueprints blueprint listed := by cases listed
  placed shape listed := by cases listed
  factories factory listed := by cases listed
  scopes scope := ⟨by rintro _ _ ⟨⟩, by rintro _ ⟨⟩⟩
  journal event listed := by cases listed

namespace Typed
variable {world later : World} (typed : world.Typed)
include typed

theorem engine_sound (id : EngineId) : (world.engine id).Sound := by
  cases listed : world.engines[id]? with
  | none =>
    rw [engine_of_none listed]
    exact Engine.sound_fresh {} {} []
  | some found =>
    rw [engine_of_some listed]
    exact typed.sound id found listed

theorem blueprint (id : EngineId) : (world.engine id).blueprint.Typed world.known := by
  cases listed : world.engines[id]? with
  | none =>
    rw [engine_of_none listed]
    exact ⟨by rintro _ ⟨⟩, by rintro _ ⟨⟩⟩
  | some found =>
    rw [engine_of_some listed]
    exact typed.blueprints _ (List.mem_map_of_mem (List.mem_of_getElem? listed))

theorem provides_of_open {scope : ScopeId} (opened : (world.scope scope).state = .open) :
    world.known.provides (world.scope scope).engine := by
  have hosted := Hosts.of_state (by simp [opened] : (world.scope scope).state ≠ .disposed)
  exact typed.placed (world.scope scope).shape
    (List.mem_map_of_mem (List.mem_of_getElem? hosted.listed.1))

theorem change (engines : later.engines = world.engines)
    (factories : later.factories = world.factories) (shapes : later.shapes = world.shapes)
    (scopes : ∀ scope, (later.scope scope).Typed world.known)
    (journal : ∀ event ∈ later.journal, event.Typed) : world.Develops later := by
  have same : later.known = world.known := known_congr engines factories
  have blueprints : later.blueprints = world.blueprints :=
    congrArg (List.map Engine.blueprint) engines
  refine ⟨⟨typed.sound.of_engines engines, ?_, ?_, ?_, ?_, journal⟩, same ▸ Known.le_refl _⟩
  · rw [same, blueprints]
    exact typed.blueprints
  · rw [shapes, engines]
    exact typed.placed
  · rw [same, factories]
    exact typed.factories
  · rw [same]
    exact scopes

theorem updateScope {id : ScopeId} {change : Scope → Scope}
    (same : later.scopes = world.scopes.modify id change)
    (kept : ∀ found : Scope, found.Typed world.known → (change found).Typed world.known)
    (scope : ScopeId) : (later.scope scope).Typed world.known := by
  have changed : later.scope scope = (world.updateScope id change).scope scope :=
    scope_of_scopes same scope
  rw [changed, scope_updateScope]
  split
  · exact kept _ (typed.scopes scope)
  · exact typed.scopes scope

theorem record {event : Event} (fine : event.Typed) : world.Develops (world.record event) := by
  refine typed.change rfl rfl rfl typed.scopes fun other listed => ?_
  obtain rfl | old := List.mem_cons.1 listed
  · exact fine
  · exact typed.journal other old

theorem notify (id : EngineId) (notice : Notice) : world.Develops (World.notify id world notice) := by
  obtain ⟨events, metrics, told, notified⟩ := notify_eq id world notice
  rw [told]
  refine typed.change rfl rfl rfl typed.scopes fun event listed => ?_
  obtain new | old := List.mem_append.1 listed
  · rw [notified event new]
    trivial
  · exact typed.journal event old

theorem enter (engine : EngineId) (site : Site) (owner : ScopeId) :
    world.Develops (world.enter engine site owner) := by
  refine typed.change rfl rfl rfl typed.scopes fun event listed => ?_
  obtain rfl | old := List.mem_cons.1 listed
  · trivial
  · exact typed.journal event old

theorem leave (engine : EngineId) (key : CacheKey) : world.Develops (world.leave engine key) := by
  refine typed.change rfl rfl rfl typed.scopes fun event listed => ?_
  obtain rfl | old := List.mem_cons.1 listed
  · trivial
  · exact typed.journal event old

theorem reserve (site : Site) (owner : ScopeId) : world.Develops (world.reserve site owner) := by
  refine typed.change (by simp) (by rw [reserve_eq]) (by simp) (fun scope => ?_)
    (by simpa using typed.journal)
  unfold World.reserve
  split
  · exact typed.scopes scope
  · refine typed.updateScope rfl (fun found kept => ?_) scope
    split
    · exact kept
    · refine ⟨fun key value known => ?_, kept.bag⟩
      rw [Table.lookup_insert] at known
      split at known
      · cases known
      · exact kept.cached key value known

theorem keep {site : Site} {value : Value} (fits : value.Fits site.key.service) (owner : ScopeId) :
    world.Develops (world.keep site owner value) := by
  refine typed.change (by simp) (by rw [keep_eq]) (by simp) (fun scope => ?_)
    (by simpa using typed.journal)
  unfold World.keep
  split
  · exact typed.scopes scope
  · refine typed.updateScope rfl (fun found kept => ?_) scope
    split
    · refine ⟨fun key other known => ?_, kept.bag⟩
      rw [Table.lookup_insert] at known
      split at known
      · rename_i same
        cases known
        exact (Value.fits_of_beq (CacheKey.beq_iff.1 same).1).1 fits
      · exact kept.cached key other known
    · exact kept

theorem entrust {site : Site} {value : Value} (fits : value.Fits site.key.service)
    {disposable : Disposable} (cleanup : disposable.cleanup.Typed (fun _ _ => True) world.known)
    (owner : ScopeId) : world.Develops (world.entrust site owner disposable value) := by
  refine typed.change (by simp) ?_ (by simp) (fun scope => ?_) fun event listed => ?_
  · unfold World.entrust
    dsimp only
    split <;> rfl
  · unfold World.entrust
    dsimp only
    split
    · refine typed.updateScope rfl (fun found kept => ?_) scope
      refine ⟨kept.cached, fun tracked listed => ?_⟩
      obtain old | new := List.mem_append.1 listed
      · exact kept.bag tracked old
      · rw [List.mem_singleton.1 new]
        exact cleanup
    · exact typed.scopes scope
  · rw [journal_entrust] at listed
    obtain rfl | old := List.mem_cons.1 listed
    · exact fits
    · exact typed.journal event old

theorem drain (scope : ScopeId) : world.Develops (world.drain scope) := by
  refine typed.change rfl rfl (by simp) (fun other => ?_) fun event listed => ?_
  · refine typed.updateScope rfl (fun found kept => ?_) other
    exact ⟨kept.cached, by rintro _ ⟨⟩⟩
  · obtain rfl | old := List.mem_cons.1 listed
    · trivial
    · exact typed.journal event old

theorem close (scope : ScopeId) : world.Develops (world.close scope) := by
  refine typed.change rfl rfl (by simp) (fun other => ?_) fun event listed => ?_
  · refine typed.updateScope rfl (fun found kept => ?_) other
    exact ⟨by rintro _ _ ⟨⟩, kept.bag⟩
  · obtain rfl | old := List.mem_cons.1 listed
    · trivial
    · exact typed.journal event old

theorem keepBooks (nextSerial : Nat) (tallies : Table Nat Nat) :
    world.Develops { world with nextSerial, tallies } :=
  typed.change rfl rfl rfl typed.scopes typed.journal

theorem addScope {engine : EngineId} (there : engine < world.engines.length)
    (root : Option ScopeId) : world.Develops (world.addScope engine root).2 := by
  have same : (world.addScope engine root).2.known = world.known := known_congr rfl rfl
  refine ⟨⟨typed.sound, same ▸ typed.blueprints, fun shape listed => ?_, same ▸ typed.factories,
    fun scope => ?_, typed.journal⟩, same ▸ Known.le_refl _⟩
  · simp only [shapes, World.addScope, List.map_append, List.mem_append, List.map_cons, List.map_nil,
      List.mem_singleton] at listed
    obtain old | rfl := listed
    · exact typed.placed shape old
    · exact there
  · rw [same]
    by_cases inside : scope < world.scopes.length
    · have old : (world.addScope engine root).2.scope scope = world.scope scope := by
        simp [World.scope, World.addScope, List.getD, List.getElem?_append_left inside]
      exact old ▸ typed.scopes scope
    · have empty : ((world.addScope engine root).2.scope scope).cache = {} ∧
          ((world.addScope engine root).2.scope scope).bag = [] := by
        simp only [World.scope, World.addScope, List.getD,
          List.getElem?_append_right (Nat.not_lt.1 inside)]
        cases scope - world.scopes.length <;> exact ⟨rfl, rfl⟩
      refine ⟨fun key value known => ?_, fun tracked listed => ?_⟩
      · rw [empty.1] at known
        cases known
      · rw [empty.2] at listed
        cases listed

theorem addEngine {engine : Engine} (sound : engine.Sound)
    (well : engine.blueprint.Typed world.known) :
    world.Develops { world with engines := world.engines ++ [engine] } := by
  have grown : world.known ≤ known { world with engines := world.engines ++ [engine] } := by
    refine ⟨fun id there => ?_, fun activator service served => ?_, fun _ _ makes => makes⟩
    · exact Nat.lt_of_lt_of_le there (List.length_append ▸ Nat.le_add_right ..)
    · obtain ⟨callSite, listed, same⟩ := served
      cases present : world.engines[activator.engine]? with
      | none =>
        rw [engine_of_none present] at listed
        cases listed
      | some found =>
        rw [engine_of_some present] at listed
        have kept : ({ world with engines := world.engines ++ [engine] } : World).engine
            activator.engine = found :=
          engine_of_some (getElem?_mono (List.prefix_append ..) present)
        exact ⟨callSite, kept ▸ listed, same⟩
  refine ⟨⟨fun id found listed => ?_, fun blueprint listed => ?_, fun shape listed => ?_,
    fun factory listed => (typed.factories factory listed).mono grown,
    fun scope => (typed.scopes scope).mono grown, typed.journal⟩, grown⟩
  · obtain old | new := List.mem_append.1 (List.mem_of_getElem? listed)
    · obtain ⟨place, listed⟩ := List.mem_iff_getElem?.1 old
      exact typed.sound place found listed
    · exact List.mem_singleton.1 new ▸ sound
  · obtain ⟨found, member, rfl⟩ := List.mem_map.1 listed
    obtain old | new := List.mem_append.1 member
    · exact (typed.blueprints _ (List.mem_map_of_mem old)).mono grown
    · exact List.mem_singleton.1 new ▸ well.mono grown
  · exact Nat.lt_of_lt_of_le (typed.placed shape listed)
      (List.length_append ▸ Nat.le_add_right ..)

theorem withEngine {id : EngineId} {engine : Engine} (sound : engine.Sound)
    (grown : (world.engine id).Extends engine) : world.Develops (world.withEngine id engine) := by
  have learned : world.Extends (world.withEngine id engine) := (Step.engine id sound grown).extends
  obtain ⟨events, metrics, sent, notified⟩ := sent_eq id engine.outbox
    (world.updateEngine id fun _ => { engine with outbox := [] })
  have factories : (world.withEngine id engine).factories = world.factories := by
    rw [World.withEngine, sent]
    rfl
  have journal : (world.withEngine id engine).journal = events ++ world.journal := by
    rw [World.withEngine, sent]
    rfl
  have scopes := world.scopes_withEngine id engine
  have engines : (world.withEngine id engine).engines.length = world.engines.length := by
    rw [World.withEngine, sent]
    exact List.length_modify ..
  have known : world.known ≤ (world.withEngine id engine).known := by
    refine ⟨fun other there => Nat.lt_of_lt_of_eq there engines.symm,
      fun activator service served => ?_, fun place type => ?_⟩
    · exact served.mono (learned.graphs _)
    · unfold World.known
      rw [factories]
      exact fun makes => makes
  refine ⟨⟨typed.sound.withEngine fun _ => sound, fun blueprint listed => ?_, ?_, ?_, ?_, ?_⟩, known⟩
  · rw [world.blueprints_withEngine id grown.blueprint] at listed
    exact (typed.blueprints blueprint listed).mono known
  · rw [World.shapes, scopes, engines]
    exact typed.placed
  · rw [factories]
    exact fun factory listed => (typed.factories factory listed).mono known
  · intro scope
    rw [scope_of_scopes scopes scope]
    exact (typed.scopes scope).mono known
  · rw [journal]
    intro event listed
    obtain new | old := List.mem_append.1 listed
    · obtain ⟨notice, rfl⟩ := notified event new
      trivial
    · exact typed.journal event old

theorem addFactory {factory : InstanceFactory} (made : factory.Typed world.known) :
    world.Develops { world with factories := world.factories ++ [factory] } := by
  have grown : world.known ≤ known { world with factories := world.factories ++ [factory] } := by
    refine ⟨fun _ there => there, fun _ _ served => served, fun place type makes => ?_⟩
    obtain ⟨found, listed, same⟩ := makes
    exact ⟨found, getElem?_mono (List.prefix_append ..) listed, same⟩
  refine ⟨⟨typed.sound, fun blueprint listed => (typed.blueprints blueprint listed).mono grown,
    typed.placed, fun other listed => ?_, fun scope => (typed.scopes scope).mono grown,
    typed.journal⟩, grown⟩
  obtain old | new := List.mem_append.1 listed
  · exact (typed.factories other old).mono grown
  · rw [List.mem_singleton.1 new]
    exact made.mono grown

end Typed
end World
end ServiceContainer
