import Mathlib.Logic.Relation
import ServiceContainer.Proofs.CallSite.Keys
import ServiceContainer.Proofs.Journal
import ServiceContainer.Proofs.Passes

/-! The steps that a world takes. Whatever is asked of providers, their worlds change in these steps
and in no other way; each says what had been checked before it was taken. Main statement: a step
keeps worlds well formed, and forgets no scope, no graph and no event. -/
namespace ServiceContainer

namespace World

/-- If the provider checks lifetimes, the graph makes no scoped service in its root, neither for a
singleton nor when the root itself asks. -/
def Clear (world : World) (engine : EngineId) (scope : ScopeId) (callSite : CallSite) : Prop :=
  (world.engine engine).options.validateScopes = true → (world.engine engine).memo.Lawful →
    callSite.Sheltered ∧ (world.IsRootOf scope engine → ¬callSite.Exposed)

/-- The scope's provider has made the graph, and found it clear for the scope. -/
def Offers (world : World) (scope : ScopeId) (callSite : CallSite) : Prop :=
  ∃ engine, world.Hosts scope engine ∧ (world.engine engine).memo.Holds callSite ∧
    world.Clear engine scope callSite

/-- What an entry holds: nothing, or an instance unless it is still being made. -/
def cached (world : World) (cell : Frame) : Option (Option Value) :=
  if (world.scope cell.owner).engine = cell.engine then
    (world.scope cell.owner).cache.lookup cell.key
  else none

theorem cached_frame (world : World) (site : Site) (owner : ScopeId) :
    world.cached (world.frame site owner) = (world.scope owner).cache.lookup site.key :=
  if_pos rfl

structure Making (world : World) (site : Site) (owner : ScopeId) : Prop where
  innermost : ∃ outer, world.stack = outer ++ [world.frame site owner]
  hosted : world.Hosts owner (world.scope owner).engine
  begun : .entered (world.scope owner).engine site.key site.location owner ∈ world.journal

inductive Step : World → World → Prop where
  | say {world : World} (line : String) : Step world (world.record (.said line))
  | cleanUp {world : World} {owner : ScopeId} {ticket : Nat}
      (pending : world.Pending owner ticket) : Step world (world.record (.disposed ticket))
  | notify {world : World} (id : EngineId) (notice : Notice) : Step world (notify id world notice)
  | engine {world : World} (id : EngineId) {engine : Engine} (sound : engine.Sound)
      (grown : (world.engine id).Extends engine) : Step world (world.withEngine id engine)
  | build {world : World} {engine : Engine} (sound : engine.Sound) :
      Step world
        ({ world with engines := world.engines ++ [engine] : World }.addScope
          world.engines.length none).2
  | spawn {world : World} {scope : ScopeId} {parent : Scope}
      (listed : world.scopes[scope]? = some parent) :
      Step world (world.addScope parent.engine (some (parent.root.getD scope))).2
  | keepBooks {world : World} {factories : List InstanceFactory}
      (added : world.factories <+: factories) (nextSerial : Nat) (tallies : Table Nat Nat) :
      Step world { world with factories, nextSerial, tallies }
  /-- The innermost construction has made what is to be disposed by its owner. -/
  | entrust {world : World} {site : Site} {owner : ScopeId} {disposable : Disposable}
      {value : Value} (making : world.Making site owner)
      (settled : (world.scope owner).state = .open ∨ disposable.mode = .async) :
      Step world (world.entrust site owner disposable value)
  /-- It has, but the owner is no longer open. -/
  | refuse {world : World} {site : Site} {owner : ScopeId} {disposable : Disposable}
      {value : Value} (making : world.Making site owner)
      (closed : (world.scope owner).state ≠ .open) : Step world (world.refuse site owner disposable value)
  | drain {world : World} {scope : ScopeId} (opened : (world.scope scope).state = .open) :
      Step world (world.drain scope)
  /-- All that the scope took over has been disposed, except for what is asynchronous. -/
  | close {world : World} {scope : ScopeId} (disposing : (world.scope scope).state = .disposing)
      (done : ∀ maker tracked value, .entrusted maker tracked value true ∈ world.journal →
        maker.owner = scope → tracked.disposable.mode = .sync →
          .disposed tracked.ticket ∈ world.journal) : Step world (world.close scope)
  /-- A construction begins: it is not running already, and no instance is kept for it. -/
  | enter {world : World} {callSite : CallSite} {owner : ScopeId}
      (offered : world.Offers owner callSite) (constructs : callSite.kind.constructs = true)
      (apart : ∀ frame ∈ world.stack,
        frame.makes (world.scope owner).engine callSite.site.key = false)
      (missing : callSite.site.location ≠ .nowhere →
        ∀ value, world.cached (world.frame callSite.site owner) ≠ some (some value))
      (rooted : callSite.site.location = .root →
        world.IsRootOf owner (world.scope owner).engine ∧ (world.scope owner).state = .open) :
      Step world (world.begin callSite.site owner)
  | complete {world : World} {site : Site} {owner : ScopeId} {value : Value}
      (making : world.Making site owner) : Step world (world.finish site owner value)
  | leave {world : World} {outer : List Frame} {frame : Frame}
      (innermost : world.stack = outer ++ [frame]) : Step world (world.leave frame.engine frame.key)
  | obtain {world : World} {site : Site} {owner : ScopeId} {value : Value}
      (had : value ∈ world.made (· == world.frame site owner) ∨
        world.cached (world.frame site owner) = some (some value)) :
      Step world (world.record (.obtained (world.scope owner).engine site.key owner value))

structure Housed (world : World) : Prop where
  sound : world.Sound
  placed : ∀ scope engine, world.Hosts scope engine → engine < world.engines.length
  /-- What a scope takes for its root is one, of the same provider. -/
  rooted : ∀ (scope : ScopeId) (engine : EngineId) (root : ScopeId),
    world.shapes[scope]? = some (engine, some root) → world.IsRootOf root engine
  alone : ∀ engine one other, world.IsRootOf one engine → world.IsRootOf other engine → one = other

structure WellFormed (world : World) : Prop extends world.Housed where
  ledger : world.Ledger

structure Extends (world later : World) : Prop where
  options : ∀ id < world.engines.length,
    id < later.engines.length ∧ (later.engine id).options = (world.engine id).options
  memo : ∀ id, (world.engine id).memo.Grows (later.engine id).memo
  graphs : ∀ id, (world.engine id).realizations.map (·.callSite) <+:
    (later.engine id).realizations.map (·.callSite)
  factories : world.factories <+: later.factories
  shapes : world.shapes <+: later.shapes
  journal : world.journal <:+ later.journal

namespace Extends
variable {world later last : World}

theorem refl (world : World) : world.Extends world :=
  ⟨fun _ inside => ⟨inside, rfl⟩, fun _ => .refl _, fun _ => List.prefix_rfl, List.prefix_rfl,
    List.prefix_rfl, List.suffix_rfl⟩

theorem trans (first : world.Extends later) (second : later.Extends last) : world.Extends last where
  options id inside := by
    obtain ⟨between, same⟩ := first.options id inside
    obtain ⟨present, again⟩ := second.options id between
    exact ⟨present, again.trans same⟩
  memo id := (first.memo id).trans (second.memo id)
  graphs id := (first.graphs id).trans (second.graphs id)
  factories := first.factories.trans second.factories
  shapes := first.shapes.trans second.shapes
  journal := first.journal.trans second.journal

theorem graph? (grows : world.Extends later) {id : EngineId} {realization : Nat}
    {callSite : CallSite} (graph : world.graph? id realization = some callSite) :
    later.graph? id realization = some callSite := by
  unfold World.graph? at graph ⊢
  rw [← List.getElem?_map] at graph ⊢
  exact getElem?_mono (grows.graphs id) graph

theorem factory (grows : world.Extends later) {number : FactoryId} {factory : InstanceFactory}
    (listed : world.factories[number]? = some factory) : later.factories[number]? = some factory :=
  getElem?_mono grows.factories listed

theorem hosts (grows : world.Extends later) {scope : ScopeId} {engine : EngineId}
    (hosted : world.Hosts scope engine) : later.Hosts scope engine := by
  unfold Hosts at hosted ⊢
  obtain ⟨shape, listed, rfl⟩ := Option.map_eq_some_iff.1 hosted
  rw [getElem?_mono grows.shapes listed]
  rfl

/-- A scope keeps its root. -/
theorem root_eq (grows : world.Extends later) {scope : ScopeId} {engine : EngineId}
    (hosted : world.Hosts scope engine) : (later.scope scope).root = (world.scope scope).root := by
  have shaped := shapes_getElem? world scope
  have still := shapes_getElem? later scope
  rw [hosted.listed.1] at shaped
  rw [(grows.hosts hosted).listed.1] at still
  have same := (getElem?_mono grows.shapes shaped).symm.trans still
  exact (congrArg Prod.snd (Option.some.inj same)).symm

theorem ownerFor_eq (grows : world.Extends later) {scope : ScopeId} {engine : EngineId}
    (hosted : world.Hosts scope engine) (location : CacheLocation) :
    later.ownerFor location scope = world.ownerFor location scope := by
  cases location with
  | root => rw [ownerFor, ownerFor, rootOf, rootOf, grows.root_eq hosted]
  | scope | nowhere => rfl

theorem isRootOf (grows : world.Extends later) {scope : ScopeId} {engine : EngineId}
    (root : world.IsRootOf scope engine) : later.IsRootOf scope engine :=
  getElem?_mono grows.shapes root

/-- A scope that exists does not become a root. -/
theorem isRootOf_of_hosts (grows : world.Extends later) {scope : ScopeId} {engine id : EngineId}
    (hosted : world.Hosts scope engine) (root : later.IsRootOf scope id) :
    world.IsRootOf scope id := by
  obtain ⟨shape, listed, _⟩ := Option.map_eq_some_iff.1 hosted
  have kept := getElem?_mono grows.shapes listed
  exact listed.trans (kept.symm.trans root)

theorem clear (grows : world.Extends later) (housed : world.Housed) {scope : ScopeId}
    {engine : EngineId} {callSite : CallSite} (hosted : world.Hosts scope engine)
    (clear : world.Clear engine scope callSite) : later.Clear engine scope callSite := by
  intro checked lawful
  obtain ⟨_, same⟩ := grows.options engine (housed.placed scope engine hosted)
  obtain ⟨sheltered, unexposed⟩ := clear (same ▸ checked) (lawful.of_grows (grows.memo engine))
  exact ⟨sheltered, fun root => unexposed (grows.isRootOf_of_hosts hosted root)⟩

theorem offers (grows : world.Extends later) (housed : world.Housed) {scope : ScopeId}
    {callSite : CallSite} (offered : world.Offers scope callSite) : later.Offers scope callSite := by
  obtain ⟨engine, hosted, held, clear⟩ := offered
  exact ⟨engine, grows.hosts hosted, held.mono (grows.memo engine),
    grows.clear housed hosted clear⟩

end Extends

section Formed
variable {world : World}

theorem Housed.engine_sound (housed : world.Housed) (id : EngineId) :
    (world.engine id).Sound := by
  cases listed : world.engines[id]? with
  | none =>
    rw [engine_of_none listed]
    exact Engine.sound_fresh {} {} []
  | some found =>
    rw [engine_of_some listed]
    exact housed.sound id found listed

/-- A realized graph is one that its engine holds, and passed the lifetime checks. -/
theorem Housed.graph (housed : world.Housed) {id : EngineId} {realization : Nat}
    {callSite : CallSite} (graph : world.graph? id realization = some callSite) :
    (world.engine id).memo.Holds callSite ∧
      ((world.engine id).options.validateScopes = true → (world.engine id).memo.Lawful →
        callSite.Sheltered) := by
  obtain ⟨realized, listed, rfl⟩ := Option.map_eq_some_iff.1 graph
  have member := List.mem_of_getElem? listed
  have sound := housed.engine_sound id
  exact ⟨sound.holds member, fun checked lawful => sound.sheltered checked lawful realized member⟩
end Formed

theorem Step.extends {world later : World} (step : world.Step later) : world.Extends later := by
  have settled : ∀ {other : World}, other.engines = world.engines →
      other.factories = world.factories → other.shapes = world.shapes →
      world.journal <:+ other.journal → world.Extends other := by
    intro other engines factories shapes journal
    have same : ∀ id, world.engine id = other.engine id := by
      intro id
      rw [World.engine, World.engine, engines]
    exact ⟨fun id inside => ⟨engines ▸ inside, congrArg Engine.options (same id).symm⟩,
      fun id => same id ▸ .refl _, fun id => same id ▸ List.prefix_rfl, factories ▸ List.prefix_rfl,
      shapes ▸ List.prefix_rfl, journal⟩
  cases step with
  | say line => exact settled rfl rfl rfl (List.suffix_cons ..)
  | cleanUp pending => exact settled rfl rfl rfl (List.suffix_cons ..)
  | notify id notice =>
    obtain ⟨events, metrics, told, _⟩ := notify_eq id world notice
    rw [told]
    exact settled rfl rfl rfl (List.suffix_append ..)
  | @engine id engine sound grown =>
    have knows : ∀ other, (world.engine other).memo.Grows
          ((world.withEngine id engine).engine other).memo ∧
        (world.engine other).realizations.map (·.callSite) <+:
          ((world.withEngine id engine).engine other).realizations.map (·.callSite) ∧
        ((world.withEngine id engine).engine other).options = (world.engine other).options := by
      intro other
      rw [engine_withEngine]
      by_cases here : other = id ∧ world.engines[id]? ≠ none
      · rw [if_pos here, here.1]
        exact ⟨grown.memo, grown.realizations, grown.options⟩
      · rw [if_neg here]
        exact ⟨.refl _, List.prefix_rfl, rfl⟩
    unfold withEngine at knows ⊢
    obtain ⟨events, metrics, sent, _⟩ := sent_eq id engine.outbox
      (world.updateEngine id fun _ => { engine with outbox := [] })
    rw [sent] at knows ⊢
    have length : (world.updateEngine id fun _ => { engine with outbox := [] }).engines.length =
        world.engines.length := List.length_modify ..
    exact ⟨fun other inside => ⟨length.symm ▸ inside, (knows other).2.2⟩,
      fun other => (knows other).1, fun other => (knows other).2.1, List.prefix_rfl,
      List.prefix_rfl, List.suffix_append ..⟩
  | @build engine sound =>
    have knows : ∀ id, (world.engine id).memo.Grows ((world.engines ++ [engine]).getD id {}).memo ∧
        (world.engine id).realizations.map (·.callSite) <+:
          ((world.engines ++ [engine]).getD id {}).realizations.map (·.callSite) := by
      intro id
      cases listed : world.engines[id]? with
      | none =>
        rw [engine_of_none listed]
        refine ⟨?_, List.nil_prefix⟩
        intro key found known
        cases known
      | some found =>
        have inside := (List.getElem?_eq_some_iff.1 listed).1
        rw [engine_of_some listed, List.getD, List.getElem?_append_left inside, listed]
        exact ⟨.refl _, List.prefix_rfl⟩
    have options : ∀ id < world.engines.length, id < (world.engines ++ [engine]).length ∧
        ((world.engines ++ [engine]).getD id {}).options = (world.engine id).options := by
      intro id inside
      refine ⟨by simp [Nat.lt_succ_of_lt inside], ?_⟩
      rw [World.engine, List.getD, List.getD, List.getElem?_append_left inside]
    exact ⟨options, fun id => (knows id).1, fun id => (knows id).2, List.prefix_rfl,
      (List.prefix_append world.scopes _).map Scope.shape, List.suffix_rfl⟩
  | spawn listed =>
    exact { Extends.refl world with
      shapes := (List.prefix_append world.scopes _).map Scope.shape }
  | keepBooks added nextSerial tallies => exact { Extends.refl world with factories := added }
  | entrust _ _ => exact settled (by simp) (by simp) (by simp) (by simp)
  | refuse _ _ =>
    refine settled (by simp [World.refuse]) (factories_entrust ..) (by simp [World.refuse]) ?_
    rw [World.refuse, journal_record, journal_entrust]
    exact (List.suffix_cons ..).trans (List.suffix_cons ..)
  | drain opened => exact settled rfl rfl (shapes_drain ..) (List.suffix_cons ..)
  | close disposing done => exact settled rfl rfl (shapes_close ..) (List.suffix_cons ..)
  | enter _ _ _ _ _ => exact settled (by simp) (by simp) (by simp) (by simp)
  | complete _ =>
    refine settled (by simp) (by simp) (by simp) ?_
    rw [journal_finish]
    exact (List.suffix_cons ..).trans (List.suffix_cons ..)
  | leave innermost => exact settled rfl rfl rfl (List.suffix_cons ..)
  | obtain had => exact settled rfl rfl rfl (List.suffix_cons ..)

theorem Housed.add {world later : World} (housed : world.Housed) (sound : later.Sound)
    (engines : world.engines.length ≤ later.engines.length) {engine : EngineId}
    {root : Option ScopeId} (shapes : later.shapes = world.shapes ++ [(engine, root)])
    (placed : engine < later.engines.length) (below : ∀ top ∈ root, world.IsRootOf top engine)
    (first : root = none → ∀ top, ¬world.IsRootOf top engine) : later.Housed := by
  have listed : ∀ {scope : ScopeId} {shape : EngineId × Option ScopeId},
      later.shapes[scope]? = some shape → world.shapes[scope]? = some shape ∨
        scope = world.shapes.length ∧ shape = (engine, root) := by
    intro scope shape found
    rw [shapes, List.getElem?_append] at found
    by_cases inside : scope < world.shapes.length
    · rw [if_pos inside] at found
      exact .inl found
    · rw [if_neg inside] at found
      obtain ⟨place, same⟩ := List.getElem?_eq_some_iff.1 found
      have last : scope = world.shapes.length := by
        have short := Nat.lt_one_iff.1 place
        exact Nat.le_antisymm (Nat.sub_eq_zero_iff_le.1 short) (Nat.not_lt.1 inside)
      subst last
      exact .inr ⟨rfl, by simpa using same.symm⟩
  have kept : ∀ {scope : ScopeId} {shape : EngineId × Option ScopeId},
      world.shapes[scope]? = some shape → later.shapes[scope]? = some shape := by
    rw [shapes]
    exact getElem?_mono (List.prefix_append ..)
  refine ⟨sound, ?_, ?_, ?_⟩
  · intro scope owner hosted
    obtain ⟨shape, found, rfl⟩ := Option.map_eq_some_iff.1 hosted
    obtain old | ⟨_, rfl⟩ := listed found
    · have hosted : world.Hosts scope shape.1 := by
        rw [Hosts, old]
        rfl
      exact (housed.placed scope shape.1 hosted).trans_le engines
    · exact placed
  · intro scope owner top found
    obtain old | ⟨_, new⟩ := listed found
    · exact kept (housed.rooted scope owner top old)
    · cases new
      exact kept (below top rfl)
  · intro owner one other here there
    obtain old | ⟨last, new⟩ := listed here
    · obtain again | ⟨_, new⟩ := listed there
      · exact housed.alone owner one other old again
      · cases new
        exact absurd old (first rfl one)
    · cases new
      obtain old | ⟨same, _⟩ := listed there
      · exact absurd old (first rfl other)
      · rw [last, same]

theorem Step.housed {world later : World} (housed : world.Housed) (step : world.Step later) :
    later.Housed := by
  obtain ⟨sound, placed, rooted, alone⟩ := housed
  have settled : ∀ {other : World}, other.Sound → other.engines.length = world.engines.length →
      other.shapes = world.shapes → other.Housed := by
    intro other sound length shapes
    unfold Hosts at placed
    unfold IsRootOf at rooted alone
    rw [← shapes] at placed rooted alone
    rw [← length] at placed
    exact ⟨sound, placed, rooted, alone⟩
  have kept : ∀ {other : World}, other.engines = world.engines → other.shapes = world.shapes →
      other.Housed := by
    intro other engines shapes
    refine settled ?_ (congrArg List.length engines) shapes
    rwa [World.Sound, engines]
  cases step with
  | say line => exact kept rfl rfl
  | cleanUp pending => exact kept rfl rfl
  | notify id notice =>
    obtain ⟨events, metrics, told, _⟩ := notify_eq id world notice
    rw [told]
    exact kept rfl rfl
  | @engine id engine quiet grown =>
    have later : (world.withEngine id engine).Sound := sound.withEngine fun _ => quiet
    unfold withEngine at later ⊢
    obtain ⟨events, metrics, sent, _⟩ := sent_eq id engine.outbox
      (world.updateEngine id fun _ => { engine with outbox := [] })
    rw [sent] at later ⊢
    exact settled later (List.length_modify ..) rfl
  | @build engine quiet =>
    have housed : world.Housed := ⟨sound, placed, rooted, alone⟩
    have shapes : ({ world with engines := world.engines ++ [engine] : World }.addScope
        world.engines.length none).2.shapes = world.shapes ++ [(world.engines.length, none)] := by
      simp [World.shapes, addScope, Scope.shape]
    refine housed.add ?_ ?_ shapes ?_ (by simp) ?_
    · intro id found (listed : (world.engines ++ [engine])[id]? = some found)
      obtain old | new := List.mem_append.1 (List.mem_of_getElem? listed)
      · obtain ⟨place, listed⟩ := List.mem_iff_getElem?.1 old
        exact sound place found listed
      · rwa [List.mem_singleton.1 new]
    · simp [addScope]
    · simp [addScope]
    · intro _ top root
      exact lt_irrefl _ (placed top world.engines.length root.hosts)
  | @spawn scope parent listed =>
    have housed : world.Housed := ⟨sound, placed, rooted, alone⟩
    have shapes : (world.addScope parent.engine (some (parent.root.getD scope))).2.shapes =
        world.shapes ++ [(parent.engine, some (parent.root.getD scope))] := by
      simp [World.shapes, addScope, Scope.shape]
    have shaped : world.shapes[scope]? = some (parent.engine, parent.root) := by
      rw [shapes_getElem?, listed]
      rfl
    refine housed.add sound le_rfl shapes (placed scope _ (.of_listed listed)) ?_ (by simp)
    rintro top ⟨⟩
    cases above : parent.root with
    | none => rwa [above] at shaped
    | some root =>
      rw [above] at shaped
      exact rooted scope parent.engine root shaped
  | keepBooks added nextSerial tallies => exact kept rfl rfl
  | entrust _ _ => exact kept (by simp) (by simp)
  | refuse _ _ => exact kept (by simp [World.refuse]) (by simp [World.refuse])
  | drain opened => exact kept rfl (shapes_drain ..)
  | close disposing done => exact kept rfl (shapes_close ..)
  | enter _ _ _ _ _ => exact kept (by simp) (by simp)
  | complete _ => exact kept (by simp) (by simp)
  | leave innermost => exact kept rfl rfl
  | obtain had => exact kept rfl rfl

/-- Steps by what they have to do with disposables. -/
@[elab_as_elim]
theorem Step.casesBooked {world : World} {motive : (later : World) → world.Step later → Prop}
    (unbooked : ∀ {later : World} (step : world.Step later), world.Unbooked later →
      motive later step)
    (cleanUp : ∀ {owner : ScopeId} {ticket : Nat} (pending : world.Pending owner ticket),
      motive _ (.cleanUp pending))
    (entrust : ∀ {site : Site} {owner : ScopeId} {disposable : Disposable} {value : Value}
      (making : world.Making site owner)
      (settled : (world.scope owner).state = .open ∨ disposable.mode = .async),
      motive (world.entrust site owner disposable value) (.entrust making settled))
    (refuse : ∀ {site : Site} {owner : ScopeId} {disposable : Disposable} {value : Value}
      (making : world.Making site owner) (closed : (world.scope owner).state ≠ .open),
      motive (world.refuse site owner disposable value) (.refuse making closed))
    (drain : ∀ {scope : ScopeId} (opened : (world.scope scope).state = .open),
      motive _ (.drain opened))
    (close : ∀ {scope : ScopeId} (disposing : (world.scope scope).state = .disposing)
      (done : ∀ maker tracked value, .entrusted maker tracked value true ∈ world.journal →
        maker.owner = scope → tracked.disposable.mode = .sync →
          .disposed tracked.ticket ∈ world.journal), motive _ (.close disposing done))
    {later : World} (step : world.Step later) : motive later step := by
  cases step with
  | say line => exact unbooked _ (.record world rfl)
  | cleanUp pending => exact cleanUp pending
  | notify id notice => exact unbooked _ (.notify id world notice)
  | engine id _ _ => exact unbooked _ (.withEngine world id _)
  | @build engine _ =>
    have added := Unbooked.addScope { world with engines := world.engines ++ [engine] }
      world.engines.length none
    exact unbooked _ ⟨added.nextTicket, added.length, added.kept, added.fresh, added.journal⟩
  | spawn _ => exact unbooked _ (.addScope world _ _)
  | keepBooks _ _ _ => exact unbooked _ (.keepBooks world _ _ _)
  | entrust making settled => exact entrust making settled
  | refuse making closed => exact refuse making closed
  | drain opened => exact drain opened
  | close disposing done => exact close disposing done
  | enter _ _ _ _ _ => exact unbooked _ (.begin world _ _)
  | complete _ => exact unbooked _ (.finish world _ _ _)
  | leave _ => exact unbooked _ (.leave world _ _)
  | obtain _ => exact unbooked _ (.record world rfl)

theorem Step.ledger {world later : World} (ledger : world.Ledger) (step : world.Step later) :
    later.Ledger := by
  cases step using Step.casesBooked with
  | unbooked _ unbooked => exact ledger.keep unbooked
  | cleanUp pending => exact ledger.clean pending
  | entrust _ settled => exact ledger.entrust settled
  | refuse _ closed => exact ledger.refuse closed
  | drain opened => exact ledger.drain opened
  | close disposing done => exact ledger.close disposing done

/-- What is to be disposed was made by a construction. -/
theorem Step.entrusted {world later : World} (step : world.Step later) {maker : Frame}
    {tracked : Tracked} {value : Value} {accepted : Bool}
    (member : .entrusted maker tracked value accepted ∈ later.journal) :
    .entrusted maker tracked value accepted ∈ world.journal ∨
      ∃ location, .entered maker.engine maker.key location maker.owner ∈ world.journal := by
  cases step using Step.casesBooked with
  | unbooked _ unbooked => exact .inl ((unbooked.mem_iff rfl).1 member)
  | cleanUp _ | drain _ | close _ _ => exact .inl ((List.mem_cons.1 member).resolve_left (by simp))
  | entrust making _ =>
    rw [journal_entrust] at member
    obtain new | old := List.mem_cons.1 member
    · cases new
      exact .inr ⟨_, making.begun⟩
    · exact .inl old
  | refuse making _ =>
    rw [World.refuse, journal_record, journal_entrust] at member
    obtain new | old := List.mem_cons.1 ((List.mem_cons.1 member).resolve_left (by simp))
    · cases new
      exact .inr ⟨_, making.begun⟩
    · exact .inl old

theorem Step.wellFormed {world later : World} (formed : world.WellFormed)
    (step : world.Step later) : later.WellFormed :=
  ⟨step.housed formed.toHoused, step.ledger formed.ledger⟩

end World
end ServiceContainer