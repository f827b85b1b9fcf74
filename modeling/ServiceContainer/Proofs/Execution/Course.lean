import ServiceContainer.Proofs.Execution.Runs

/-! Runs as trees. User code invokes realizations, graphs construct instances, and constructions run
user code again; a tree says which of them ran within which. Main statements: a run leaves the stack
as it was, and engines only learn from it. -/
namespace ServiceContainer

/-- What runs: user code, the execution of a graph for a scope, or the making of a site's instance. -/
inductive Part where
  | code
  | graph (scope : ScopeId)
  | making (engine : EngineId) (site : Site) (owner : ScopeId)

/-- Whether the event has to do neither with constructions and notices, nor with the end of scopes. -/
def Event.minor : Event → Bool
  | .said _ | .obtained _ _ _ _ | .disposed _ => true
  | _ => false

/-- Whether a construction begins or ends with the event, or the disposal of a scope does. -/
def Event.frames : Event → Bool
  | .entered _ _ _ _ | .left _ _ | .drained _ _ | .closed _ => true
  | _ => false

def Notice.ends? : Notice → Option ServiceType
  | .resolved service _ | .failed service _ => some service
  | _ => none

namespace World

/-- The scope that user code is handed: the owner of the innermost construction. -/
def handed? (world : World) : Option ScopeId := world.stack.getLast?.map (·.owner)

/-- What happens at once. Confined code has no child scopes. -/
inductive Tick (confined : Bool) : Part → World → World → Prop where
  | note {part : Part} {world : World} {event : Event} (minor : event.minor = true) :
      Tick confined part world (world.record event)
  | keepBooks {part : Part} {world : World} {factories : List InstanceFactory}
      (added : world.factories <+: factories) (nextSerial : Nat) (tallies : Table Nat Nat) :
      Tick confined part world { world with factories, nextSerial, tallies }
  | ask {part : Part} {world : World} (id : EngineId) {engine : Engine}
      (asked : (world.engine id).Asked engine) :
      Tick confined part world (world.withEngine id engine)
  | spawn {world : World} {scope : ScopeId} {parent : Scope} (free : confined = false)
      (listed : world.scopes[scope]? = some parent) :
      Tick confined .code world (world.addScope parent.engine (some (parent.root.getD scope))).2
  | complete {world : World} {id : EngineId} {site : Site} {owner : ScopeId} (value : Value) :
      Tick confined (.making id site owner) world (world.complete id site owner value)
  | entrust {world : World} {id : EngineId} {site : Site} {owner : ScopeId}
      (disposable : Disposable) (value : Value) :
      Tick confined (.making id site owner) world (world.entrust site owner disposable value)

/-- A run as a tree. Confined code invokes for the scope that it is handed only, and disposes of
nothing. -/
inductive Course (confined : Bool) : Part → World → World → Prop where
  | rest {part : Part} {world : World} : Course confined part world world
  | next {part : Part} {world later last : World} (first : Course confined part world later)
      (second : Course confined part later last) : Course confined part world last
  | tick {part : Part} {world later : World} (tick : Tick confined part world later) :
      Course confined part world later
  /-- Observers are told that a realized service is being resolved, and how that ended. -/
  | observe {part : Part} {world later : World} {id : EngineId} {realization : Nat}
      {callSite : CallSite} {ending : Notice}
      (graph : world.graph? id realization = some callSite)
      (inner : Course confined part (notify id world (.resolving callSite.site.service)) later)
      (ends : ending.ends? = some callSite.site.service) :
      Course confined part world (notify id later ending)
  | invoke {world later : World} {scope : ScopeId} (opened : (world.scope scope).state = .open)
      (own : confined = true → world.handed? = some scope)
      (inner : Course confined (.graph scope) world later) : Course confined .code world later
  /-- An instance is made for its owner; a singleton only if the root is open. -/
  | construct {world later : World} {scope owner : ScopeId} {id : EngineId} {site : Site}
      (owned : world.ownerFor site.location scope = owner)
      (rooted : site.location = .root → (world.scope owner).state = .open)
      (inner : Course confined (.making id site owner)
        ((world.enter id site owner).reserve site owner) later) :
      Course confined (.graph scope) world (later.leave id site.key)
  | children {world later : World} {id : EngineId} {site : Site} {owner : ScopeId}
      (inner : Course confined (.graph owner) world later) :
      Course confined (.making id site owner) world later
  | body {world later : World} {id : EngineId} {site : Site} {owner : ScopeId}
      (inner : Course confined .code world later) : Course confined (.making id site owner) world later
  /-- A scope is drained, what it held is disposed, and observers are told that it is closed. -/
  | dispose {world later : World} {scope : ScopeId} {disposed : Nat} (free : confined = false)
      (opened : (world.scope scope).state = .open)
      (inner : Course confined .code (world.drain scope) later) :
      Course confined .code world
        (notify (later.scope scope).engine (later.close scope)
          (.scopeDisposed (later.isRoot scope) disposed))

variable {confined : Bool} {part : Part} {world later : World}

theorem stack_notify (id : EngineId) (world : World) (notice : Notice) :
    (notify id world notice).stack = world.stack := by
  obtain ⟨events, metrics, told, _⟩ := notify_eq id world notice
  rw [told]

theorem stack_withEngine (id : EngineId) (engine : Engine) :
    (world.withEngine id engine).stack = world.stack :=
  (Aside.withEngine world id engine).stack

theorem Tick.stack (tick : Tick confined part world later) : later.stack = world.stack := by
  cases tick with
  | note _ | keepBooks _ _ _ | spawn _ _ => rfl
  | ask id _ => exact stack_withEngine id _
  | complete value => simp
  | entrust disposable value => simp

theorem Course.stack (course : Course confined part world later) : later.stack = world.stack := by
  induction course with
  | rest => rfl
  | next _ _ one two => exact two.trans one
  | tick tick => exact tick.stack
  | observe _ _ _ ih => rw [stack_notify, ih, stack_notify]
  | invoke _ _ _ ih | children _ ih | body _ ih => exact ih
  | construct _ _ _ ih =>
    rw [stack_leave, ih, stack_reserve, stack_enter, List.dropLast_concat]
  | dispose _ _ _ ih =>
    rw [stack_notify]
    exact ih

theorem Sound.of_engines (sound : world.Sound) (same : later.engines = world.engines) :
    later.Sound := by
  intro id engine listed
  exact sound id engine (same ▸ listed)

theorem Sound.engine (sound : world.Sound) (id : EngineId) : (world.engine id).Sound := by
  cases listed : world.engines[id]? with
  | none =>
    rw [engine_of_none listed]
    exact Engine.sound_fresh {} {} []
  | some found =>
    rw [engine_of_some listed]
    exact sound id found listed

theorem Tick.sound (tick : Tick confined part world later) (sound : world.Sound) :
    later.Sound := by
  cases tick with
  | note _ | keepBooks _ _ _ | spawn _ _ => exact sound
  | ask id asked => exact sound.withEngine fun _ => (asked.evolves (sound.engine id)).1
  | complete value => exact sound.of_engines (by simp)
  | entrust disposable value => exact sound.of_engines (by simp)

theorem Course.sound (course : Course confined part world later) (sound : world.Sound) :
    later.Sound := by
  induction course with
  | rest => exact sound
  | next _ _ one two => exact two (one sound)
  | tick tick => exact tick.sound sound
  | observe _ _ _ ih =>
    exact (ih (sound.of_engines (engines_notify ..))).of_engines (engines_notify ..)
  | invoke _ _ _ ih | children _ ih | body _ ih => exact ih sound
  | construct _ _ _ ih => exact ih (sound.of_engines (by simp))
  | dispose _ _ _ ih => exact Sound.of_engines (ih sound) (engines_notify ..)

theorem Tick.extends (tick : Tick confined part world later) (sound : world.Sound)
    (id : EngineId) : (world.engine id).Extends (later.engine id) := by
  have settled : later.engines = world.engines → (world.engine id).Extends (later.engine id) := by
    intro same
    rw [engine, engine, same]
    exact .refl _
  cases tick with
  | note _ | keepBooks _ _ _ | spawn _ _ => exact .refl _
  | @ask _ _ other engine asked =>
    rw [engine_withEngine]
    split
    · rename_i here
      obtain ⟨_, grown⟩ := asked.evolves (sound.engine other)
      exact here.1 ▸ ⟨grown.blueprint, grown.options, grown.observers, grown.memo, grown.realizations⟩
    · exact .refl _
  | complete value => exact settled (by simp)
  | entrust disposable value => exact settled (by simp)

theorem Course.extends (course : Course confined part world later) (sound : world.Sound)
    (id : EngineId) : (world.engine id).Extends (later.engine id) := by
  have same : ∀ {one other : World}, other.engines = one.engines → other.engine id = one.engine id := by
    intro one other engines
    rw [engine, engine, engines]
  induction course with
  | rest => exact .refl _
  | next first _ one two => exact (one sound).trans (two (first.sound sound))
  | tick tick => exact tick.extends sound id
  | observe _ _ _ ih =>
    rw [same (engines_notify ..)]
    refine .trans ?_ (ih (sound.of_engines (engines_notify ..)))
    rw [same (engines_notify ..)]
    exact .refl _
  | invoke _ _ _ ih | children _ ih | body _ ih => exact ih sound
  | construct _ _ _ ih =>
    refine .trans ?_ (ih (sound.of_engines (by simp)))
    rw [same (engines_reserve ..)]
    exact .refl _
  | dispose _ _ _ ih =>
    rw [same (engines_notify ..)]
    exact ih sound

theorem Course.graph? (course : Course confined part world later) (sound : world.Sound)
    {id : EngineId} {realization : Nat} {callSite : CallSite}
    (graph : world.graph? id realization = some callSite) :
    later.graph? id realization = some callSite := by
  rw [World.graph?, ← List.getElem?_map] at graph ⊢
  exact getElem?_mono (course.extends sound id).realizations graph

theorem shapes_notify (id : EngineId) (world : World) (notice : Notice) :
    (notify id world notice).shapes = world.shapes := by
  obtain ⟨events, metrics, told, _⟩ := notify_eq id world notice
  rw [told]
  rfl

theorem shapes_withEngine (id : EngineId) (engine : Engine) :
    (world.withEngine id engine).shapes = world.shapes := by
  obtain ⟨events, metrics, sent, _⟩ := sent_eq id engine.outbox
    (world.updateEngine id fun _ => { engine with outbox := [] })
  rw [withEngine, sent]
  rfl

theorem Tick.shapes (tick : Tick confined part world later) : world.shapes <+: later.shapes := by
  cases tick with
  | note _ | keepBooks _ _ _ => exact List.prefix_rfl
  | spawn _ _ => exact (List.prefix_append world.scopes _).map Scope.shape
  | ask id _ => exact shapes_withEngine id _ ▸ List.prefix_rfl
  | complete value => simp
  | entrust disposable value => simp

theorem Course.shapes (course : Course confined part world later) :
    world.shapes <+: later.shapes := by
  induction course with
  | rest => exact List.prefix_rfl
  | next _ _ one two => exact one.trans two
  | tick tick => exact tick.shapes
  | observe _ _ _ ih =>
    rw [shapes_notify] at ih ⊢
    exact ih
  | invoke _ _ _ ih | children _ ih | body _ ih => exact ih
  | construct _ _ _ ih =>
    rw [shapes_reserve, shapes_enter] at ih
    exact ih
  | dispose _ _ _ ih =>
    rw [shapes_drain] at ih
    rwa [shapes_notify, shapes_close]

theorem journal_notify (id : EngineId) (world : World) (notice : Notice) :
    ∃ events, (notify id world notice).journal = events ++ world.journal ∧
      ∀ event ∈ events, event = .notified id notice := by
  obtain ⟨events, metrics, told, all⟩ := notify_eq id world notice
  exact ⟨events, by rw [told], all⟩

theorem Tick.journal (tick : Tick confined part world later) :
    ∃ events, later.journal = events ++ world.journal ∧ ∀ event ∈ events, event.frames = false := by
  cases tick with
  | @note _ _ event minor =>
    refine ⟨[event], rfl, fun other member => ?_⟩
    rw [List.mem_singleton.1 member]
    cases event <;> first | rfl | cases minor
  | keepBooks _ _ _ | spawn _ _ => exact ⟨[], rfl, by simp⟩
  | @ask _ _ id engine _ =>
    obtain ⟨events, metrics, sent, all⟩ := sent_eq id engine.outbox
      (world.updateEngine id fun _ => { engine with outbox := [] })
    refine ⟨events, by rw [withEngine, sent]; rfl, fun event member => ?_⟩
    obtain ⟨notice, rfl⟩ := all event member
    rfl
  | complete value => exact ⟨[_], journal_complete .., by simp [Event.frames]⟩
  | entrust disposable value => exact ⟨[_], journal_entrust .., by simp [Event.frames]⟩

/-- Nothing that happened is forgotten. -/
theorem Course.journal (course : Course confined part world later) :
    world.journal <:+ later.journal := by
  have told : ∀ {id : EngineId} {world : World} {notice : Notice},
      world.journal <:+ (notify id world notice).journal := by
    intro id world notice
    obtain ⟨events, journal, _⟩ := journal_notify id world notice
    rw [journal]
    exact List.suffix_append ..
  induction course with
  | rest => exact List.suffix_rfl
  | next _ _ one two => exact one.trans two
  | tick tick =>
    obtain ⟨events, journal, _⟩ := tick.journal
    rw [journal]
    exact List.suffix_append ..
  | observe _ _ _ ih => exact (told.trans ih).trans told
  | invoke _ _ _ ih | children _ ih | body _ ih => exact ih
  | construct _ _ _ ih =>
    rw [journal_reserve, journal_enter] at ih
    exact ((List.suffix_cons ..).trans ih).trans (List.suffix_cons ..)
  | @dispose _ later scope disposed _ _ _ ih =>
    have closed : later.journal <:+ (later.close scope).journal := List.suffix_cons ..
    exact (((List.suffix_cons ..).trans ih).trans closed).trans told

end World

end ServiceContainer
