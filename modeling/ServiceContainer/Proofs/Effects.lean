import ServiceContainer.Proofs.Caches

/-! What a step does. Few steps have to do with cache entries: those by which a construction begins
or ends, an instance is handed out, or a scope is closed. Main statement: what each step can add to
the journal and to the stack. -/
namespace ServiceContainer
namespace World

structure Aside (world later : World) : Prop where
  stack : later.stack = world.stack
  cached : ∀ cell, later.cached cell = world.cached cell
  /-- At most, open scopes begin to be disposed. -/
  states : ∀ scope engine, world.Hosts scope engine → (world.scope scope).state ≠ .open →
    (later.scope scope).state = (world.scope scope).state
  journal : ∃ events, later.journal = events ++ world.journal ∧ ∀ event ∈ events, event.idle = true

namespace Aside
variable {world later : World} {cell : Frame}

theorem history (aside : world.Aside later) :
    cell.history later.journal = cell.history world.journal := by
  obtain ⟨events, same, idle⟩ := aside.journal
  rw [same]
  clear same
  induction events with
  | nil => rfl
  | cons event rest ih =>
    rw [List.cons_append, Frame.history_idle cell _ (idle event List.mem_cons_self)]
    exact ih fun other member => idle other (List.mem_cons_of_mem _ member)

theorem reads (aside : world.Aside later) {read : Event → Option Value}
    (silent : ∀ event, event.idle = true → read event = none) :
    later.journal.filterMap read = world.journal.filterMap read := by
  obtain ⟨events, same, idle⟩ := aside.journal
  exact reads_journal same fun event member => silent event (idle event member)

theorem made (aside : world.Aside later) (among : Frame → Bool) :
    later.made among = world.made among :=
  aside.reads fun event idle => by cases event <;> first | rfl | cases idle

theorem handed (aside : world.Aside later) (among : Frame → Bool) :
    later.handed among = world.handed among :=
  aside.reads fun event idle => by cases event <;> first | rfl | cases idle

theorem of_scopes (scopes : later.scopes = world.scopes) (stack : later.stack = world.stack)
    {events : List Event} (journal : later.journal = events ++ world.journal)
    (idle : ∀ event ∈ events, event.idle = true) : world.Aside later := by
  have same : ∀ scope, later.scope scope = world.scope scope := by
    intro scope
    rw [World.scope, World.scope, scopes]
  refine ⟨stack, fun cell => ?_, fun scope _ _ _ => ?_, events, journal, idle⟩
  · rw [World.cached, World.cached, same]
  · rw [same]

theorem record (world : World) {event : Event} (idle : event.idle = true) :
    world.Aside (world.record event) := by
  refine .of_scopes rfl rfl List.singleton_append.symm fun other member => ?_
  rw [List.mem_singleton.1 member, idle]

theorem notify (id : EngineId) (world : World) (notice : Notice) :
    world.Aside (notify id world notice) := by
  obtain ⟨events, metrics, told, notified⟩ := notify_eq id world notice
  rw [told]
  refine .of_scopes rfl rfl rfl fun event member => ?_
  rw [notified event member]
  rfl

theorem withEngine (world : World) (id : EngineId) (engine : Engine) :
    world.Aside (world.withEngine id engine) := by
  obtain ⟨events, metrics, sent, notified⟩ := sent_eq id engine.outbox
    (world.updateEngine id fun _ => { engine with outbox := [] })
  rw [World.withEngine, sent]
  refine .of_scopes rfl rfl rfl fun event member => ?_
  obtain ⟨notice, rfl⟩ := notified event member
  rfl

theorem addScope (world : World) (engine : EngineId) (root : Option ScopeId) :
    world.Aside (world.addScope engine root).2 := by
  refine ⟨rfl, fun cell => cached_addScope world engine root, fun scope owner hosted _ => ?_,
    [], rfl, by simp⟩
  have listed : (world.addScope engine root).2.scopes[scope]? = some (world.scope scope) :=
    getElem?_mono (List.prefix_append ..) hosted.listed.1
  rw [scope_of_some listed]

theorem entrust (world : World) (site : Site) (owner : ScopeId) (disposable : Disposable)
    (value : Value) : world.Aside (world.entrust site owner disposable value) where
  stack := by simp
  cached cell := by
    simp only [World.entrust]
    split
    · exact cached_updateScope { world with nextTicket := world.nextTicket + 1 } owner
        fun _ => ⟨rfl, rfl⟩
    · rfl
  states scope _ _ _ := by simp
  journal := ⟨[_], (world.journal_entrust site owner disposable value).trans
    List.singleton_append.symm, by simp [Event.idle]⟩

theorem refuse (world : World) (site : Site) (owner : ScopeId) (disposable : Disposable)
    (value : Value) : world.Aside (world.refuse site owner disposable value) := by
  obtain ⟨stack, cached, states, events, journal, idle⟩ := entrust world site owner disposable value
  refine ⟨stack, cached, states, .disposed world.nextTicket :: events, ?_, ?_⟩
  · rw [World.refuse, journal_record, journal, List.cons_append]
  · simpa [Event.idle] using idle

theorem drain {world : World} {scope : ScopeId} (opened : (world.scope scope).state = .open) :
    world.Aside (world.drain scope) := by
  refine ⟨rfl, fun cell => cached_updateScope world _ fun _ => ⟨rfl, rfl⟩,
    fun other _ _ closed => ?_, [_], rfl, by simp [Event.idle]⟩
  have apart : other ≠ scope := by
    rintro rfl
    exact closed opened
  exact congrArg Scope.state (scope_updateScope_of_ne world _ apart)

end Aside

/-- Steps by what they have to do with entries. -/
@[elab_as_elim]
theorem Step.casesAside {world : World} {motive : (later : World) → world.Step later → Prop}
    (aside : ∀ {later : World} (step : world.Step later), world.Aside later → motive later step)
    (close : ∀ {scope : ScopeId} (disposing : (world.scope scope).state = .disposing)
      (done : ∀ maker tracked value, .entrusted maker tracked value true ∈ world.journal →
        maker.owner = scope → tracked.disposable.mode = .sync →
          .disposed tracked.ticket ∈ world.journal),
      motive (world.close scope) (.close disposing done))
    (enter : ∀ {callSite : CallSite} {owner : ScopeId} (offered : world.Offers owner callSite)
      (constructs : callSite.kind.constructs = true)
      (apart : ∀ frame ∈ world.stack,
        frame.makes (world.scope owner).engine callSite.site.key = false)
      (missing : callSite.site.location ≠ .nowhere →
        ∀ value, world.cached (world.frame callSite.site owner) ≠ some (some value))
      (rooted : callSite.site.location = .root →
        world.IsRootOf owner (world.scope owner).engine ∧ (world.scope owner).state = .open),
      motive _ (.enter offered constructs apart missing rooted))
    (complete : ∀ {site : Site} {owner : ScopeId} {value : Value}
      (making : world.Making site owner),
      motive (world.finish site owner value) (.complete making))
    (leave : ∀ {outer : List Frame} {frame : Frame} (innermost : world.stack = outer ++ [frame]),
      motive _ (.leave innermost))
    (handOut : ∀ {site : Site} {owner : ScopeId} {value : Value}
      (had : value ∈ world.made (· == world.frame site owner) ∨
        world.cached (world.frame site owner) = some (some value)), motive _ (.obtain had))
    {later : World} (step : world.Step later) : motive later step := by
  cases step with
  | say line => exact aside _ (.record world rfl)
  | cleanUp pending => exact aside _ (.record world rfl)
  | notify id notice => exact aside _ (.notify id world notice)
  | engine id _ _ => exact aside _ (.withEngine world id _)
  | @build engine _ =>
    have added := Aside.addScope { world with engines := world.engines ++ [engine] }
      world.engines.length none
    exact aside _ ⟨added.stack, added.cached, added.states, added.journal⟩
  | spawn _ => exact aside _ (.addScope world _ _)
  | keepBooks _ _ _ => exact aside _ (.of_scopes rfl rfl (List.nil_append _).symm (by simp))
  | entrust _ _ => exact aside _ (.entrust world _ _ _ _)
  | refuse _ _ => exact aside _ (.refuse world _ _ _ _)
  | drain opened => exact aside _ (.drain opened)
  | close disposing done => exact close disposing done
  | enter offered constructs apart missing rooted =>
    exact enter offered constructs apart missing rooted
  | complete making => exact complete making
  | leave innermost => exact leave innermost
  | obtain had => exact handOut had

section Steps
variable {world later : World}

/-- What a step may record, other than what has nothing to do with entries: each event is due to
what had been checked before. -/
inductive Due (world later : World) : Event → Prop where
  | entered {callSite : CallSite} {owner : ScopeId} (offered : world.Offers owner callSite)
      (constructs : callSite.kind.constructs = true)
      (rooted : callSite.site.location = .root →
        world.IsRootOf owner (world.scope owner).engine) :
      Due world later (.entered (world.scope owner).engine callSite.site.key callSite.site.location
        owner)
  | completed {engine : EngineId} {key : CacheKey} {location : CacheLocation} {owner : ScopeId}
      {value : Value} (begun : .entered engine key location owner ∈ world.journal) :
      Due world later (.completed engine key owner value)
  | obtained {engine : EngineId} {key : CacheKey} {owner : ScopeId} {value : Value} :
      Due world later (.obtained engine key owner value)
  | closed {scope : ScopeId} (hosted : world.Hosts scope (world.scope scope).engine)
      (disposed : (later.scope scope).state = .disposed) : Due world later (.closed scope)

theorem Step.due (step : world.Step later) {event : Event} (member : event ∈ later.journal) :
    event ∈ world.journal ∨ event.idle = true ∨ world.Due later event := by
  cases step using Step.casesAside with
  | aside _ aside =>
    obtain ⟨events, same, idle⟩ := aside.journal
    rw [same] at member
    obtain new | old := List.mem_append.1 member
    · exact .inr (.inl (idle event new))
    · exact .inl old
  | @close scope disposing _ =>
    obtain rfl | old := List.mem_cons.1 member
    · have hosted : world.Hosts scope (world.scope scope).engine := .of_state (by simp [disposing])
      exact .inr (.inr (.closed hosted (congrArg Scope.state (scope_updateScope_self _ hosted))))
    · exact .inl old
  | @enter callSite owner offered constructs _ _ rooted =>
    rw [journal_begin] at member
    obtain rfl | old := List.mem_cons.1 member
    · exact .inr (.inr (.entered offered constructs fun top => (rooted top).1))
    · exact .inl old
  | complete making =>
    rw [journal_finish] at member
    obtain rfl | member := List.mem_cons.1 member
    · exact .inr (.inl rfl)
    · obtain rfl | old := List.mem_cons.1 member
      · exact .inr (.inr (.completed making.begun))
      · exact .inl old
  | leave _ =>
    obtain rfl | old := List.mem_cons.1 member
    · exact .inr (.inl rfl)
    · exact .inl old
  | handOut _ =>
    obtain rfl | old := List.mem_cons.1 member
    · exact .inr (.inr .obtained)
    · exact .inl old

/-- A step leaves the stack alone, or puts one construction on it, or takes the innermost off. -/
theorem Step.stack (step : world.Step later) :
    later.stack = world.stack ∨ later.stack = world.stack.dropLast ∨
      ∃ frame, later.stack = world.stack ++ [frame] ∧
        ∀ outer ∈ world.stack, outer.makes frame.engine frame.key = false := by
  cases step using Step.casesAside with
  | aside _ aside => exact .inl aside.stack
  | close _ _ | handOut _ => exact .inl rfl
  | @enter callSite owner _ _ apart _ _ =>
    exact .inr (.inr ⟨world.frame callSite.site owner, by simp, apart⟩)
  | complete _ => exact .inr (.inl (by simp))
  | leave _ => exact .inr (.inl rfl)

theorem Step.disposed (step : world.Step later) {scope : ScopeId} {engine : EngineId}
    (hosted : world.Hosts scope engine) (disposed : (world.scope scope).state = .disposed) :
    (later.scope scope).state = .disposed := by
  cases step using Step.casesAside with
  | aside _ aside => exact (aside.states scope engine hosted (by simp [disposed])).trans disposed
  | @close other _ _ =>
    by_cases here : scope = other
    · subst here
      exact congrArg Scope.state (scope_updateScope_self _ hosted)
    · have same : (world.close other).scope scope = world.scope scope :=
        scope_updateScope_of_ne world _ here
      rw [same, disposed]
  | enter _ _ _ _ _ => exact (state_begin ..).trans disposed
  | complete _ => exact (state_finish ..).trans disposed
  | leave _ | handOut _ => exact disposed

end Steps
end World
end ServiceContainer
