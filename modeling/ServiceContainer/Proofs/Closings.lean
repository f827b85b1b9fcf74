import ServiceContainer.Proofs.Execution.Course
import ServiceContainer.Proofs.Uniqueness

/-! Ends of scopes. Main statement: at any time of any run, the scopes whose disposal has ended are
those that are disposed, and it ended once for each of them. -/
namespace ServiceContainer

def Event.closed? : Event → Option ScopeId
  | .closed scope => some scope
  | _ => none

theorem Event.closed?_eq_some {event : Event} {scope : ScopeId} :
    event.closed? = some scope ↔ event = .closed scope := by
  cases event <;> simp [closed?]

theorem old_or_new {event : Event} {earlier events journal : List Event}
    (happened : event :: earlier <:+ events ++ journal) :
    event :: earlier <:+ journal ∨ event ∈ events ∧ ∃ since, earlier = since ++ journal := by
  induction events with
  | nil => exact .inl happened
  | cons first rest ih =>
    obtain same | inside := List.suffix_cons_iff.1 happened
    · obtain ⟨rfl, rfl⟩ := List.cons.inj same
      exact .inr ⟨List.mem_cons_self, rest, rfl⟩
    · exact (ih inside).imp_right fun new => ⟨List.mem_cons_of_mem _ new.1, new.2⟩

namespace World
variable {world later : World}

def closings (world : World) : List ScopeId := (world.journal.filterMap Event.closed?).reverse

theorem mem_closings {scope : ScopeId} : scope ∈ world.closings ↔ .closed scope ∈ world.journal := by
  simp [closings, List.mem_filterMap, Event.closed?_eq_some]

theorem closings_of_journal (events : List Event) (journal : later.journal = events ++ world.journal)
    (silent : ∀ event ∈ events, event.closed? = none) : later.closings = world.closings := by
  rw [closings, closings, reads_journal journal silent]

theorem closings_close (world : World) (scope : ScopeId) :
    (world.close scope).closings = world.closings ++ [scope] := by
  change (scope :: world.journal.filterMap Event.closed?).reverse = _
  rw [List.reverse_cons]
  rfl

structure Closes (world : World) : Prop where
  once : world.closings.Nodup
  closed : ∀ scope, scope ∈ world.closings ↔
    scope < world.shapes.length ∧ (world.scope scope).state = .disposed

structure Spares (world later : World) : Prop where
  closings : later.closings = world.closings
  length : world.shapes.length ≤ later.shapes.length
  kept : ∀ scope < world.shapes.length,
    (later.scope scope).state = .disposed ↔ (world.scope scope).state = .disposed
  fresh : ∀ scope < later.shapes.length, world.shapes.length ≤ scope →
    (later.scope scope).state ≠ .disposed

theorem Step.spares (step : world.Step later) :
    world.Spares later ∨
      ∃ scope, (world.scope scope).state = .disposing ∧ later = world.close scope := by
  have silent : later.closings = world.closings ∨
      ∃ scope, (world.scope scope).state = .disposing ∧ later = world.close scope := by
    cases step using Step.casesAside with
    | aside _ aside =>
      obtain ⟨events, journal, idle⟩ := aside.journal
      refine .inl (closings_of_journal events journal fun event member => ?_)
      have quiet := idle event member
      cases event <;> first | rfl | cases quiet
    | close disposing _ => exact .inr ⟨_, disposing, rfl⟩
    | enter _ _ _ _ _ =>
      exact .inl (closings_of_journal [_] (journal_begin ..) (by simp [Event.closed?]))
    | complete _ =>
      exact .inl (closings_of_journal [_, _] (journal_finish ..) (by simp [Event.closed?]))
    | leave _ | handOut _ =>
      exact .inl (closings_of_journal [_] rfl (by simp [Event.closed?]))
  refine silent.imp_left fun same => ?_
  have settled : later.shapes = world.shapes →
      (∀ scope, (later.scope scope).state = .disposed ↔ (world.scope scope).state = .disposed) →
      world.Spares later := by
    intro shapes states
    refine ⟨same, by rw [shapes], fun scope _ => states scope, fun scope inside outside => ?_⟩
    rw [shapes] at inside
    omega
  cases step using Step.casesBooked with
  | unbooked _ unbooked =>
    refine ⟨same, unbooked.length, fun scope inside => by rw [(unbooked.kept scope inside).1],
      fun scope inside outside => ?_⟩
    rw [(unbooked.fresh scope inside outside).1]
    exact ScopeState.noConfusion
  | cleanUp _ => exact settled rfl fun _ => Iff.rfl
  | entrust _ _ => exact settled (by simp) (by simp)
  | @refuse site owner disposable value _ _ =>
    refine settled (world.shapes_entrust site owner disposable value) fun scope => ?_
    exact iff_of_eq (congrArg (· = _) (world.state_entrust site owner scope disposable value))
  | @drain drained opened =>
    refine settled (by simp) fun scope => ?_
    by_cases here : scope = drained
    · subst here
      rw [state_drain opened, opened]
      exact iff_of_false ScopeState.noConfusion ScopeState.noConfusion
    · rw [scope_drain_of_ne here]
  | close _ _ =>
    rw [closings_close] at same
    simp at same

theorem Step.closes (closes : world.Closes) (step : world.Step later) : later.Closes := by
  obtain ⟨same, longer, kept, fresh⟩ | ⟨scope, disposing, rfl⟩ := step.spares
  · refine ⟨same ▸ closes.once, fun scope => ?_⟩
    rw [same, closes.closed]
    by_cases inside : scope < world.shapes.length
    · rw [kept scope inside]
      simp [inside, Nat.lt_of_lt_of_le inside longer]
    · refine iff_of_false (fun both => inside both.1) fun both => ?_
      exact fresh scope both.1 (Nat.not_lt.1 inside) both.2
  · have hosted : world.Hosts scope (world.scope scope).engine := .of_state (by simp [disposing])
    have inside : scope < world.shapes.length := lt_of_state (by simp [disposing])
    have fresh : scope ∉ world.closings := by
      rw [closes.closed]
      simp [disposing]
    refine ⟨?_, fun other => ?_⟩
    · rw [closings_close, List.nodup_append]
      refine ⟨closes.once, List.nodup_singleton scope, fun other listed last new => ?_⟩
      rw [List.mem_singleton.1 new]
      rintro rfl
      exact fresh listed
    · rw [closings_close, List.mem_append, closes.closed, List.mem_singleton, shapes_close]
      by_cases here : other = scope
      · subst here
        have state : ((world.close other).scope other).state = .disposed :=
          congrArg Scope.state (scope_updateScope_self _ hosted)
        simp [state, inside]
      · have same : (world.close scope).scope other = world.scope other :=
          scope_updateScope_of_ne world _ here
        simp [same, here]

theorem Steps.closes (closes : world.Closes) (steps : world.Steps later) : later.Closes := by
  induction steps with
  | refl => exact closes
  | tail _ step ih => exact step.closes ih

theorem closes_start (metrics : List Metrics) : Closes { metrics } where
  once := List.nodup_nil
  closed scope := by simp [World.closings, shapes]

theorem Reachable.closes (reached : world.Reachable) : world.Closes := by
  obtain ⟨metrics, steps, _⟩ := reached.steps
  exact steps.closes (closes_start metrics)

def leaving (services : List TypeInfo) : EngineId → ScopeId → Program Unit := fun id root => do
  resolving services id root
  let _ ← Program.request (.dispose (root + 1) .sync)
  let _ ← Program.request (.dispose (root + 1) .async)

section Courses
variable {confined : Bool} {part : Part} {scope : ScopeId}

theorem state_of_outside (outside : ¬scope < world.shapes.length) :
    (world.scope scope).state = .disposed := by
  by_contra present
  exact outside (lt_of_state present)

theorem state_close_self (world : World) (scope : ScopeId) :
    ((world.close scope).scope scope).state = .disposed := by
  by_cases inside : scope < world.shapes.length
  · have listed : scope < world.scopes.length := by simpa [shapes] using inside
    exact congrArg Scope.state
      (scope_updateScope_self _ (.of_listed (List.getElem?_eq_getElem listed)))
  · exact state_of_outside (by rwa [shapes_close])

theorem state_addScope (world : World) (engine : EngineId) (root : Option ScopeId)
    (scope : ScopeId) :
    ((world.addScope engine root).2.scope scope).state = (world.scope scope).state ∨
      world.shapes.length ≤ scope ∧ ((world.addScope engine root).2.scope scope).state = .open := by
  have unbooked := Unbooked.addScope world engine root
  by_cases before : scope < world.shapes.length
  · exact .inl (unbooked.kept scope before).1
  · by_cases inside : scope < (world.addScope engine root).2.shapes.length
    · have outside := Nat.not_lt.1 before
      exact .inr ⟨outside, (unbooked.fresh scope inside outside).1⟩
    · rw [state_of_outside before, state_of_outside inside]
      exact .inl rfl

/-- What happens at once ends no scope; new scopes are open. -/
theorem Tick.state (tick : Tick confined part world later) (scope : ScopeId) :
    (later.scope scope).state = (world.scope scope).state ∨
      world.shapes.length ≤ scope ∧ (later.scope scope).state = .open := by
  have settled : later.scopes = world.scopes → (later.scope scope).state = (world.scope scope).state :=
    fun same => congrArg Scope.state (scope_of_scopes same scope)
  cases tick with
  | note _ | keepBooks _ _ _ => exact .inl rfl
  | ask id _ => exact .inl (settled (scopes_withEngine id _))
  | spawn _ _ => exact state_addScope world _ _ scope
  | complete value => exact .inl (state_keep ..)
  | entrust disposable value => exact .inl (state_entrust ..)

/-- A scope is being disposed at the end of a run only if it was at the beginning. -/
theorem Course.settled (course : Course confined part world later)
    (disposing : (later.scope scope).state = .disposing) :
    (world.scope scope).state = .disposing := by
  induction course with
  | rest => exact disposing
  | next _ _ one two => exact one (two disposing)
  | tick tick =>
    obtain same | ⟨_, opened⟩ := tick.state scope
    · exact same ▸ disposing
    · cases disposing.symm.trans opened
  | observe _ _ _ ih =>
    rw [scope_of_scopes (scopes_notify ..)] at ih disposing
    exact ih disposing
  | invoke _ _ _ ih | children _ ih | body _ ih => exact ih disposing
  | @construct world later _ _ id site owned rooted inner ih =>
    have begun := ih disposing
    rwa [(books_reserve ..).1] at begun
  | @dispose world later ended disposed _ _ inner ih =>
    rw [scope_of_scopes (scopes_notify ..)] at disposing
    have apart : scope ≠ ended := by
      rintro rfl
      cases disposing.symm.trans (state_close_self later scope)
    have inside := ih ((congrArg Scope.state (scope_updateScope_of_ne later _ apart)).symm.trans
      disposing)
    rwa [scope_drain_of_ne apart] at inside

/-- What is over is over: scopes whose disposal ended are disposed. -/
def Over (world : World) : Prop :=
  ∀ scope ∈ world.closings, scope < world.shapes.length ∧ (world.scope scope).state = .disposed

theorem Over.keep (past : world.Over) (closings : later.closings = world.closings)
    (shapes : world.shapes <+: later.shapes)
    (states : ∀ scope < world.shapes.length,
      (world.scope scope).state = .disposed → (later.scope scope).state = .disposed) :
    later.Over := by
  intro scope listed
  obtain ⟨inside, disposed⟩ := past scope (closings ▸ listed)
  exact ⟨Nat.lt_of_lt_of_le inside shapes.length_le, states scope inside disposed⟩

theorem Tick.over (tick : Tick confined part world later) (past : world.Over) : later.Over := by
  obtain ⟨events, journal, still⟩ := tick.journal
  have open_ : ∀ event ∈ events, event.closed? = none := by
    intro event member
    have plain := still event member
    cases event <;> first | rfl | cases plain
  refine past.keep (closings_of_journal events journal open_) tick.shapes
    fun scope inside disposed => ?_
  obtain same | ⟨outside, _⟩ := tick.state scope
  · exact same ▸ disposed
  · exact absurd inside (Nat.not_lt.2 outside)

theorem Over.notify (past : world.Over) (id : EngineId) (notice : Notice) :
    (World.notify id world notice).Over := by
  obtain ⟨events, journal, all⟩ := journal_notify id world notice
  refine past.keep (closings_of_journal events journal fun event member => ?_)
    (shapes_notify id world notice ▸ List.prefix_rfl) fun scope _ disposed => ?_
  · rw [all event member]
    rfl
  · rwa [scope_of_scopes (scopes_notify ..)]

theorem Over.enter (past : world.Over) (id : EngineId) (site : Site) (owner : ScopeId) :
    ((world.enter id site owner).reserve site owner).Over := by
  refine past.keep (closings_of_journal [_]
    ((journal_reserve ..).trans (journal_enter ..)) (by simp [Event.closed?])) (by simp)
      fun scope _ disposed => ?_
  rwa [(books_reserve ..).1]

theorem Over.leave (past : world.Over) (id : EngineId) (key : CacheKey) : (world.leave id key).Over :=
  past.keep (closings_of_journal [_] (journal_leave ..) (by simp [Event.closed?]))
    List.prefix_rfl fun _ _ disposed => disposed

theorem Over.drain (past : world.Over) (opened : (world.scope scope).state = .open) :
    (world.drain scope).Over := by
  refine past.keep (closings_of_journal [_] rfl (by simp [Event.closed?])) (by simp)
    fun other _ disposed => ?_
  have apart : other ≠ scope := by
    rintro rfl
    cases opened.symm.trans disposed
  rwa [scope_drain_of_ne apart]

theorem Over.close (past : world.Over) (inside : scope < world.shapes.length) :
    (world.close scope).Over := by
  intro other listed
  rw [closings_close, List.mem_append, List.mem_singleton] at listed
  rw [shapes_close]
  by_cases here : other = scope
  · subst here
    exact ⟨inside, state_close_self world other⟩
  · obtain ⟨inside, disposed⟩ := past other (listed.resolve_right here)
    exact ⟨inside, (congrArg Scope.state (scope_updateScope_of_ne world _ here)).trans disposed⟩

theorem Course.over (course : Course confined part world later) (past : world.Over) :
    later.Over := by
  induction course with
  | rest => exact past
  | next _ _ one two => exact two (one past)
  | tick tick => exact tick.over past
  | observe _ _ _ ih => exact (ih (past.notify _ _)).notify _ _
  | invoke _ _ _ ih | children _ ih | body _ ih => exact ih past
  | construct _ _ _ ih => exact (ih (past.enter _ _ _)).leave _ _
  | @dispose world later scope _ _ opened inner ih =>
    have longer := inner.shapes.length_le
    rw [shapes_drain] at longer
    have inside : scope < world.shapes.length := lt_of_state (by simp [opened])
    exact ((ih (past.drain opened)).close (Nat.lt_of_lt_of_le inside longer)).notify _ _

end Courses

end World
end ServiceContainer
