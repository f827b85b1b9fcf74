import Mathlib.Data.List.Perm.Subperm
import ServiceContainer.Proofs.Disposal
import ServiceContainer.Proofs.Notices

/-! Disposal of one scope, from its beginning to its end. Cleanups run user code, which may ask for
the disposal again, but from the first of them on the scope is open no more. Main statement: a
disposal runs the cleanup of all that its mode handles, once each and the last made first, then
forgets what is cached and reports how many there were. -/
namespace ServiceContainer

def ScopeState.next? : ScopeState → Option ScopeState
  | .open => some .disposing
  | .disposing => some .disposed
  | .disposed => none

@[simp] theorem Tracked.handled_sync (tracked : Tracked) :
    tracked.handled .sync = !(tracked.disposable.mode == .async) := rfl

@[simp] theorem Tracked.handled_async (tracked : Tracked) : tracked.handled .async = true := rfl

/-- What a disposal of the items reports: synchronous disposal names the last made of those that it
has to skip. -/
def verdictOn (items : List Tracked) : DisposalMode → Except Failure Unit
  | .sync =>
    match (items.filter (·.disposable.mode == .async)).getLast? with
    | some skipped => .error (.asyncDisposalRequired skipped.disposable.service)
    | none => .ok ()
  | .async => .ok ()

theorem verdictOn_eq (items : List Tracked) (mode : DisposalMode) :
    verdictOn items mode = ((items.reverse.find? (!·.handled mode)).map
      (·.disposable.service)).elim (.ok ()) fun service => .error (.asyncDisposalRequired service) := by
  cases mode with
  | async =>
    have none : items.reverse.find? (!·.handled .async) = none := by simp
    rw [none]
    rfl
  | sync =>
    have met : items.reverse.find? (!·.handled .sync) =
        (items.filter (·.disposable.mode == .async)).getLast? := by
      rw [← List.head?_filter, List.filter_reverse, List.head?_reverse]
      simp
    rw [met, verdictOn]
    cases (items.filter (·.disposable.mode == .async)).getLast? <;> rfl

namespace World
variable {world later : World}

/-- Scopes are opened when they are created, and their states change to the next one only. -/
structure Ages (world later : World) : Prop where
  kept : ∀ scope < world.shapes.length, (later.scope scope).state = (world.scope scope).state ∨
    (world.scope scope).state.next? = some (later.scope scope).state
  fresh : ∀ scope < later.shapes.length, world.shapes.length ≤ scope →
    (later.scope scope).state = .open

theorem Step.ages (step : world.Step later) : world.Ages later := by
  -- Only a drained and a closed scope change their states, and only new ones are opened.
  have changed : later.shapes = world.shapes →
      (∀ scope, (later.scope scope).state = (world.scope scope).state ∨
        (world.scope scope).state.next? = some (later.scope scope).state) → world.Ages later := by
    intro shapes states
    refine ⟨fun scope _ => states scope, fun scope inside outside => ?_⟩
    rw [shapes] at inside
    omega
  cases step using Step.casesBooked with
  | unbooked _ unbooked =>
    exact ⟨fun scope inside => .inl (unbooked.kept scope inside).1,
      fun scope inside outside => (unbooked.fresh scope inside outside).1⟩
  | cleanUp _ => exact changed rfl fun _ => .inl rfl
  | entrust _ _ => exact changed (by simp) fun _ => .inl (by simp)
  | @refuse site owner disposable value _ _ =>
    exact changed (world.shapes_entrust site owner disposable value)
      fun scope => .inl (world.state_entrust site owner scope disposable value)
  | @drain drained opened =>
    refine changed (by simp) fun scope => ?_
    by_cases here : scope = drained
    · subst here
      rw [state_drain opened, opened]
      exact .inr rfl
    · rw [scope_drain_of_ne here]
      exact .inl rfl
  | @close closed disposing _ =>
    refine changed (by simp) fun scope => ?_
    by_cases here : scope = closed
    · subst here
      rw [state_close (by simp [disposing]), disposing]
      exact .inr rfl
    · exact .inl ((world.books_close closed scope).2 here)

/-- A scope that is no longer open is not opened again. -/
theorem Steps.closed (steps : world.Steps later) {scope : ScopeId}
    (inside : scope < world.shapes.length) (closed : (world.scope scope).state ≠ .open) :
    (later.scope scope).state ≠ .open := by
  induction steps with
  | refl => exact closed
  | @tail between last before step ih =>
    have present := Nat.lt_of_lt_of_le inside (Steps.extends before).shapes.length_le
    obtain same | next := step.ages.kept scope present
    · exact same ▸ ih
    · intro opened
      rw [opened] at next
      cases state : (between.scope scope).state <;> simp [state, ScopeState.next?] at next

/-- The scope's cleanups of one pass have run, each once and the last made first; the scope is open no
more, and has taken nothing over meanwhile. -/
structure Swept (world : World) (scope : ScopeId) (mode : DisposalMode) (later : World) : Prop where
  moves : (world.drain scope).Moves later
  closing : (later.scope scope).state = .disposing
  emptied : (later.scope scope).bag = []
  shape : (later.scope scope).shape = (world.scope scope).shape
  journal : ∃ events, later.journal = events ++ (world.drain scope).journal ∧
    (events.filterMap Event.disposed?).filter (· ∈ (world.scope scope).bag.map (·.ticket)) =
      ((world.scope scope).bag.filter (·.handled mode)).map (·.ticket)

end World

namespace Run
variable {handler : Handler} {world later : World} {mode : DisposalMode}

inductive Cleans (handler : Handler) : List Tracked → World → World → Prop where
  | done {world : World} : Cleans handler [] world world
  | next {tracked : Tracked} {rest : List Tracked} {world between last : World}
      (cleaned : cleanUp handler tracked world = some ((), between))
      (others : Cleans handler rest between last) : Cleans handler (tracked :: rest) world last

/-- The first of the items that the mode skips is named, and the others are counted. -/
theorem cleanUpAll_eq_some_iff {items : List Tracked} {result : Nat × Option String} :
    cleanUpAll handler mode items world = some (result, later) ↔
      Cleans handler (items.filter (·.handled mode)) world later ∧
        result = ((items.filter (·.handled mode)).length,
          (items.find? (!·.handled mode)).map (·.disposable.service)) := by
  induction items generalizing world result with
  | nil =>
    constructor
    · rintro ⟨⟩
      exact ⟨.done, rfl⟩
    · rintro ⟨⟨⟩, rfl⟩
      rfl
  | cons tracked rest ih =>
    rw [cleanUpAll]
    cases skips : (mode == .sync && tracked.disposable.mode == .async) with
    | true =>
      have skipped : tracked.handled mode = false := by simp [Tracked.handled, skips]
      rw [if_pos rfl, List.filter_cons_of_neg (by simp [skipped]),
        List.find?_cons_of_pos (by simp [skipped])]
      constructor
      · intro ran
        obtain ⟨_, _, cleaned, ended⟩ := Act.bind_eq_some.1 ran
        cases ended
        obtain ⟨cleans, same⟩ := ih.1 cleaned
        exact ⟨cleans, congrArg (·.1, some tracked.disposable.service) same⟩
      · rintro ⟨cleans, rfl⟩
        exact Act.bind_eq_some.2 ⟨_, later, ih.2 ⟨cleans, rfl⟩, rfl⟩
    | false =>
      have handled : tracked.handled mode = true := by simp [Tracked.handled, skips]
      rw [if_neg (by simp), List.filter_cons_of_pos handled,
        List.find?_cons_of_neg (by simp [handled])]
      constructor
      · intro ran
        obtain ⟨_, between, cleaned, ran⟩ := Act.bind_eq_some.1 ran
        obtain ⟨_, _, rested, ended⟩ := Act.bind_eq_some.1 ran
        cases ended
        obtain ⟨cleans, same⟩ := ih.1 rested
        exact ⟨.next cleaned cleans, by rw [same]; rfl⟩
      · rintro ⟨cleans, rfl⟩
        cases cleans with
        | @next _ _ _ between _ cleaned others =>
          exact Act.bind_eq_some.2 ⟨(), between, cleaned,
            Act.bind_eq_some.2 ⟨_, later, ih.2 ⟨others, rfl⟩, rfl⟩⟩

theorem run_dispose_closed {scope : ScopeId} (closed : (world.scope scope).state ≠ .open) :
    (dispose handler scope mode).run world = some (.ok (), world) := by
  change (if (world.scope scope).state == .open then _ else pure () : Run Unit).run world = _
  rw [if_neg (by simpa using closed)]
  rfl

theorem run_resolve_closed {scope : ScopeId} (closed : (world.scope scope).state ≠ .open)
    (service : ServiceType) :
    (resolve handler scope service).run world = some (.error .scopeDisposed, world) := by
  change ((ensureOpen scope).run world).bind _ = _
  rw [run_ensureOpen, if_neg closed]
  rfl

section Passes
variable (answers : ∀ request, Leads (handler request)) {items : List Tracked} {owner : ScopeId}
include answers

/-- Cleanups of some that a pass has yet to come to dispose of these, in their order, and of no other
of the pass. -/
theorem Cleans.disposes {chosen : Tracked → Bool} (formed : world.WellFormed)
    (pending : ∀ item ∈ items, world.Pending owner item.ticket)
    (distinct : (items.map (·.ticket)).Nodup)
    (cleans : Cleans handler (items.filter chosen) world later) :
    world.Spends ((items.filter chosen).map (·.ticket)) later ∧
      ∃ events, later.journal = events ++ world.journal ∧
        (events.filterMap Event.disposed?).filter (· ∈ items.map (·.ticket)) =
          ((items.filter chosen).map (·.ticket)).reverse := by
  have ran : cleanUpAll handler .async (items.filter chosen) world =
      some (((items.filter chosen).length, none), later) := by
    have none : (items.filter chosen).find? (!·.handled .async) = none := by simp
    rw [cleanUpAll_eq_some_iff, none]
    simpa using cleans
  have some : (items.filter chosen).Sublist items := List.filter_sublist
  obtain ⟨spends, events, journal, done⟩ := spends_cleanUpAll answers .async _ formed
    (fun item member => pending item (some.subset member)) ((some.map _).nodup distinct) ran
  refine ⟨spends, events, journal, ?_⟩
  have sub : ((items.filter chosen).map (·.ticket)).reverse.Sublist
      (events.filterMap Event.disposed?) := by
    have read := done.filterMap Event.disposed?
    simpa [List.filterMap_map, Function.comp_def, Event.disposed?, List.map_reverse] using read
  have once : (events.filterMap Event.disposed?).Nodup := by
    have all := (spends.steps.wellFormed formed).ledger.once
    rw [World.disposals, journal, List.filterMap_append] at all
    exact (List.nodup_append.1 all).1
  have others : ∀ ticket ∈ events.filterMap Event.disposed?, ticket ∈ items.map (·.ticket) →
      ticket ∈ ((items.filter chosen).map (·.ticket)).reverse := by
    intro ticket disposed member
    by_contra spared
    obtain ⟨item, listed, rfl⟩ := List.mem_map.1 member
    have waits := spends.pending owner _ (pending item listed) (by simpa using spared)
    apply waits.remaining
    rw [← World.mem_disposals, World.disposals, journal, List.filterMap_append]
    exact List.mem_append_left _ disposed
  have kept : ((items.filter chosen).map (·.ticket)).reverse.Sublist
      ((events.filterMap Event.disposed?).filter (· ∈ items.map (·.ticket))) := by
    have read := sub.filter (· ∈ items.map (·.ticket))
    rwa [List.filter_eq_self.2] at read
    intro ticket member
    exact decide_eq_true ((some.map _).subset (List.mem_reverse.1 member))
  refine (kept.eq_of_length_le (List.subperm_of_subset (once.filter _) ?_).length_le).symm
  intro ticket member
  obtain ⟨disposed, listed⟩ := List.mem_filter.1 member
  exact others ticket disposed (of_decide_eq_true listed)

theorem Cleans.swept {scope : ScopeId} (formed : world.WellFormed)
    (opened : (world.scope scope).state = .open)
    (cleans : Cleans handler ((world.scope scope).bag.filter (·.handled mode)).reverse
      (world.drain scope) later) : world.Swept scope mode later := by
  have drained : world.Step (world.drain scope) := .drain opened
  rw [← List.filter_reverse] at cleans
  obtain ⟨spends, events, journal, disposed⟩ := cleans.disposes answers (drained.wellFormed formed)
    (fun item held => formed.ledger.pending_drain opened (List.mem_reverse.1 held))
    (by
      rw [List.map_reverse, List.nodup_reverse]
      exact formed.ledger.nodup_bag)
  have closing := spends.disposing scope (World.state_drain opened)
  refine ⟨spends.moves, closing, ?_, ?_, events, journal, ?_⟩
  · rw [(spends.steps.wellFormed (drained.wellFormed formed)).ledger.bags, closing]
    rfl
  · have grown := spends.steps.extends.shapes
    rw [World.shapes_drain] at grown
    exact World.same_shape_of_grown grown (World.lt_of_state (by simp [opened]))
  · simpa [List.filter_reverse] using disposed

omit answers in
/-- A disposal comes to its end just when all its cleanups do. -/
theorem run_dispose_eq_some_iff {scope : ScopeId} (opened : (world.scope scope).state = .open)
    {result : Except Failure Unit} :
    (dispose handler scope mode).run world = some (result, later) ↔ ∃ ended,
      Cleans handler ((world.scope scope).bag.filter (·.handled mode)).reverse (world.drain scope)
        ended ∧
      result = verdictOn (world.scope scope).bag mode ∧
      later = World.notify (ended.scope scope).engine (ended.close scope) (.scopeDisposed
        (ended.isRoot scope) ((world.scope scope).bag.filter (·.handled mode)).length) := by
  rw [run_dispose mode opened, Option.map_eq_some_iff, verdictOn_eq]
  constructor
  · rintro ⟨⟨_, ended⟩, cleaned, same⟩
    obtain ⟨cleans, rfl⟩ := cleanUpAll_eq_some_iff.1 cleaned
    cases same
    rw [List.filter_reverse] at cleans
    exact ⟨ended, cleans, rfl, by rw [List.filter_reverse, List.length_reverse]⟩
  · rintro ⟨ended, cleans, rfl, rfl⟩
    rw [← List.filter_reverse] at cleans
    refine ⟨_, cleanUpAll_eq_some_iff.2 ⟨cleans, rfl⟩, ?_⟩
    rw [List.filter_reverse, List.length_reverse]

omit answers in
/-- What holds nothing asynchronous is disposed in one way. -/
theorem run_dispose_of_sync {scope : ScopeId} (opened : (world.scope scope).state = .open)
    (sync : ∀ item ∈ (world.scope scope).bag, item.disposable.mode = .sync) :
    (dispose handler scope .sync).run world = (dispose handler scope .async).run world := by
  have handled : (world.scope scope).bag.filter (·.handled .sync) =
      (world.scope scope).bag.filter (·.handled .async) :=
    List.filter_congr fun item held => by simp [sync item held]
  have none : (world.scope scope).bag.filter (·.disposable.mode == .async) = [] :=
    List.filter_eq_nil_iff.2 fun item held => by simp [sync item held]
  have verdict : verdictOn (world.scope scope).bag .sync = verdictOn (world.scope scope).bag .async := by
    simp only [verdictOn, none, List.getLast?_nil]
  refine Option.ext fun ⟨result, last⟩ => ?_
  rw [run_dispose_eq_some_iff opened, run_dispose_eq_some_iff opened, handled, verdict]

end Passes

end Run

namespace World
variable {world : World}

section Sample

/-- A service whose instances are to be disposed, each cleanup asking its scope once more to be disposed,
and for a service. -/
def reentrant (service : TypeInfo) (mode : DisposalMode) : Descriptor where
  service := .plain service
  lifetime := .transient
  implementation := .produced service.name fun scope => pure (.ok {
    value := .object ⟨service, none, service.name⟩
    disposable := some ⟨service.name, mode, do
      let _ ← Program.request (.dispose scope .async)
      let _ ← Program.request (.resolve scope (.plain service))⟩ })

def reentering : Blueprint where
  registry := ⟨[reentrant kept .sync, reentrant closer .async, reentrant user .async]⟩

def reenters (world : World) : Bool :=
  decide ((world.scope 1).state = .open) && world.isRoot 1 == false &&
    (world.scope 1).bag.map (·.ticket) == [0, 1, 2, 3] &&
    ((world.scope 1).bag.filter (·.handled .sync)).map (·.ticket) == [0, 3] &&
    (match verdictOn (world.scope 1).bag .sync with
      | .error (.asyncDisposalRequired service) => service == user.name
      | _ => false) &&
    (Container.perform 3 (.dispose 1 .sync) world).isSome

end Sample

/-- At any time of any run, states of scopes change to the next one only, and a scope that is not open
is disposed by doing nothing. The disposal of an open scope comes to an end just when the cleanups
of all that it handles do, run one after another, the last made first; it names the last made of
what it skipped, forgets what was cached, and reports how many it disposed of. From its first
cleanup on, the scope refuses requests and disposes of nothing more. If nothing is disposed
asynchronously, both ways to dispose of the scope are the same. -/
theorem Reachable.disposal_complete {before : World} (reached : before.Reachable)
    (moves : before.Moves world) :
    (∀ later, world.Step later → world.Ages later) ∧
    (∀ between, world.Steps between → ∀ fuel request reply later,
      Container.perform fuel request between = some (reply, later) → between.Steps later) ∧
    (∀ scope, (world.scope scope).state ≠ .open → ∀ fuel mode,
      Container.perform (fuel + 1) (.dispose scope mode) world = some (.ok (), world)) ∧
    ∀ scope, (world.scope scope).state = .open → ∀ fuel,
      (∀ mode result last,
        Container.perform (fuel + 1) (.dispose scope mode) world = some (result, last) ↔
          ∃ ended, Run.Cleans (Container.perform fuel)
              ((world.scope scope).bag.filter (·.handled mode)).reverse (world.drain scope) ended ∧
            world.Swept scope mode ended ∧
            result = verdictOn (world.scope scope).bag mode ∧
            last = World.notify (world.scope scope).engine (ended.close scope) (.scopeDisposed
              (world.isRoot scope) ((world.scope scope).bag.filter (·.handled mode)).length) ∧
            last.scope scope =
              { world.scope scope with state := .disposed, cache := {}, bag := [] }) ∧
      (∀ between, (world.drain scope).Steps between →
        (∀ fuel mode,
          Container.perform (fuel + 1) (.dispose scope mode) between = some (.ok (), between)) ∧
        ∀ fuel service, Container.perform (fuel + 1) (.resolve scope service) between =
          some (.error .scopeDisposed, between)) ∧
      ((∀ item ∈ (world.scope scope).bag, item.disposable.mode = .sync) →
        Container.perform (fuel + 1) (.dispose scope .sync) world =
          Container.perform (fuel + 1) (.dispose scope .async) world) := by
  have formed := moves.steps.wellFormed reached.wellFormed
  refine ⟨fun later step => step.ages, fun between steps fuel request reply later performed => ?_,
    fun scope closed fuel mode => Run.run_dispose_closed closed, fun scope opened fuel => ?_⟩
  · have within := steps.wellFormed formed
    exact (Container.leads_perform fuel request between within reply later performed).steps
  have inside : scope < world.shapes.length := lt_of_state (by simp [opened])
  refine ⟨fun mode result last => ?_, fun between steps => ?_, fun all => ?_⟩
  · refine (Run.run_dispose_eq_some_iff opened).trans (exists_congr fun ended => ?_)
    refine and_congr_right fun cleans => ?_
    have swept := cleans.swept (Container.leads_perform fuel) formed opened
    have engine : (ended.scope scope).engine = (world.scope scope).engine :=
      congrArg Prod.fst swept.shape
    have root : (ended.scope scope).root = (world.scope scope).root :=
      congrArg Prod.snd swept.shape
    have isRoot : ended.isRoot scope = world.isRoot scope := congrArg Option.isNone root
    rw [engine, isRoot]
    have final : (ended.close scope).scope scope =
        { world.scope scope with state := .disposed, cache := {}, bag := [] } := by
      refine (scope_updateScope_self _ (.of_state (by simp [swept.closing]))).trans ?_
      rw [swept.emptied, engine, root]
    constructor
    · rintro ⟨rfl, rfl⟩
      exact ⟨swept, rfl, rfl, (scope_of_scopes (scopes_notify ..) scope).trans final⟩
    · rintro ⟨_, rfl, rfl, _⟩
      exact ⟨rfl, rfl⟩
  · have closed := steps.closed (by rwa [shapes_drain]) (by simp [state_drain opened])
    exact ⟨fun fuel mode => Run.run_dispose_closed closed,
      fun fuel service => Run.run_resolve_closed closed service⟩
  · exact Run.run_dispose_of_sync opened all

/-- Synchronous disposal runs the first and the last of four cleanups, the last one first, and names the
latest of the others; each cleanup asks once more for the disposal of its scope. -/
theorem disposal_complete_reentrant :
    ∃ (world ended last : World), Container.serve 2 reentering {} []
        (resolving [kept, closer, user, kept]) {} = .ok (some ((), world)) ∧
      Container.perform 3 (.dispose 1 .sync) world =
        some (.error (.asyncDisposalRequired user.name), last) ∧
      (last.scope 1).state = .disposed ∧
      ∃ events, ended.journal = events ++ (world.drain 1).journal ∧
        last = World.notify (world.scope 1).engine (ended.close 1) (.scopeDisposed false 2) ∧
        (events.filterMap Event.disposed?).filter (· ∈ [0, 1, 2, 3]) = [0, 3] := by
  obtain ⟨world, served, shown⟩ := exists_of_served
    (Container.serve 2 reentering {} [] (resolving [kept, closer, user, kept]) {}) reenters
    (by decide +kernel)
  obtain ⟨shown, ran⟩ := Bool.and_eq_true_iff.1 shown
  obtain ⟨shown, named⟩ := Bool.and_eq_true_iff.1 shown
  obtain ⟨shown, handled⟩ := Bool.and_eq_true_iff.1 shown
  obtain ⟨shown, held⟩ := Bool.and_eq_true_iff.1 shown
  obtain ⟨state, child⟩ := Bool.and_eq_true_iff.1 shown
  obtain ⟨⟨result, last⟩, performed⟩ := Option.isSome_iff_exists.1 ran
  have reached := Container.reachable_of_serve (.start []) served
  obtain ⟨_, _, _, disposes⟩ := reached.disposal_complete .refl
  obtain ⟨ends, _⟩ := disposes 1 (of_decide_eq_true state) 2
  obtain ⟨ended, _, swept, rfl, told, final⟩ := (ends .sync result last).1 performed
  obtain ⟨events, journal, disposed⟩ := swept.journal
  have verdict : verdictOn (world.scope 1).bag .sync = .error (.asyncDisposalRequired user.name) := by
    split at named
    · rename_i same
      rw [same, eq_of_beq named]
    · cases named
  have count : ((world.scope 1).bag.filter (·.handled .sync)).length = 2 := by
    simpa using congrArg List.length (eq_of_beq handled)
  rw [verdict] at performed
  rw [count, eq_of_beq child] at told
  rw [eq_of_beq held, eq_of_beq handled] at disposed
  exact ⟨world, ended, last, served, performed, congrArg Scope.state final, events, journal, told,
    disposed⟩

end World
end ServiceContainer
