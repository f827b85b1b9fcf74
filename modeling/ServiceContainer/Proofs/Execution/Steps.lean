import ServiceContainer.Proofs.Effects
import ServiceContainer.Proofs.Moves
import ServiceContainer.Proofs.Strategies

/-! Runs as moves of the world. Main statement: whatever a client asks for, and whatever user code
that runs meanwhile asks for, the world goes through moves, all constructions that were in progress
still are, scopes under disposal are still under disposal, and what they had still to dispose of is
left to them. -/
namespace ServiceContainer

namespace World

def blueprints (world : World) : List Blueprint := world.engines.map (·.blueprint)

/-- The world makes moves, of the same providers, and what is in progress remains so; no more than the
given tickets are taken from what is still to be disposed. -/
structure Spends (world : World) (spent : List Nat) (later : World) : Prop where
  moves : world.Moves later
  blueprints : later.blueprints = world.blueprints
  stack : later.stack = world.stack
  disposing : ∀ scope, (world.scope scope).state = .disposing →
    (later.scope scope).state = .disposing
  pending : ∀ owner ticket, world.Pending owner ticket → ticket ∉ spent →
    later.Pending owner ticket

abbrev Reaches (world later : World) : Prop := world.Spends [] later

theorem Spends.steps {world later : World} {spent : List Nat} (spends : world.Spends spent later) :
    world.Steps later :=
  spends.moves.steps

theorem Spends.trans {world later last : World} {first second : List Nat}
    (one : world.Spends first later) (two : later.Spends second last) :
    world.Spends (first ++ second) last where
  moves := one.moves.trans two.moves
  blueprints := two.blueprints.trans one.blueprints
  stack := two.stack.trans one.stack
  disposing scope state := two.disposing scope (one.disposing scope state)
  pending owner ticket pending kept := by
    rw [List.mem_append, not_or] at kept
    exact two.pending owner ticket (one.pending owner ticket pending kept.1) kept.2

theorem Spends.mono {world later : World} {spent more : List Nat}
    (spends : world.Spends spent later) (fewer : spent ⊆ more) : world.Spends more later where
  moves := spends.moves
  blueprints := spends.blueprints
  stack := spends.stack
  disposing := spends.disposing
  pending owner ticket pending kept :=
    spends.pending owner ticket pending fun listed => kept (fewer listed)

namespace Reaches
variable {world later last : World}

theorem refl (world : World) : world.Reaches world :=
  ⟨.refl, rfl, rfl, fun _ state => state, fun _ _ pending _ => pending⟩

theorem trans (first : world.Reaches later) (second : later.Reaches last) : world.Reaches last :=
  Spends.trans first second

theorem wellFormed (formed : world.WellFormed) (reaches : world.Reaches later) : later.WellFormed :=
  reaches.steps.wellFormed formed

theorem keeps (reaches : world.Reaches later) {owner : ScopeId} {ticket : Nat}
    (pending : world.Pending owner ticket) : later.Pending owner ticket :=
  reaches.pending owner ticket pending List.not_mem_nil

theorem of_move (move : world.Move later) (unbooked : world.Unbooked later)
    (blueprints : later.blueprints = world.blueprints) (stack : later.stack = world.stack) :
    world.Reaches later := by
  refine ⟨.single move, blueprints, stack, fun scope state => ?_,
    fun _ _ pending _ => unbooked.pending pending⟩
  exact (unbooked.kept scope (lt_of_state (by simp [state]))).1.trans state

/-- A step that has nothing to do with constructions, disposables or engines. -/
theorem of_unbooked (step : world.Step later) (unbooked : world.Unbooked later)
    (engines : later.engines = world.engines) (stack : later.stack = world.stack) :
    world.Reaches later :=
  .of_move (step.unbookedMove unbooked (engines ▸ List.prefix_rfl)) unbooked
    (congrArg (List.map Engine.blueprint) engines) stack

end Reaches

theorem Reaches.extends {world later : World} (reached : world.Reaches later) :
    world.Extends later :=
  reached.steps.extends

section Operations
variable (world : World)

theorem blueprints_withEngine (id : EngineId) {engine : Engine}
    (same : engine.blueprint = (world.engine id).blueprint) :
    (world.withEngine id engine).blueprints = world.blueprints := by
  rw [blueprints, withEngine, engines_sent, blueprints]
  refine List.ext_getElem? fun place => ?_
  simp only [updateEngine, List.getElem?_map, List.getElem?_modify]
  by_cases here : id = place
  · subst here
    cases listed : world.engines[id]? with
    | none => rfl
    | some found =>
      rw [engine_of_some listed] at same
      simp [same]
  · simp [here]

theorem reaches_notify (id : EngineId) (notice : Notice) :
    world.Reaches (notify id world notice) :=
  .of_unbooked (.notify id notice) (.notify id world notice) (engines_notify id world notice)
    (Aside.notify id world notice).stack

theorem reaches_withEngine (id : EngineId) {engine : Engine} (sound : engine.Sound)
    (grown : (world.engine id).Extends engine) (asked : (world.engine id).Asked engine) :
    world.Reaches (world.withEngine id engine) :=
  .of_move (.ask id sound grown asked) (.withEngine world id engine)
    (world.blueprints_withEngine id grown.blueprint) (Aside.withEngine world id engine).stack

theorem reaches_spawn {scope : ScopeId} {parent : Scope}
    (listed : world.scopes[scope]? = some parent) :
    world.Reaches (world.addScope parent.engine (some (parent.root.getD scope))).2 :=
  .of_unbooked (.spawn listed) (.addScope world _ _) rfl rfl

theorem reaches_keepBooks {factories : List InstanceFactory}
    (added : world.factories <+: factories) (nextSerial : Nat) (tallies : Table Nat Nat) :
    world.Reaches { world with factories, nextSerial, tallies } :=
  .of_unbooked (.keepBooks added ..) (.keepBooks ..) rfl rfl

end Operations

section Disposals
variable {world : World} {site : Site} {owner : ScopeId} {disposable : Disposable} {value : Value}

/-- What an owner that is no longer open was to dispose of asynchronously is lost. -/
theorem reaches_entrust (making : world.Making site owner)
    (closed : (world.scope owner).state ≠ .open) (lazy : disposable.mode = .async) :
    world.Reaches (world.entrust site owner disposable value) where
  moves := by
    have step : world.Step (world.entrust site owner disposable value) := .entrust making (.inr lazy)
    refine .single (.step [_] step (by simp) (world.journal_entrust site owner disposable value) ?_)
    simp [Event.accepts, closed]
  blueprints := by simp [blueprints]
  stack := by simp
  disposing scope state := by simpa using state
  pending other ticket pending _ := by
    refine pending.keep (by simpa using pending.disposing) (by simp) fun disposed => ?_
    rw [journal_entrust] at disposed
    exact (List.mem_cons.1 disposed).resolve_left (by simp)

/-- The ticket of what is refused is new, so it is in no pass. -/
theorem reaches_refuse (formed : world.WellFormed) (making : world.Making site owner)
    (closed : (world.scope owner).state ≠ .open) :
    world.Reaches (world.refuse site owner disposable value) where
  moves := by
    have step : world.Step (world.refuse site owner disposable value) := .refuse making closed
    have journal := congrArg (Event.disposed world.nextTicket :: ·)
      (world.journal_entrust site owner disposable value)
    refine .single (.step [_, _] step (by simp [refuse]) journal ?_)
    simp [Event.accepts, closed]
  blueprints := by simp [blueprints, refuse]
  stack := by simp [refuse]
  disposing scope state :=
    (world.state_entrust site owner scope disposable value).trans state
  pending other ticket pending _ := by
    obtain ⟨maker, tracked, made, entrusted, _, same⟩ := pending.entrusted formed.ledger.toBooks
    have old := formed.ledger.ticket_lt entrusted
    have state := world.state_entrust site owner other disposable value
    have step : world.Step (world.refuse site owner disposable value) := .refuse making closed
    refine pending.keep (state.trans pending.disposing) step.extends.journal fun disposed => ?_
    rw [refuse, journal_record, journal_entrust] at disposed
    obtain new | disposed := List.mem_cons.1 disposed
    · cases new
      exact absurd same (Nat.ne_of_lt old)
    · exact (List.mem_cons.1 disposed).resolve_left (by simp)

theorem move_cleanUp {ticket : Nat} (pending : world.Pending owner ticket) :
    world.Move (world.record (.disposed ticket)) :=
  .step [_] (.cleanUp pending) List.prefix_rfl rfl (by simp [Event.accepts])

theorem move_drain {scope : ScopeId} (opened : (world.scope scope).state = .open) :
    world.Move (world.drain scope) :=
  .step [_] (.drain opened) List.prefix_rfl rfl (by simp [Event.accepts])

theorem spends_disposed {ticket : Nat} (pending : world.Pending owner ticket) :
    world.Spends [ticket] (world.record (.disposed ticket)) where
  moves := .single (move_cleanUp pending)
  blueprints := rfl
  stack := rfl
  disposing _ state := state
  pending other number pending kept := by
    refine pending.keep pending.disposing (List.suffix_cons ..) fun disposed => ?_
    obtain new | old := List.mem_cons.1 disposed
    · cases new
      exact absurd List.mem_cons_self kept
    · exact old

/-- A scope is closed once all that it held is disposed, except for what is asynchronous. -/
theorem reaches_closed {scope : ScopeId} {later last : World} (formed : world.WellFormed)
    (opened : (world.scope scope).state = .open)
    (spent : (world.drain scope).Spends ((world.scope scope).bag.map (·.ticket)) later)
    (done : ∀ item ∈ (world.scope scope).bag, item.disposable.mode = .sync →
      .disposed item.ticket ∈ later.journal)
    (told : (later.close scope).Reaches last) : world.Reaches last := by
  have drained : world.Step (world.drain scope) := .drain opened
  have within := spent.steps.wellFormed (drained.wellFormed formed)
  have closing : (later.scope scope).state = .disposing :=
    spent.disposing scope (state_drain opened)
  have passed : .drained scope ((world.scope scope).bag.reverse.map (·.ticket)) ∈ later.journal :=
    spent.steps.extends.journal.subset List.mem_cons_self
  have closed : later.Move (later.close scope) := by
    -- All that the scope took over was in its bag, as it takes nothing over after it is drained.
    refine .step [_] (.close closing fun maker tracked value entrusted owned sync => ?_)
      List.prefix_rfl rfl (by simp [Event.accepts])
    have same := within.ledger.passed (by simp [closing]) passed
    have member : tracked.ticket ∈ (world.scope scope).bag.reverse.map (·.ticket) := by
      rw [same]
      exact List.mem_map_of_mem (mem_taken.2 ⟨maker, value, entrusted, owned⟩)
    obtain ⟨item, held, ticket⟩ := List.mem_map.1 member
    have held := List.mem_reverse.1 held
    obtain ⟨_, another, other, again, _⟩ := formed.ledger.mem_bag.1 held
    have again := (drained.extends.trans spent.steps.extends).journal.subset again
    cases within.ledger.unique entrusted again ticket.symm
    exact done tracked held sync
  have others : ∀ other, other ≠ scope →
      (world.drain scope).scope other = world.scope other ∧
        (later.close scope).scope other = later.scope other := fun other apart =>
    ⟨scope_drain_of_ne apart, scope_updateScope_of_ne later _ apart⟩
  refine ⟨?_, told.blueprints.trans spent.blueprints, told.stack.trans spent.stack,
    fun other state => told.disposing other ?_,
    fun other ticket pending _ => told.keeps ?_⟩
  · exact ((Relation.ReflTransGen.single (move_drain opened)).trans spent.moves).trans
      ((Relation.ReflTransGen.single closed).trans told.moves)
  · obtain ⟨before, after⟩ := others other (by rintro rfl; simp [opened] at state)
    rw [after]
    exact spent.disposing other (before.symm ▸ state)
  · have state := pending.disposing
    obtain ⟨before, after⟩ := others other (by rintro rfl; simp [opened] at state)
    have waits : (world.drain scope).Pending other ticket :=
      pending.keep (before.symm ▸ state) (List.suffix_cons ..)
        fun disposed => (List.mem_cons.1 disposed).resolve_left (by simp)
    have still := spent.pending other ticket waits (pending.not_mem_bag formed.ledger.toBooks)
    exact still.keep (after.symm ▸ still.disposing) (List.suffix_cons ..)
      fun disposed => (List.mem_cons.1 disposed).resolve_left (by simp)

end Disposals
end World

/-- Whether a disposal pass of the mode disposes of it: synchronous ones skip what is
asynchronous. -/
def Tracked.handled (mode : DisposalMode) (tracked : Tracked) : Bool :=
  !(mode == .sync && tracked.disposable.mode == .async)

/-- However the act ends, the world has reached where it ends. -/
def LeadsFrom (world : World) (act : Act α) : Prop :=
  ∀ result later, act world = some (result, later) → world.Reaches later

def Leads (act : Act α) : Prop := ∀ world : World, world.WellFormed → LeadsFrom world act

namespace Act
variable {α β : Type}

theorem bind_eq_some {first : Act α} {next : α → Act β} {world last : World} {result : β} :
    (first >>= next) world = some (result, last) ↔
      ∃ value later, first world = some (value, later) ∧ next value later = some (result, last) := by
  change (first world).bind (fun ended => next ended.1 ended.2) = some (result, last) ↔ _
  rw [Option.bind_eq_some_iff]
  simp

end Act

namespace Run
variable {α β : Type}

theorem bind_eq_some {first : Run α} {next : α → Run β} {world last : World}
    {result : Except Failure β} (h : (first >>= next).run world = some (result, last)) :
    (∃ value later, first.run world = some (.ok value, later) ∧
      (next value).run later = some (result, last)) ∨
    ∃ failure, first.run world = some (.error failure, last) ∧ result = .error failure := by
  obtain ⟨outcome, later, ran, rest⟩ := Act.bind_eq_some.1 h
  cases outcome with
  | ok value => exact .inl ⟨value, later, ran, rest⟩
  | error failure =>
    cases rest
    exact .inr ⟨failure, ran, rfl⟩

theorem run_bind_ok {first : Run α} {next : α → Run β} {world later : World} {value : α}
    (ran : first.run world = some (.ok value, later)) :
    (first >>= next).run world = (next value).run later := by
  change (first.run world).bind _ = _
  rw [ran]
  rfl

theorem run_bind_error {first : Run α} {next : α → Run β} {world later : World}
    {failure : Failure}
    (ran : first.run world = some (.error failure, later)) :
    (first >>= next).run world = some (.error failure, later) := by
  change (first.run world).bind _ = _
  rw [ran]
  rfl

theorem bind_eq_some_iff {first : Run α} {next : α → Run β} {world last : World}
    {result : Except Failure β} :
    (first >>= next).run world = some (result, last) ↔
      (∃ value later, first.run world = some (.ok value, later) ∧
        (next value).run later = some (result, last)) ∨
      ∃ failure, first.run world = some (.error failure, last) ∧ result = .error failure := by
  refine ⟨bind_eq_some, ?_⟩
  rintro (⟨value, later, ran, rest⟩ | ⟨failure, failed, rfl⟩)
  · rw [run_bind_ok ran, rest]
  · exact run_bind_error failed

theorem run_bind_congr {first other : Run α} {next after : α → Run β} {world : World}
    (same : first.run world = other.run world)
    (rest : ∀ value later, first.run world = some (.ok value, later) →
      (next value).run later = (after value).run later) :
    (first >>= next).run world = (other >>= after).run world := by
  change (first.run world).bind _ = (other.run world).bind _
  rw [← same]
  cases ran : first.run world with
  | none => rfl
  | some ended =>
    obtain ⟨result, later⟩ := ended
    cases result with
    | ok value => exact rest value later ran
    | error failure => rfl

theorem run_look (next : World → Run α) (world : World) :
    ((get : Run World) >>= next).run world = (next world).run world := rfl

theorem run_lift_bind (act : Act α) (next : α → Run β) (world : World) :
    ((ExceptT.lift act : Run α) >>= next).run world =
      (act world).bind fun ended => (next ended.1).run ended.2 := by
  change ((act world).bind _).bind _ = _
  cases act world <;> rfl

end Run

namespace LeadsFrom
variable {α β : Type} {world : World}

theorem pure (value : α) : LeadsFrom world (Pure.pure value : Act α) := by
  rintro _ _ ⟨⟩
  exact .refl world

theorem bind {first : Act α} {next : α → Act β} (here : LeadsFrom world first)
    (rest : ∀ value later, world.Reaches later → LeadsFrom later (next value)) :
    LeadsFrom world (first >>= next) := by
  intro result last h
  obtain ⟨value, later, ran, ended⟩ := Act.bind_eq_some.1 h
  have reached := here value later ran
  exact reached.trans (rest value later reached result last ended)

theorem andThen {first : Run α} {next : α → Run β} (here : LeadsFrom world first.run)
    (rest : ∀ value later, world.Reaches later → LeadsFrom later (next value).run) :
    LeadsFrom world (first >>= next).run := by
  intro result last h
  obtain ⟨value, later, ran, ended⟩ | ⟨failure, ran, _⟩ := Run.bind_eq_some h
  · have reached := here _ later ran
    exact reached.trans (rest value later reached result last ended)
  · exact here _ last ran

theorem done (value : α) : LeadsFrom world (Pure.pure value : Run α).run := pure _

theorem fail (failure : Failure) : LeadsFrom world (throw failure : Run α).run := pure _

theorem lift {act : Act α} (here : LeadsFrom world act) :
    LeadsFrom world (ExceptT.lift act : Run α).run := by
  intro result last h
  have spelled : (ExceptT.lift act : Run α).run = act >>= fun value => Pure.pure (.ok value) :=
    map_eq_pure_bind _ act
  rw [spelled] at h
  exact bind here (fun _ _ _ => pure _) result last h

theorem look {next : World → Run β} (here : LeadsFrom world (next world).run) :
    LeadsFrom world ((get : Run World) >>= next).run := here

theorem change {step : World → World} (reached : world.Reaches (step world)) :
    LeadsFrom world (modify step : Act Unit) := by
  rintro _ _ ⟨⟩
  exact reached

end LeadsFrom

namespace Run
variable {handler : Handler} {world : World}

theorem reaches_onEngine (formed : world.WellFormed) {id : EngineId} {action : EngineAction α}
    (asked : (world.engine id).Asked (action.run (world.engine id)).2) :
    LeadsFrom world (onEngine id action).run := by
  intro result later h
  rw [run_onEngine] at h
  cases h
  obtain ⟨sound, grown⟩ := asked.evolves (formed.engine_sound id)
  exact world.reaches_withEngine id sound grown asked

theorem leads_onEngine (id : EngineId) {action : EngineAction α}
    (asked : Stateful.Keeps Engine.Asked action) : Leads (onEngine id action).run :=
  fun world formed => reaches_onEngine formed (asked (world.engine id))

theorem leads_notify (id : EngineId) (notice : Notice) : Leads (notify id notice) :=
  fun world _ => .change (world.reaches_notify id notice)

theorem run_ensureOpen (scope : ScopeId) (world : World) :
    (ensureOpen scope).run world = some
      (if (world.scope scope).state = .open then .ok () else .error .scopeDisposed, world) := by
  change (if (world.scope scope).state == .open then pure () else throw .scopeDisposed :
    Run Unit).run world = _
  by_cases opened : (world.scope scope).state = .open
  · simp only [opened, beq_self_eq_true, if_true]
    rfl
  · simp only [beq_iff_eq, opened, if_false]
    rfl

theorem leads_ensureOpen (scope : ScopeId) : Leads (ensureOpen scope).run := by
  intro world formed result later h
  rw [run_ensureOpen] at h
  cases h
  exact .refl world

theorem ensureOpen_eq_some {scope : ScopeId} {later : World}
    (h : (ensureOpen scope).run world = some (.ok (), later)) :
    later = world ∧ (world.scope scope).state = .open := by
  rw [run_ensureOpen] at h
  split at h
  · rename_i opened
    cases h
    exact ⟨rfl, opened⟩
  · cases h

section Handled
variable (answers : ∀ request, Leads (handler request))
include answers

theorem leads_exec (program : Program α) : Leads (program.exec handler) := by
  induction program with
  | done result => exact fun _ _ => .pure _
  | ask request next ih =>
    intro world formed
    refine .bind (answers request world formed) fun reply later reached => ?_
    exact ih reply later (reached.wellFormed formed)

theorem leads_body (program : Program (Except Failure α)) : Leads (body handler program).run :=
  leads_exec answers program

theorem spends_cleanUp (formed : world.WellFormed) {owner : ScopeId} {tracked : Tracked}
    (pending : world.Pending owner tracked.ticket) {later : World}
    (h : cleanUp handler tracked world = some ((), later)) :
    world.Spends [tracked.ticket] later ∧
      .disposed tracked.ticket :: world.journal <:+ later.journal := by
  have noted := World.spends_disposed pending
  have reached := leads_exec answers tracked.disposable.cleanup _ (noted.steps.wellFormed formed) _
    later h
  exact ⟨noted.trans reached, reached.extends.journal⟩

omit answers in
theorem run_capture {site : Site} {owner : ScopeId} {produced : Produced} {disposable : Disposable}
    (comes : produced.disposable = some disposable) :
    (capture handler site owner produced).run world =
      if (world.scope owner).state = .open then
        some (.ok produced.value, world.entrust site owner disposable produced.value)
      else if disposable.mode = .sync then
        (disposable.cleanup.exec handler
          (world.refuse site owner disposable produced.value)).map
            fun ended => (.error .scopeDisposed, ended.2)
      else some (.error .scopeDisposed, world.entrust site owner disposable produced.value) := by
  unfold capture
  rw [comes]
  change (if ((world.scope owner).state == .open) = true then pure produced.value else do
      if disposable.mode == .sync then
        ExceptT.lift (cleanUp handler ⟨world.nextTicket, disposable⟩)
      throw .scopeDisposed : Run Value).run (world.entrust site owner disposable produced.value) = _
  by_cases opened : (world.scope owner).state = .open
  · simp only [opened, beq_self_eq_true, if_true]
    rfl
  · simp only [beq_iff_eq, opened, if_false]
    by_cases sync : disposable.mode = .sync
    · simp only [sync, if_true]
      refine (run_lift_bind _ _ _).trans ?_
      change (disposable.cleanup.exec handler
        (world.refuse site owner disposable produced.value)).bind _ = _
      rw [Option.map_eq_bind]
      rfl
    · simp only [sync, if_false]
      rfl

/-- A made value is given to its owner in one step, or refused and disposed. -/
theorem takes_capture (formed : world.WellFormed) {site : Site} {owner : ScopeId}
    {produced : Produced} {disposable : Disposable}
    (comes : produced.disposable = some disposable) (making : world.Making site owner)
    {result : Except Failure Value} {last : World}
    (h : (capture handler site owner produced).run world = some (result, last)) :
    ∃ taken, world.Step taken ∧ taken.Reaches last ∧
      .entrusted (world.frame site owner) ⟨world.nextTicket, disposable⟩ produced.value
        (decide ((world.scope owner).state = .open)) ∈ taken.journal ∧
      ((world.scope owner).state = .open →
        result = .ok produced.value ∧ last = world.entrust site owner disposable produced.value) ∧
      ((world.scope owner).state ≠ .open → world.Reaches taken) := by
  have noted : ∀ accepted, accepted = decide ((world.scope owner).state = .open) →
      .entrusted (world.frame site owner) ⟨world.nextTicket, disposable⟩ produced.value accepted ∈
        (world.entrust site owner disposable produced.value).journal := by
    rintro _ rfl
    rw [World.journal_entrust]
    exact List.mem_cons_self
  rw [run_capture comes] at h
  by_cases opened : (world.scope owner).state = .open
  · rw [if_pos opened] at h
    cases h
    exact ⟨_, .entrust making (.inl opened), .refl _, noted _ rfl, fun _ => ⟨rfl, rfl⟩,
      fun closed => absurd opened closed⟩
  · rw [if_neg opened] at h
    cases mode : disposable.mode with
    | async =>
      simp only [mode, reduceCtorEq, if_false] at h
      cases h
      exact ⟨_, .entrust making (.inr mode), .refl _, noted _ rfl, fun state => absurd state opened,
        fun _ => World.reaches_entrust making opened mode⟩
    | sync =>
      rw [if_pos mode] at h
      obtain ⟨⟨_, later⟩, cleaned, ended⟩ := Option.map_eq_some_iff.1 h
      cases ended
      have refused : world.Reaches (world.refuse site owner disposable produced.value) :=
        World.reaches_refuse formed making opened
      exact ⟨_, .refuse making opened, leads_exec answers _ _ (refused.wellFormed formed) _ _ cleaned,
        List.mem_cons_of_mem _ (noted _ rfl), fun state => absurd state opened, fun _ => refused⟩

/-- A value with nothing to dispose, or whose owner is no longer open, leads on; what an open owner
takes over is the value of its construction. -/
theorem reaches_capture (formed : world.WellFormed) {site : Site} {owner : ScopeId}
    {produced : Produced} (made : produced.disposable ≠ none → world.Making site owner)
    {result : Except Failure Value} {last : World}
    (h : (capture handler site owner produced).run world = some (result, last)) :
    world.Reaches last ∨ ∃ disposable, produced.disposable = some disposable ∧
      (world.scope owner).state = .open ∧ result = .ok produced.value ∧
      last = world.entrust site owner disposable produced.value := by
  cases comes : produced.disposable with
  | none =>
    unfold capture at h
    rw [comes] at h
    cases h
    exact .inl (.refl world)
  | some disposable =>
    obtain ⟨taken, _, rest, _, accepted, refused⟩ :=
      takes_capture answers formed comes (made (by simp [comes])) h
    by_cases opened : (world.scope owner).state = .open
    · obtain ⟨value, same⟩ := accepted opened
      exact .inr ⟨disposable, rfl, opened, value, same⟩
    · exact .inl ((refused opened).trans rest)

/-- A pass over pending disposables disposes of those that it handles, in their order, and of no
others but its own. -/
theorem spends_cleanUpAll (mode : DisposalMode) (items : List Tracked) {owner : ScopeId}
    (formed : world.WellFormed) (pending : ∀ item ∈ items, world.Pending owner item.ticket)
    (distinct : (items.map (·.ticket)).Nodup) {result : Nat × Option String} {last : World}
    (h : cleanUpAll handler mode items world = some (result, last)) :
    world.Spends (items.map (·.ticket)) last ∧ ∃ events, last.journal = events ++ world.journal ∧
      ((items.filter (·.handled mode)).reverse.map fun item =>
        Event.disposed item.ticket).Sublist events := by
  -- What a cleanup runs may dispose of other scopes, but leaves the rest of this pass pending.
  induction items generalizing world result last with
  | nil =>
    cases h
    exact ⟨World.Reaches.refl world, [], rfl, .slnil⟩
  | cons tracked rest ih =>
    obtain ⟨apart, distinct⟩ := List.nodup_cons.1 distinct
    have waiting : ∀ item ∈ rest, world.Pending owner item.ticket :=
      fun item member => pending item (List.mem_cons_of_mem _ member)
    rw [cleanUpAll] at h
    split at h
    · rename_i skipped
      obtain ⟨_, later, cleaned, ended⟩ := Act.bind_eq_some.1 h
      cases ended
      obtain ⟨spent, events, journal, done⟩ := ih formed waiting distinct cleaned
      refine ⟨spent.mono (List.subset_cons_self ..), events, journal, ?_⟩
      rwa [List.filter_cons_of_neg (by simp [Tracked.handled, skipped])]
    · rename_i handled
      obtain ⟨_, between, cleaned, h⟩ := Act.bind_eq_some.1 h
      obtain ⟨_, later, rested, ended⟩ := Act.bind_eq_some.1 h
      cases ended
      obtain ⟨first, before, noted⟩ :=
        spends_cleanUp answers formed (pending tracked List.mem_cons_self) cleaned
      have left : ∀ item ∈ rest, between.Pending owner item.ticket := by
        intro item member
        have distant : item.ticket ≠ tracked.ticket :=
          fun same => apart (List.mem_map.2 ⟨item, member, same⟩)
        exact first.pending owner _ (waiting item member) (by simpa using distant)
      obtain ⟨spent, events, journal, done⟩ := ih (first.steps.wellFormed formed) left distinct rested
      refine ⟨first.trans spent, events ++ (before ++ [.disposed tracked.ticket]), ?_, ?_⟩
      · rw [journal, ← noted]
        simp
      · have chosen : tracked.handled mode = true := by
          rw [Tracked.handled, Bool.eq_false_iff.2 handled]
          rfl
        rw [List.filter_cons_of_pos chosen, List.reverse_cons, List.map_append]
        exact done.append (List.sublist_append_right ..)

omit answers in
theorem run_dispose {scope : ScopeId} (mode : DisposalMode)
    (opened : (world.scope scope).state = .open) :
    (dispose handler scope mode).run world =
      (cleanUpAll handler mode (world.scope scope).bag.reverse (world.drain scope)).map
        fun ended => (ended.1.2.elim (.ok ()) fun service => .error (.asyncDisposalRequired service),
          World.notify (ended.2.scope scope).engine (ended.2.close scope)
            (.scopeDisposed (ended.2.isRoot scope) ended.1.1)) := by
  rw [dispose, run_look, opened, if_pos (beq_self_eq_true _)]
  refine (run_lift_bind (drain scope) _ world).trans ?_
  refine (run_lift_bind (cleanUpAll handler mode _) _ (world.drain scope)).trans ?_
  cases cleanUpAll handler mode (world.scope scope).bag.reverse (world.drain scope) with
  | none => rfl
  | some ended =>
    obtain ⟨⟨count, skipped⟩, later⟩ := ended
    refine (run_lift_bind (close scope count) _ later).trans ?_
    cases skipped <;> rfl

theorem leads_dispose (scope : ScopeId) (mode : DisposalMode) :
    Leads (dispose handler scope mode).run := by
  intro world formed result last h
  by_cases opened : (world.scope scope).state = .open
  · rw [run_dispose mode opened] at h
    obtain ⟨⟨⟨count, skipped⟩, later⟩, cleaned, ended⟩ := Option.map_eq_some_iff.1 h
    cases ended
    have drained : world.Step (world.drain scope) := .drain opened
    obtain ⟨spent, done⟩ := spends_cleanUpAll answers mode _ (drained.wellFormed formed)
      (fun item held => formed.ledger.pending_drain opened (List.mem_reverse.1 held))
      (by
        rw [List.map_reverse, List.nodup_reverse]
        exact formed.ledger.nodup_bag) cleaned
    refine World.reaches_closed formed opened (spent.mono ?_) (fun item held sync => ?_)
      (World.reaches_notify _ _ _)
    · rw [List.map_reverse]
      exact List.reverse_subset.2 (List.Subset.refl _)
    · obtain ⟨events, journal, disposed⟩ := done
      have handled : item ∈ (world.scope scope).bag.reverse.filter (·.handled mode) :=
        List.mem_filter.2 ⟨List.mem_reverse.2 held, by simp [Tracked.handled, sync]⟩
      rw [journal]
      exact List.mem_append_left _ (disposed.subset
        (List.mem_map.2 ⟨item, List.mem_reverse.2 handled, rfl⟩))
  · have nothing : (dispose handler scope mode).run world = some (.ok (), world) := by
      change (if (world.scope scope).state == .open then _ else pure () : Run Unit).run world = _
      simp only [beq_iff_eq, opened, if_false]
      rfl
    rw [nothing] at h
    cases h
    exact .refl world

end Handled
end Run
end ServiceContainer
