import ServiceContainer.Proofs.Confinement
import ServiceContainer.Proofs.Nesting

/-! The order of disposals. A construction's instance is entrusted to its owner as the last thing
before the construction ends, so whatever it obtained was entrusted before. Main statement: a scope
disposes of an instance before it disposes of those that the instance was made from. -/
namespace ServiceContainer

def Tracks (journal : List Event) (maker : Construction) (tracked : Tracked) : Prop :=
  ∃ value earlier, .entrusted maker.frame tracked value true :: earlier <:+ journal ∧
    (underway earlier).getLast? = some maker

def Completes (journal : List Event) (maker : Construction) (value : Value) : Prop :=
  ∃ earlier, .completed maker.frame.engine maker.frame.key maker.frame.owner value :: earlier <:+
      journal ∧ (underway earlier).getLast? = some maker

/-- While the user was under construction, it or one that it needs was handed out an instance that
the maker had made, new or from a cache. -/
def Obtains (journal : List Event) (user maker : Construction) : Prop :=
  ∃ engine key owner value earlier, .obtained engine key owner value :: earlier <:+ journal ∧
    user ∈ underway earlier ∧ (maker.frame == ⟨engine, key, owner⟩) = true ∧
    Completes earlier maker value

/-- A journal of constructions, each inside those underway. Only what was made is handed out, and a
construction whose instance was taken over succeeds at once. -/
inductive Orderly : List Event → Prop where
  | start : Orderly []
  | idle {journal : List Event} {event : Event} (orderly : Orderly journal)
      (idle : event.nests = false) (untaken : event.accepts = false) : Orderly (event :: journal)
  | enter {journal : List Event} (orderly : Orderly journal) (frame : Frame)
      (location : CacheLocation) :
      Orderly (.entered frame.engine frame.key location frame.owner :: journal)
  | obtain {journal : List Event} (orderly : Orderly journal) (cell : Frame) {maker : Construction}
      {value : Value} (same : (maker.frame == cell) = true)
      (completes : Completes journal maker value) :
      Orderly (.obtained cell.engine cell.key cell.owner value :: journal)
  | leave {journal : List Event} (orderly : Orderly journal) {maker : Construction}
      (innermost : (underway journal).getLast? = some maker) :
      Orderly (.left maker.frame.engine maker.frame.key :: journal)
  | complete {journal : List Event} (orderly : Orderly journal) {maker : Construction}
      (innermost : (underway journal).getLast? = some maker) (value : Value) :
      Orderly (.left maker.frame.engine maker.frame.key ::
        .completed maker.frame.engine maker.frame.key maker.frame.owner value :: journal)
  | settle {journal : List Event} (orderly : Orderly journal) {maker : Construction}
      (innermost : (underway journal).getLast? = some maker) (tracked : Tracked) (value : Value) :
      Orderly (.left maker.frame.engine maker.frame.key ::
        .completed maker.frame.engine maker.frame.key maker.frame.owner value ::
        .entrusted maker.frame tracked value true :: journal)

/-- The construction, innermost after the earlier events, ends with the last ones. -/
structure Ends (journal : List Event) (maker : Construction) (last earlier : List Event) :
    Prop where
  innermost : (underway earlier).getLast? = some maker
  left : .left maker.frame.engine maker.frame.key :: (last ++ earlier) <:+ journal
  quiet : underway (last ++ earlier) = underway earlier

section Journals
variable {journal earlier : List Event} {maker user : Construction} {value : Value}
  {tracked : Tracked}

theorem Completes.mono {more : List Event} (completes : Completes journal maker value)
    (grown : journal <:+ more) : Completes more maker value := by
  obtain ⟨earlier, completed, innermost⟩ := completes
  exact ⟨earlier, completed.trans grown, innermost⟩

theorem Ends.mono {more last : List Event} (ends : Ends journal maker last earlier)
    (grown : journal <:+ more) : Ends more maker last earlier :=
  ⟨ends.innermost, ends.left.trans grown, ends.quiet⟩

theorem suffix_tail {event : Event} {rest : List Event} {first : Event} {journal : List Event}
    (suffix : event :: rest <:+ first :: journal) (differs : event ≠ first) :
    event :: rest <:+ journal := by
  obtain same | inside := List.suffix_cons_iff.1 suffix
  · exact absurd (List.cons.inj same).1 differs
  · exact inside

theorem Orderly.completed (orderly : Orderly journal) {engine : EngineId} {key : CacheKey}
    {owner : ScopeId} (completed : .completed engine key owner value :: earlier <:+ journal) :
    ∃ maker : Construction, maker.frame = ⟨engine, key, owner⟩ ∧
      Ends journal maker [.completed engine key owner value] earlier := by
  induction orderly with
  | start => exact absurd (List.suffix_nil.1 completed) (by simp)
  | idle _ idle _ ih =>
    obtain ⟨maker, same, ends⟩ := ih (suffix_tail completed (by rintro rfl; cases idle))
    exact ⟨maker, same, ends.mono (List.suffix_cons ..)⟩
  | enter _ _ _ ih | obtain _ _ _ _ ih | leave _ _ ih =>
    obtain ⟨maker, same, ends⟩ := ih (suffix_tail completed (by simp))
    exact ⟨maker, same, ends.mono (List.suffix_cons ..)⟩
  | complete _ innermost _ ih =>
    obtain same | inside := List.suffix_cons_iff.1 (suffix_tail completed (by simp))
    · cases same
      exact ⟨_, rfl, innermost, List.suffix_rfl, rfl⟩
    · obtain ⟨maker, same, ends⟩ := ih inside
      exact ⟨maker, same, ends.mono ((List.suffix_cons ..).trans (List.suffix_cons ..))⟩
  | settle _ innermost tracked _ ih =>
    obtain same | inside := List.suffix_cons_iff.1 (suffix_tail completed (by simp))
    · cases same
      exact ⟨_, rfl, innermost, List.suffix_rfl, rfl⟩
    · obtain ⟨maker, same, ends⟩ := ih (suffix_tail inside (by simp))
      exact ⟨maker, same, ends.mono
        (((List.suffix_cons ..).trans (List.suffix_cons ..)).trans (List.suffix_cons ..))⟩

theorem Orderly.entrusted (orderly : Orderly journal) {frame : Frame}
    (entrusted : .entrusted frame tracked value true :: earlier <:+ journal) :
    ∃ maker : Construction, maker.frame = frame ∧
      Ends journal maker [.completed frame.engine frame.key frame.owner value,
        .entrusted frame tracked value true] earlier := by
  induction orderly with
  | start => exact absurd (List.suffix_nil.1 entrusted) (by simp)
  | idle _ _ untaken ih =>
    obtain ⟨maker, same, ends⟩ := ih (suffix_tail entrusted (by rintro rfl; cases untaken))
    exact ⟨maker, same, ends.mono (List.suffix_cons ..)⟩
  | enter _ _ _ ih | obtain _ _ _ _ ih | leave _ _ ih =>
    obtain ⟨maker, same, ends⟩ := ih (suffix_tail entrusted (by simp))
    exact ⟨maker, same, ends.mono (List.suffix_cons ..)⟩
  | complete _ _ _ ih =>
    obtain ⟨maker, same, ends⟩ := ih (suffix_tail (suffix_tail entrusted (by simp)) (by simp))
    exact ⟨maker, same, ends.mono ((List.suffix_cons ..).trans (List.suffix_cons ..))⟩
  | settle _ innermost _ _ ih =>
    obtain same | inside :=
      List.suffix_cons_iff.1 (suffix_tail (suffix_tail entrusted (by simp)) (by simp))
    · cases same
      exact ⟨_, rfl, innermost, List.suffix_rfl, rfl⟩
    · obtain ⟨maker, same, ends⟩ := ih inside
      exact ⟨maker, same, ends.mono
        (((List.suffix_cons ..).trans (List.suffix_cons ..)).trans (List.suffix_cons ..))⟩

theorem Ends.not_underway {last rest : List Event} (ends : Ends journal maker last earlier)
    (later : .left maker.frame.engine maker.frame.key :: (last ++ earlier) <:+ rest) :
    maker ∉ underway rest := by
  obtain ⟨events, rfl⟩ := later
  obtain ⟨ordered, before⟩ := begun_lt_of_underway earlier
  obtain ⟨outer, split⟩ := List.getLast?_eq_some_iff.1 ends.innermost
  rw [split] at ordered before
  have gone : maker ∉
      underway (.left maker.frame.engine maker.frame.key :: (last ++ earlier)) := by
    intro listed
    rw [underway, ends.quiet, split] at listed
    have listed : maker ∈ outer := by simpa [Event.nest] using listed
    exact Nat.lt_irrefl _ ((List.pairwise_append.1 ordered).2.2 maker listed maker (by simp))
  intro listed
  obtain old | new := underway_of_later listed
  · exact gone old
  · have began := before maker (by simp)
    simp only [List.length_cons, List.length_append] at new
    omega

theorem Ends.before {last rest : List Event} {event : Event}
    (ends : Ends journal maker last earlier) (happened : event :: rest <:+ journal)
    (listed : maker ∈ underway rest)
    (stays : event ≠ .left maker.frame.engine maker.frame.key) :
    event :: rest <:+ last ++ earlier := by
  obtain later | sooner := List.suffix_or_suffix_of_suffix ends.left happened
  · exact absurd listed (ends.not_underway (suffix_tail later (Ne.symm stays)))
  · exact suffix_tail sooner stays

theorem Obtains.completes (obtains : Obtains journal user maker) {last : List Event}
    (ends : Ends journal user last earlier)
    (settled : ∀ event ∈ last, ∀ engine key owner value, event ≠ .obtained engine key owner value) :
    ∃ value, Completes earlier maker value := by
  obtain ⟨engine, key, owner, value, before, obtained, listed, _, completes⟩ := obtains
  have inside := ends.before obtained listed (by simp)
  have outside : .obtained engine key owner value :: before <:+ earlier := by
    clear ends
    induction last with
    | nil => exact inside
    | cons event rest ih =>
      refine ih (fun other member => settled other (List.mem_cons_of_mem _ member))
        (suffix_tail inside fun same => ?_)
      exact settled event List.mem_cons_self _ _ _ _ same.symm
  exact ⟨value, completes.mono ((List.suffix_cons ..).trans outside)⟩

/-- What a construction obtained, also by way of others, was made before its last events. -/
theorem Orderly.completes (orderly : Orderly journal)
    (obtains : Relation.TransGen (Obtains journal) user maker) {last : List Event}
    (ends : Ends journal user last earlier)
    (settled : ∀ event ∈ last, ∀ engine key owner value, event ≠ .obtained engine key owner value) :
    ∃ value, Completes earlier maker value := by
  induction obtains with
  | single obtains => exact obtains.completes ends settled
  | tail _ obtains ih =>
    obtain ⟨value, before, completed, innermost⟩ := ih
    have grown : earlier <:+ journal :=
      ((List.suffix_append ..).trans (List.suffix_cons ..)).trans ends.left
    obtain ⟨between, same, ended⟩ := orderly.completed (completed.trans grown)
    have one := Option.some.inj (ended.innermost.symm.trans innermost)
    subst one
    obtain ⟨other, completes⟩ := obtains.completes ended (by simp)
    exact ⟨other, completes.mono ((List.suffix_cons ..).trans completed)⟩

/-- What a construction obtained was taken over before its own instance. -/
theorem Orderly.entrusted_before (orderly : Orderly journal) {other : Tracked}
    (obtains : Relation.TransGen (Obtains journal) user maker)
    (entrusted : .entrusted user.frame tracked value true :: earlier <:+ journal)
    (innermost : (underway earlier).getLast? = some user) (tracks : Tracks journal maker other) :
    ∃ value, .entrusted maker.frame other value true ∈ earlier := by
  obtain ⟨_, _, ends⟩ := orderly.entrusted entrusted
  have one := Option.some.inj (ends.innermost.symm.trans innermost)
  subst one
  obtain ⟨_, before, completed, last⟩ := orderly.completes obtains ends (by simp)
  have grown : earlier <:+ journal := (List.suffix_cons ..).trans entrusted
  obtain ⟨_, _, ended⟩ := orderly.completed (completed.trans grown)
  have one := Option.some.inj (ended.innermost.symm.trans last)
  subst one
  obtain ⟨value, sooner, taken, listed⟩ := tracks
  have inside := ended.before taken (List.mem_of_getLast? listed) (by simp)
  exact ⟨value, (inside.trans completed).subset List.mem_cons_self⟩

theorem Orderly.obtained (orderly : Orderly journal) {engine : EngineId} {key : CacheKey}
    {owner : ScopeId} (obtained : .obtained engine key owner value :: earlier <:+ journal) :
    ∃ maker : Construction, (maker.frame == ⟨engine, key, owner⟩) = true ∧
      Completes earlier maker value := by
  induction orderly with
  | start => exact absurd (List.suffix_nil.1 obtained) (by simp)
  | idle _ idle _ ih => exact ih (suffix_tail obtained (by rintro rfl; cases idle))
  | enter _ _ _ ih | leave _ _ ih => exact ih (suffix_tail obtained (by simp))
  | obtain _ _ same completes ih =>
    obtain here | inside := List.suffix_cons_iff.1 obtained
    · cases here
      exact ⟨_, same, completes⟩
    · exact ih inside
  | complete _ _ _ ih => exact ih (suffix_tail (suffix_tail obtained (by simp)) (by simp))
  | settle _ _ _ _ ih =>
    exact ih (suffix_tail (suffix_tail (suffix_tail obtained (by simp)) (by simp)) (by simp))

theorem Orderly.append {events : List Event} (orderly : Orderly journal)
    (idle : ∀ event ∈ events, event.nests = false)
    (untaken : ∀ event ∈ events, event.accepts = false) : Orderly (events ++ journal) := by
  induction events with
  | nil => exact orderly
  | cons event rest ih =>
    refine .idle (ih ?_ ?_) (idle event List.mem_cons_self) (untaken event List.mem_cons_self)
    · exact fun other member => idle other (List.mem_cons_of_mem _ member)
    · exact fun other member => untaken other (List.mem_cons_of_mem _ member)

theorem Orderly.exists_completes (orderly : Orderly journal) {engine : EngineId} {key : CacheKey}
    {owner : ScopeId} (completed : .completed engine key owner value ∈ journal) :
    ∃ maker : Construction, maker.frame = ⟨engine, key, owner⟩ ∧ Completes journal maker value := by
  obtain ⟨after, earlier, rfl⟩ := List.append_of_mem completed
  obtain ⟨⟨_, begun⟩, rfl, ends⟩ := orderly.completed (List.suffix_append ..)
  exact ⟨_, rfl, earlier, List.suffix_append .., ends.innermost⟩

end Journals

namespace World
variable {world later : World}

theorem exists_innermost (nested : world.stack = (underway world.journal).map (·.frame))
    {outer : List Frame} {frame : Frame} (innermost : world.stack = outer ++ [frame]) :
    ∃ begun, (underway world.journal).getLast? = some ⟨frame, begun⟩ := by
  have last : (underway world.journal).getLast?.map (·.frame) = some frame := by
    rw [← List.getLast?_map, ← nested, innermost, List.getLast?_concat]
  obtain ⟨⟨_, begun⟩, found, rfl⟩ := Option.map_eq_some_iff.1 last
  exact ⟨begun, found⟩

/-- What an entry holds was made for it. -/
theorem Regular.made_of_cached (regular : world.Regular) (filed : world.Filed) {cell : Frame}
    {value : Value} (cached : world.cached cell = some (some value)) :
    value ∈ world.made (· == cell) := by
  obtain ⟨engine, key, location, owner, entered, same, kept⟩ := filed cell (by simp [cached])
  obtain ⟨callSite, warrants⟩ := regular.planned engine key location owner entered
  obtain ⟨held, constructs, rfl, rfl, _, _, _⟩ := warrants
  obtain ⟨_, _, planned⟩ := held.plans (regular.formed.engine_sound engine).memo constructs
  have keeps := regular.keeps planned constructs kept owner BEq.rfl
  have once := (regular.once _ keeps).congr same
  exact (cell.mem_made world.journal).2 (once.agrees.mem_of_held cached)

theorem Move.orderly (regular : world.Regular) (filed : world.Filed)
    (nested : world.stack = (underway world.journal).map (·.frame))
    (orderly : Orderly world.journal) (move : world.Move later) : Orderly later.journal := by
  cases move with
  | @ask id engine _ _ _ =>
    obtain ⟨events, metrics, sent, all⟩ := sent_eq id engine.outbox
      (world.updateEngine id fun _ => { engine with outbox := [] })
    rw [withEngine, sent]
    refine orderly.append (fun event member => ?_) fun event member => ?_
    all_goals
      obtain ⟨notice, rfl⟩ := all event member
      rfl
  | @settle site owner disposable value making opened =>
    obtain ⟨outer, innermost⟩ := making.innermost
    obtain ⟨begun, last⟩ := exists_innermost nested innermost
    rw [journal_finish, making.engine_entrust, journal_entrust, decide_eq_true opened]
    exact .settle orderly last _ value
  | step events step _ journal untaken =>
    obtain ⟨_, others, same, idle⟩ | ⟨site, owner, rfl⟩ | ⟨site, owner, value, making, rfl⟩ |
      ⟨outer, frame, innermost, rfl⟩ | ⟨site, owner, value, had, rfl⟩ := step.nests
    · rw [journal]
      have one := List.append_cancel_right (same.symm.trans journal)
      exact orderly.append (one ▸ idle) untaken
    · rw [journal_begin]
      exact .enter orderly (world.frame site owner) site.location
    · obtain ⟨outer, innermost⟩ := making.innermost
      obtain ⟨begun, last⟩ := exists_innermost nested innermost
      rw [journal_finish]
      exact .complete orderly last value
    · obtain ⟨begun, last⟩ := exists_innermost nested innermost
      exact .leave orderly last
    · have made : value ∈ world.made (· == world.frame site owner) := by
        obtain made | cached := had
        · exact made
        · exact regular.made_of_cached filed cached
      obtain ⟨engine, key, holder, completed, here⟩ := mem_made.1 made
      obtain ⟨maker, same, completes⟩ := orderly.exists_completes completed
      exact .obtain orderly (world.frame site owner) (same ▸ here) completes

theorem Moves.orderly (regular : world.Regular) (filed : world.Filed)
    (nested : world.stack = (underway world.journal).map (·.frame))
    (orderly : Orderly world.journal) (moves : world.Moves later) : Orderly later.journal := by
  induction moves with
  | refl => exact orderly
  | tail moves move ih =>
    have steps := Moves.steps moves
    exact move.orderly (regular.steps steps) (filed.steps steps) (steps.nested nested) ih

theorem Reachable.orderly (reached : world.Reachable) : Orderly world.journal := by
  obtain ⟨metrics, moves, _⟩ := reached.moves
  exact moves.orderly (regular_start metrics) (Filed.start metrics) rfl .start

section Tickets
variable {maker another : Frame} {tracked item : Tracked} {value other : Value}
  {accepted again : Bool} {scope : ScopeId}

theorem Books.descending (books : world.Books) : world.tickets.Pairwise (· > ·) := by
  rw [books.numbered, List.pairwise_reverse]
  exact List.pairwise_lt_range

theorem Books.ticket_lt_of_earlier (books : world.Books) {earlier : List Event}
    (entrusted : .entrusted maker tracked value accepted :: earlier <:+ world.journal)
    (before : .entrusted another item other again ∈ earlier) : item.ticket < tracked.ticket := by
  have ordered := List.pairwise_filterMap.1 books.descending
  have first := List.pairwise_cons.1 (ordered.sublist entrusted.sublist)
  exact first.1 _ before tracked.ticket rfl item.ticket rfl

theorem Books.ascending (books : world.Books) (scope : ScopeId) :
    ((world.scope scope).bag.map (·.ticket)).Pairwise (· < ·) := by
  rw [books.bags scope]
  split
  · rw [List.map_reverse, List.pairwise_reverse]
    exact books.descending.sublist (world.taken_sublist scope)
  · exact .nil

theorem Books.pair_sublist_bag (books : world.Books) (held : item ∈ (world.scope scope).bag)
    (too : tracked ∈ (world.scope scope).bag) (older : item.ticket < tracked.ticket) :
    [item, tracked].Sublist (world.scope scope).bag := by
  have ordered := List.pairwise_map.1 (books.ascending scope)
  obtain ⟨before, after, split⟩ := List.append_of_mem too
  rw [split] at held ordered ⊢
  obtain inside | same | outside : item ∈ before ∨ item = tracked ∨ item ∈ after := by
    simpa using held
  · exact (List.singleton_sublist.2 inside).append (List.singleton_sublist.2 List.mem_cons_self)
  · exact absurd older (same ▸ Nat.lt_irrefl _)
  · have younger := List.rel_of_pairwise_cons (List.pairwise_append.1 ordered).2.1 outside
    exact absurd older (Nat.lt_asymm younger)

/-- One construction made what is tracked. -/
theorem Books.tracks_unique (books : world.Books) {first second : Construction}
    (one : Tracks world.journal first tracked) (two : Tracks world.journal second tracked) :
    first = second := by
  obtain ⟨value, earlier, entrusted, innermost⟩ := one
  obtain ⟨other, before, again, last⟩ := two
  have apart : ∀ {frame another : Frame} {value other : Value} {one two : List Event},
      .entrusted frame tracked value true :: one <:+ world.journal →
      ¬.entrusted another tracked other true :: two <:+ one := fun entrusted sooner =>
    Nat.lt_irrefl _ (books.ticket_lt_of_earlier entrusted (sooner.subset List.mem_cons_self))
  have same : earlier = before := by
    obtain inside | inside := List.suffix_or_suffix_of_suffix entrusted again
    · obtain same | sooner := List.suffix_cons_iff.1 inside
      · exact (List.cons.inj same).2
      · exact absurd sooner (apart again)
    · obtain same | sooner := List.suffix_cons_iff.1 inside
      · exact (List.cons.inj same).2.symm
      · exact absurd sooner (apart entrusted)
  subst same
  exact Option.some.inj (innermost.symm.trans last)

end Tickets
end World

namespace Run
variable {handler : Handler} {world last : World}

/-- An open scope disposes of what it holds, the last made first, save for what it skips. -/
theorem disposed_of_dispose (answers : ∀ request, Leads (handler request))
    (formed : world.WellFormed) {scope : ScopeId} {mode : DisposalMode}
    (opened : (world.scope scope).state = .open) {result : Except Failure Unit}
    (h : (dispose handler scope mode).run world = some (result, last)) :
    ∃ events, last.journal = events ++ world.journal ∧
      (((world.scope scope).bag.filter (·.handled mode)).map fun item =>
        Event.disposed item.ticket).Sublist events := by
  rw [run_dispose mode opened] at h
  obtain ⟨⟨⟨count, skipped⟩, later⟩, cleaned, ended⟩ := Option.map_eq_some_iff.1 h
  cases ended
  have drained : world.Step (world.drain scope) := .drain opened
  have distinct : (((world.scope scope).bag.reverse).map (·.ticket)).Nodup := by
    rw [List.map_reverse, List.nodup_reverse]
    exact formed.ledger.nodup_bag
  obtain ⟨_, events, journal, disposed⟩ := spends_cleanUpAll answers mode _
    (drained.wellFormed formed)
    (fun item held => formed.ledger.pending_drain opened (List.mem_reverse.1 held)) distinct cleaned
  rw [List.filter_reverse, List.reverse_reverse] at disposed
  have told := (later.close scope).reaches_notify (later.scope scope).engine
    (.scopeDisposed (later.isRoot scope) count)
  obtain ⟨more, grown⟩ :=
    (List.suffix_cons (Event.closed scope) later.journal).trans told.extends.journal
  refine ⟨more ++ (events ++ [.drained scope ((world.scope scope).bag.reverse.map (·.ticket))]),
    ?_, ?_⟩
  · refine grown.symm.trans ?_
    rw [journal, List.append_assoc, List.append_assoc]
    rfl
  · exact (disposed.trans (List.sublist_append_left ..)).trans (List.sublist_append_right ..)

end Run

namespace World
variable {world : World}

section Sample

def tidy (service : TypeInfo) : Produced where
  value := .object ⟨service, none, service.name⟩
  disposable := some ⟨service.name, .sync, pure ()⟩

def lending : Blueprint where
  registry := ⟨[
    ⟨.plain kept, .scoped, .produced kept.name fun _ => pure (.ok (tidy kept))⟩,
    ⟨.plain user, .scoped, .constructed user none⟩]⟩
  catalog := ⟨[(user.id, [{
    implementation := user.name
    parameters := [⟨.plain kept, none⟩]
    activate := fun _ => pure (.ok (tidy user)) }])]⟩

/-- In the second scope, which is open, one construction began within another; its instance was taken
over and handed out, and then that of the other. -/
def lent (world : World) : Bool :=
  decide ((world.scope 1).state = .open) && (Container.perform 2 (.dispose 1 .sync) world).isSome &&
    match world.journal with
    | [.obtained _ _ _ _, .left _ _, .completed _ _ _ _, .entrusted _ dependent _ true,
        .obtained _ _ _ _, .left _ _, .completed _ _ _ _, .entrusted _ dependency _ true,
        .entered _ _ _ inner, .entered _ _ _ outer] =>
      inner == 1 && outer == 1 && dependent.handled .sync && dependency.handled .sync
    | _ => false

end Sample

/-- At any time of any run, whatever is handed out was made by a construction, and so obtained by all
that are underway then; what a scope holds was made by one construction each. If an instance obtained
another one while it was made, directly or by way of others, and a scope holds both, then the other
one comes first in its bag, and whenever it is disposed, the instance is disposed before the other. -/
theorem Reachable.dependents_disposed_first {before : World} (reached : before.Reachable)
    (moves : before.Moves world) :
    (∀ engine key owner value earlier,
      .obtained engine key owner value :: earlier <:+ world.journal →
      ∃ maker : Construction, (maker.frame == ⟨engine, key, owner⟩) = true ∧
        Completes earlier maker value ∧
        ∀ user ∈ underway earlier, Obtains world.journal user maker) ∧
    (∀ scope, ∀ tracked ∈ (world.scope scope).bag,
      ∃! maker : Construction, maker.frame.owner = scope ∧ Tracks world.journal maker tracked) ∧
    ∀ scope user maker dependent dependency,
      Relation.TransGen (Obtains world.journal) user maker →
      Tracks world.journal user dependent → dependent ∈ (world.scope scope).bag →
      Tracks world.journal maker dependency → dependency ∈ (world.scope scope).bag →
      [dependency, dependent].Sublist (world.scope scope).bag ∧
      ∀ fuel mode reply last,
        Container.perform fuel (.dispose scope mode) world = some (reply, last) →
        dependent.handled mode = true → dependency.handled mode = true →
        ∃ events, last.journal = events ++ world.journal ∧
          [.disposed dependency.ticket, .disposed dependent.ticket].Sublist events := by
  have orderly := moves.orderly reached.regular reached.filed reached.nested reached.orderly
  have formed := moves.steps.wellFormed reached.wellFormed
  have books := formed.ledger.toBooks
  refine ⟨?_, ?_, ?_⟩
  · intro engine key owner value earlier obtained
    obtain ⟨maker, same, completes⟩ := orderly.obtained obtained
    exact ⟨maker, same, completes, fun user listed =>
      ⟨engine, key, owner, value, earlier, obtained, listed, same, completes⟩⟩
  · intro scope tracked held
    obtain ⟨_, frame, value, entrusted, rfl⟩ := formed.ledger.mem_bag.1 held
    obtain ⟨after, earlier, split⟩ := List.append_of_mem entrusted
    have suffix : .entrusted frame tracked value true :: earlier <:+ world.journal :=
      split ▸ List.suffix_append ..
    obtain ⟨maker, rfl, ends⟩ := orderly.entrusted suffix
    have tracks : Tracks world.journal maker tracked := ⟨value, earlier, suffix, ends.innermost⟩
    exact ⟨maker, ⟨rfl, tracks⟩, fun other ⟨_, too⟩ => books.tracks_unique too tracks⟩
  · intro scope user maker dependent dependency obtains tracks held needed too
    obtain ⟨value, earlier, entrusted, innermost⟩ := tracks
    obtain ⟨_, sooner⟩ := orderly.entrusted_before obtains entrusted innermost needed
    have order := books.pair_sublist_bag too held (books.ticket_lt_of_earlier entrusted sooner)
    refine ⟨order, fun fuel mode reply last performed first second => ?_⟩
    have opened := (formed.ledger.mem_bag.1 held).1
    cases fuel with
    | zero => cases performed
    | succ fuel =>
      obtain ⟨events, journal, disposed⟩ :=
        Run.disposed_of_dispose (Container.leads_perform fuel) formed opened performed
      refine ⟨events, journal, List.Sublist.trans ?_ disposed⟩
      have chosen := (order.filter (·.handled mode)).map fun item => Event.disposed item.ticket
      simpa [first, second] using chosen

/-- A scope disposes of a user before it disposes of what the user was made from. -/
theorem dependents_disposed_first_lent :
    ∃ world user maker dependent dependency reply last events,
      Container.serve 2 lending {} [] (resolving [World.user]) {} = .ok (some ((), world)) ∧
      Obtains world.journal user maker ∧ Tracks world.journal user dependent ∧
      Tracks world.journal maker dependency ∧
      Container.perform 2 (.dispose 1 .sync) world = some (reply, last) ∧
      last.journal = events ++ world.journal ∧
      [.disposed dependency.ticket, .disposed dependent.ticket].Sublist events := by
  obtain ⟨world, served, shown⟩ := exists_of_served
    (Container.serve 2 lending {} [] (resolving [World.user]) {}) lent (by decide +kernel)
  obtain ⟨shown, told⟩ := Bool.and_eq_true_iff.1 shown
  obtain ⟨state, ran⟩ := Bool.and_eq_true_iff.1 shown
  obtain ⟨⟨reply, last⟩, performed⟩ := Option.isSome_iff_exists.1 ran
  have reached := Container.reachable_of_serve (.start []) served
  obtain ⟨handed, _, ordered⟩ := reached.dependents_disposed_first .refl
  have orderly := reached.orderly
  have formed := reached.wellFormed
  split at told
  · rename_i frame dependent made engine key owner value _ _ _ _ _ _ another dependency other
      _ _ _ inner _ _ _ outer journal
    simp only [Bool.and_eq_true, beq_iff_eq] at told
    obtain ⟨⟨⟨rfl, rfl⟩, first⟩, second⟩ := told
    have taken : .entrusted frame dependent made true :: _ <:+ world.journal :=
      ⟨[_, _, _], journal.symm⟩
    have needed : .entrusted another dependency other true :: _ <:+ world.journal :=
      ⟨[_, _, _, _, _, _, _], journal.symm⟩
    obtain ⟨user, rfl, outermost⟩ := orderly.entrusted taken
    obtain ⟨maker, rfl, innermost⟩ := orderly.entrusted needed
    have obtained : .obtained engine key owner value :: _ <:+ world.journal :=
      ⟨[_, _, _, _], journal.symm⟩
    obtain ⟨source, _, ⟨before, completed, last⟩, obtains⟩ := handed _ _ _ _ _ obtained
    have same : source = maker := by
      obtain here | inside := List.suffix_cons_iff.1 (suffix_tail completed (by simp))
      · cases here
        exact Option.some.inj (last.symm.trans innermost.innermost)
      · have none := suffix_tail (suffix_tail (suffix_tail inside (by simp)) (by simp)) (by simp)
        cases List.suffix_nil.1 none
    subst same
    have uses : Obtains world.journal user source :=
      obtains user (List.mem_of_getLast? outermost.innermost)
    cases outermost.innermost
    cases innermost.innermost
    have opened := of_decide_eq_true state
    obtain ⟨_, disposes⟩ := ordered 1 _ _ dependent dependency (.single uses)
      ⟨_, _, taken, rfl⟩
      (formed.ledger.mem_bag.2 ⟨opened, _, _, taken.subset List.mem_cons_self, rfl⟩)
      ⟨_, _, needed, rfl⟩
      (formed.ledger.mem_bag.2 ⟨opened, _, _, needed.subset List.mem_cons_self, rfl⟩)
    obtain ⟨events, grown, order⟩ := disposes 2 .sync reply _ performed first second
    exact ⟨world, _, _, dependent, dependency, reply, _, events, served, uses, ⟨_, _, taken, rfl⟩,
      ⟨_, _, needed, rfl⟩, performed, grown, order⟩
  · cases told

end World
end ServiceContainer
