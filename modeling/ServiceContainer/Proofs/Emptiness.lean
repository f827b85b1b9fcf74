import Mathlib.Data.List.Infix
import ServiceContainer.Proofs.Closings
import ServiceContainer.Proofs.Execution.Unfolding
import ServiceContainer.Proofs.Nesting

/-! What disposed scopes hold. The caches of scopes are emptied when their disposal ends, but what is
underway then goes on. Main statement: a disposed scope holds nothing unless an instance is begun for
it after its disposal has ended, and that happens only if one was being made for it or for its root
when its disposal ended. -/
namespace ServiceContainer

namespace Event

/-- Whether a scope holds entries after the event, from whether it held some before it. -/
def fill (scope : ScopeId) (filled : Bool) : Event → Bool
  | .entered _ _ location owner => filled || (owner == scope && decide (location ≠ .nowhere))
  | .closed other => filled && other != scope
  | _ => filled

def fills (scope : ScopeId) (event : Event) : Bool := event.fill scope false

def begins? : Event → Option ScopeId
  | .entered _ _ _ owner => some owner
  | _ => none

def moves : Event → Bool
  | .entered _ _ _ _ | .left _ _ => true
  | _ => false

theorem nest_of_still {event : Event} (still : event.moves = false) (begun : Nat)
    (underway : List Construction) : event.nest begun underway = underway := by
  cases event <;> first | rfl | cases still

end Event

/-- Whether a scope has got entries since its cache was emptied last. -/
def filled (scope : ScopeId) (journal : List Event) : Bool :=
  journal.foldr (fun event filled => event.fill scope filled) false

section Journals
variable {scope : ScopeId} {journal later last : List Event}

theorem filled_append {events : List Event}
    (idle : ∀ event ∈ events, ∀ filled, event.fill scope filled = filled) :
    filled scope (events ++ journal) = filled scope journal := by
  induction events with
  | nil => rfl
  | cons event rest ih =>
    refine (idle event List.mem_cons_self _).trans ?_
    exact ih fun other member => idle other (List.mem_cons_of_mem _ member)

/-- After its disposal a scope has entries if and only if it gets some. -/
theorem filled_since {since earlier : List Event} (once : .closed scope ∉ since) :
    filled scope (since ++ .closed scope :: earlier) = since.any (Event.fills scope) := by
  induction since with
  | nil =>
    change (filled scope earlier && scope != scope) = false
    simp
  | cons event rest ih =>
    have fill := ih fun inside => once (List.mem_cons_of_mem _ inside)
    rw [List.cons_append, filled, List.foldr_cons, ← filled, fill, List.any_cons]
    cases event with
    | entered _ _ location owner => simp [Event.fill, Event.fills, Bool.or_comm]
    | closed other =>
      have apart : other ≠ scope := by
        rintro rfl
        exact once List.mem_cons_self
      simp [Event.fill, Event.fills, apart]
    | _ => simp [Event.fill, Event.fills]

theorem underway_append_still {events : List Event}
    (still : ∀ event ∈ events, event.moves = false) :
    underway (events ++ journal) = underway journal := by
  induction events with
  | nil => rfl
  | cons event rest ih =>
    rw [List.cons_append, underway, Event.nest_of_still (still event List.mem_cons_self)]
    exact ih fun other member => still other (List.mem_cons_of_mem _ member)

/-- What is underway at the earlier time is underway until the later time, and nothing else is then. -/
structure Spans (journal later : List Event) : Prop where
  suffix : journal <:+ later
  same : underway later = underway journal
  during : ∀ between, journal <:+ between → between <:+ later →
    underway journal <+: underway between

namespace Spans

theorem of_still (events : List Event) (same : later = events ++ journal)
    (still : ∀ event ∈ events, event.moves = false) : Spans journal later := by
  subst same
  refine ⟨List.suffix_append .., underway_append_still still, fun between after before => ?_⟩
  obtain ⟨some, rfl⟩ := after
  obtain ⟨others, whole⟩ := before
  have within : some <:+ events :=
    ⟨others, List.append_cancel_right ((List.append_assoc ..).trans whole)⟩
  have same : underway (some ++ journal) = underway journal :=
    underway_append_still fun event member => still event (within.subset member)
  exact same ▸ List.prefix_rfl

theorem refl (journal : List Event) : Spans journal journal := of_still [] rfl (by simp)

theorem trans (first : Spans journal later) (second : Spans later last) : Spans journal last := by
  refine ⟨first.suffix.trans second.suffix, second.same.trans first.same,
    fun between after before => ?_⟩
  obtain early | late := List.suffix_or_suffix_of_suffix before second.suffix
  · exact first.during between after early
  · exact (first.same ▸ second.during between late before)

theorem construct {id : EngineId} {key : CacheKey} {location : CacheLocation} {owner : ScopeId}
    (inner : Spans (.entered id key location owner :: journal) later) :
    Spans journal (.left id key :: later) := by
  have begun : underway (.entered id key location owner :: journal) =
    underway journal ++ [⟨⟨id, key, owner⟩, journal.length⟩] := rfl
  have ended : underway (.left id key :: later) = underway journal := by
    change (underway later).dropLast = _
    rw [inner.same, begun, List.dropLast_concat]
  refine ⟨((List.suffix_cons ..).trans inner.suffix).trans (List.suffix_cons ..), ended,
    fun between after before => ?_⟩
  obtain rfl | before := List.suffix_cons_iff.1 before
  · exact ended ▸ List.prefix_rfl
  · obtain early | late := List.suffix_or_suffix_of_suffix before inner.suffix
    · obtain rfl | early := List.suffix_cons_iff.1 early
      · rw [begun]
        exact List.prefix_append ..
      · exact early.eq_of_length_le after.length_le ▸ List.prefix_rfl
    · exact (begun ▸ List.prefix_append ..).trans (inner.during between late before)

end Spans
end Journals

namespace World
variable {confined : Bool} {part : Part} {world later last : World} {scope : ScopeId}

section Underway

theorem Tick.spans (tick : Tick confined part world later) : Spans world.journal later.journal := by
  obtain ⟨events, journal, plain⟩ := tick.journal
  refine .of_still events journal fun event member => ?_
  have still := plain event member
  cases event <;> first | rfl | cases still

theorem spans_notify (id : EngineId) (world : World) (notice : Notice) :
    Spans world.journal (notify id world notice).journal := by
  obtain ⟨events, journal, all⟩ := journal_notify id world notice
  refine .of_still events journal fun event member => ?_
  rw [all event member]
  rfl

theorem Course.spans (course : Course confined part world later) :
    Spans world.journal later.journal := by
  induction course with
  | rest => exact .refl _
  | next _ _ one two => exact one.trans two
  | tick tick => exact tick.spans
  | observe _ _ _ ih => exact ((spans_notify ..).trans ih).trans (spans_notify ..)
  | invoke _ _ _ ih | children _ ih | body _ ih => exact ih
  | construct _ _ _ ih =>
    rw [journal_reserve, journal_enter] at ih
    exact ih.construct
  | @dispose world later scope _ _ _ _ ih =>
    have drained : Spans world.journal (world.drain scope).journal :=
      .of_still [_] rfl (by simp [Event.moves])
    have closed : Spans later.journal (later.close scope).journal :=
      .of_still [_] rfl (by simp [Event.moves])
    exact ((drained.trans ih).trans closed).trans (spans_notify ..)

end Underway

def Serves (world : World) (owner scope : ScopeId) : Prop :=
  owner = scope ∨ ∃ engine, world.shapes[scope]? = some (engine, some owner)

theorem Serves.mono {owner : ScopeId} (serves : world.Serves owner scope)
    (shapes : world.shapes <+: later.shapes) : later.Serves owner scope :=
  serves.imp_right fun ⟨engine, listed⟩ => ⟨engine, getElem?_mono shapes listed⟩

theorem serves_ownerFor (world : World) (location : CacheLocation) (scope : ScopeId) :
    world.Serves (world.ownerFor location scope) scope ∧
      (location ≠ .root → world.ownerFor location scope = scope) := by
  cases location with
  | scope | nowhere => exact ⟨.inl rfl, fun _ => rfl⟩
  | root =>
    refine ⟨?_, fun apart => absurd rfl apart⟩
    change world.Serves ((world.scope scope).root.getD scope) scope
    cases listed : world.scopes[scope]? with
    | none => exact .inl (by rw [scope_of_none listed]; rfl)
    | some found =>
      rw [scope_of_some listed]
      cases above : found.root with
      | none => exact .inl rfl
      | some root =>
        refine .inr ⟨found.engine, ?_⟩
        rw [shapes_getElem?, listed, Option.map_some, Scope.shape, above]
        rfl

/-- The disposal of the scope ended while an instance was being made for it or for its root. -/
def Interrupted (world : World) (scope : ScopeId) (journal : List Event) : Prop :=
  ∃ earlier, .closed scope :: earlier <:+ journal ∧
    ∃ construction ∈ underway earlier, world.Serves construction.frame.owner scope

theorem Interrupted.mono {journal : List Event} (interrupted : world.Interrupted scope journal)
    (shapes : world.shapes <+: later.shapes) {longer : List Event} (suffix : journal <:+ longer) :
    later.Interrupted scope longer := by
  obtain ⟨earlier, closed, construction, member, serves⟩ := interrupted
  exact ⟨earlier, closed.trans suffix, construction, member, serves.mono shapes⟩

/-- Whatever is begun for a scope after its disposal goes on with what that interrupted. -/
def Continues (world : World) : Prop :=
  ∀ id key location scope before, .entered id key location scope :: before <:+ world.journal →
    .closed scope ∈ before → world.Interrupted scope before

/-- A graph is executed for a scope, or an instance is made for it, that is not disposed, or else the
end of its disposal interrupted a construction. -/
def Excused (world : World) : Part → Prop
  | .code => True
  | .graph scope => .closed scope ∈ world.journal → world.Interrupted scope world.journal
  | .making _ _ owner =>
    (∃ construction ∈ underway world.journal, construction.frame.owner = owner) ∧
      (.closed owner ∈ world.journal → world.Interrupted owner world.journal)

theorem Continues.keep (continues : world.Continues) (shapes : world.shapes <+: later.shapes)
    (events : List Event) (journal : later.journal = events ++ world.journal)
    (plain : ∀ event ∈ events, event.begins? = none) : later.Continues := by
  intro id key location scope before entered closed
  obtain old | ⟨new, _⟩ := old_or_new (journal ▸ entered)
  · exact (continues id key location scope before old closed).mono shapes List.suffix_rfl
  · cases plain _ new

theorem Continues.steady (continues : world.Continues) (excused : world.Excused part)
    (shapes : world.shapes <+: later.shapes) {events : List Event}
    (journal : later.journal = events ++ world.journal)
    (plain : ∀ event ∈ events, event.frames = false) : later.Continues ∧ later.Excused part := by
  have quiet : ∀ event ∈ events,
      event.begins? = none ∧ event.moves = false ∧ event.closed? = none := by
    intro event member
    have plain := plain event member
    cases event <;> first | exact ⟨rfl, rfl, rfl⟩ | cases plain
  refine ⟨continues.keep shapes events journal fun event member => (quiet event member).1, ?_⟩
  have suffix : world.journal <:+ later.journal := ⟨events, journal.symm⟩
  have old : ∀ {scope}, .closed scope ∈ later.journal → .closed scope ∈ world.journal := by
    intro scope closed
    rw [journal] at closed
    refine (List.mem_append.1 closed).resolve_left fun new => ?_
    cases (quiet _ new).2.2
  cases part with
  | code => trivial
  | graph scope => exact fun closed => (excused (old closed)).mono shapes suffix
  | making id site owner =>
    obtain ⟨making, interrupted⟩ := excused
    refine ⟨?_, fun closed => (interrupted (old closed)).mono shapes suffix⟩
    rwa [journal, underway_append_still fun event member => (quiet event member).2.1]

theorem Continues.notify (continues : world.Continues) (excused : world.Excused part)
    (id : EngineId) (notice : Notice) :
    (World.notify id world notice).Continues ∧ (World.notify id world notice).Excused part := by
  obtain ⟨events, journal, all⟩ := journal_notify id world notice
  refine continues.steady excused (shapes_notify id world notice ▸ List.prefix_rfl) journal
    fun event member => ?_
  rw [all event member]
  rfl

/-- A scope is closed, while an instance is being made for it or for its root. -/
theorem interrupted_of_spans {construction : Construction} (spans : Spans world.journal later.journal)
    (making : construction ∈ underway world.journal)
    (serves : later.Serves construction.frame.owner scope)
    (before : .closed scope ∈ world.journal → later.Interrupted scope later.journal)
    (closed : .closed scope ∈ later.journal) : later.Interrupted scope later.journal := by
  obtain ⟨events, journal⟩ := spans.suffix
  obtain ⟨since, earlier, split⟩ := List.append_of_mem closed
  have happened : .closed scope :: earlier <:+ events ++ world.journal :=
    ⟨since, by rw [journal, split]⟩
  obtain old | ⟨_, between, same⟩ := old_or_new happened
  · exact before (old.subset List.mem_cons_self)
  · have after : world.journal <:+ earlier := ⟨between, same.symm⟩
    have sooner : earlier <:+ later.journal :=
      ⟨since ++ [.closed scope], by rw [split, List.append_assoc]; rfl⟩
    exact ⟨earlier, ⟨since, split.symm⟩, construction,
      (spans.during earlier after sooner).subset making, serves⟩

theorem Over.open (past : world.Over) (opened : (world.scope scope).state = .open) :
    .closed scope ∉ world.journal := by
  intro closed
  cases opened.symm.trans (past scope (mem_closings.2 closed)).2

theorem Continues.enter (continues : world.Continues) {id : EngineId} {site : Site} {owner : ScopeId}
    (belated : .closed owner ∈ world.journal → world.Interrupted owner world.journal) :
    ((world.enter id site owner).reserve site owner).Continues := by
  have begun : ((world.enter id site owner).reserve site owner).journal =
      .entered id site.key site.location owner :: world.journal := by simp
  have shapes : world.shapes <+: ((world.enter id site owner).reserve site owner).shapes := by simp
  intro other key location another before happened closed
  rw [begun] at happened
  obtain new | old := List.suffix_cons_iff.1 happened
  · obtain ⟨same, rfl⟩ := List.cons.inj new
    cases same
    exact (belated closed).mono shapes List.suffix_rfl
  · exact (continues other key location another before old closed).mono shapes List.suffix_rfl

/-- Nothing is begun for a disposed scope unless the end of its disposal interrupted a
construction. -/
theorem Course.continues (course : Course confined part world later) (past : world.Over)
    (continues : world.Continues) (excused : world.Excused part) :
    later.Continues ∧ later.Excused part := by
  induction course with
  | rest => exact ⟨continues, excused⟩
  | next first _ one two =>
    obtain ⟨continues, excused⟩ := one past continues excused
    exact two (first.over past) continues excused
  | tick tick =>
    obtain ⟨events, journal, plain⟩ := tick.journal
    exact continues.steady excused tick.shapes journal plain
  | observe _ _ _ ih =>
    obtain ⟨continues, excused⟩ := continues.notify excused _ _
    obtain ⟨continues, excused⟩ := ih (past.notify _ _) continues excused
    exact continues.notify excused _ _
  | @invoke world later scope opened own inner ih =>
    have unclosed := past.open opened
    exact ⟨(ih past continues fun closed => absurd closed unclosed).1, trivial⟩
  | children inner ih =>
    obtain ⟨continues, interrupted⟩ := ih past continues excused.2
    refine ⟨continues, ?_, interrupted⟩
    rw [inner.spans.same]
    exact excused.1
  | body inner ih =>
    obtain ⟨continues, _⟩ := ih past continues trivial
    obtain ⟨⟨construction, making, rfl⟩, interrupted⟩ := excused
    refine ⟨continues, ⟨construction, inner.spans.same ▸ making, rfl⟩, ?_⟩
    exact interrupted_of_spans inner.spans making (.inl rfl) fun closed =>
      (interrupted closed).mono inner.shapes inner.spans.suffix
  | @construct world later scope owner id site owned rooted inner ih =>
    have serves := world.serves_ownerFor site.location scope
    rw [owned] at serves
    -- The root is open when a singleton is begun, so a disposed owner is the scope itself.
    have belated : .closed owner ∈ world.journal → world.Interrupted owner world.journal := by
      intro closed
      by_cases top : site.location = .root
      · exact absurd closed (past.open (rooted top))
      · rw [serves.2 top] at closed ⊢
        exact excused closed
    have begun : ((world.enter id site owner).reserve site owner).journal =
        .entered id site.key site.location owner :: world.journal := by simp
    have shapes : world.shapes <+: ((world.enter id site owner).reserve site owner).shapes := by simp
    have grown : world.shapes <+: later.shapes := shapes.trans inner.shapes
    have making : (⟨⟨id, site.key, owner⟩, world.journal.length⟩ : Construction) ∈
        underway ((world.enter id site owner).reserve site owner).journal := by
      rw [begun]
      exact List.mem_append_right _ (List.mem_singleton_self _)
    obtain ⟨continues, _⟩ := ih (past.enter _ _ _) (continues.enter belated)
      ⟨⟨_, making, rfl⟩, fun closed => by
        rw [begun] at closed ⊢
        exact (belated (List.mem_of_ne_of_mem Event.noConfusion closed)).mono shapes
          (List.suffix_cons ..)⟩
    refine ⟨continues.keep List.prefix_rfl [_] rfl (by simp [Event.begins?]), ?_⟩
    intro closed
    have inside : .closed scope ∈ later.journal := List.mem_of_ne_of_mem Event.noConfusion closed
    refine Interrupted.mono (interrupted_of_spans inner.spans making (serves.1.mono grown)
      (fun before => ?_) inside) List.prefix_rfl (List.suffix_cons ..)
    rw [begun] at before
    refine (excused (List.mem_of_ne_of_mem Event.noConfusion before)).mono grown ?_
    exact (begun ▸ List.suffix_cons ..).trans inner.journal
  | @dispose world later scope disposed free opened inner ih =>
    have drained : (world.drain scope).Continues :=
      continues.keep (by simp) [_] rfl (by simp [Event.begins?])
    obtain ⟨continues, _⟩ := ih (past.drain opened) drained trivial
    have closed : (later.close scope).Continues :=
      continues.keep (by simp) [_] rfl (by simp [Event.begins?])
    have excused : (later.close scope).Excused .code := trivial
    exact closed.notify excused _ _

theorem Reachable.over (reached : world.Reachable) : world.Over :=
  fun scope listed => (reached.closes.closed scope).1 listed

theorem Reachable.continues (reached : world.Reachable) : world.Continues := by
  induction reached with
  | start metrics =>
    intro id key location scope before happened
    simpa using happened.length_le
  | build _ built ih =>
    obtain ⟨engine, _, rfl⟩ := Container.exists_of_build built
    exact ih.keep ((List.prefix_append _ _).map Scope.shape) [] rfl (by simp)
  | run reached ran ih =>
    exact ((Container.course_of_run reached.sound ran).continues reached.over ih trivial).1
  | @graph world later id service result reached asked ih =>
    rw [Run.run_onEngine] at asked
    cases asked
    have course : Course false .code world _ := .tick (.ask id (.graph service))
    exact (course.continues reached.over ih trivial).1

section Entries

theorem entries_eq_nil_iff : (world.scope scope).cache.entries = [] ↔
    ∀ cell : Frame, cell.owner = scope → world.cached cell = none := by
  constructor
  · rintro empty cell rfl
    rw [World.cached]
    split
    · rw [Table.lookup, empty]
      rfl
    · rfl
  · intro absent
    cases listed : (world.scope scope).cache.entries with
    | nil => rfl
    | cons entry rest =>
      have none := absent ⟨(world.scope scope).engine, entry.1, scope⟩ rfl
      rw [World.cached, if_pos rfl, Table.lookup, listed,
        List.find?_cons_of_pos (by simp)] at none
      cases none

def Filled (world : World) : Prop :=
  ∀ scope, (world.scope scope).cache.entries = [] ↔ filled scope world.journal = false

theorem Filled.keep (told : world.Filled) (events : List Event)
    (journal : later.journal = events ++ world.journal)
    (idle : ∀ event ∈ events, ∀ scope filled, event.fill scope filled = filled)
    (same : ∀ cell, later.cached cell = none ↔ world.cached cell = none) : later.Filled := by
  intro scope
  rw [journal, filled_append fun event member => idle event member scope, ← told scope,
    entries_eq_nil_iff, entries_eq_nil_iff]
  exact forall_congr' fun cell => imp_congr_right fun _ => same cell

theorem cached_begin_other {site : Site} {owner : ScopeId} {cell : Frame}
    (hosted : world.Hosts owner (world.scope owner).engine)
    (other : owner = cell.owner → ¬site.location ≠ .nowhere) :
    (world.begin site owner).cached cell = world.cached cell := by
  by_cases here : (world.frame site owner == cell) = true
  · have unkept := not_not.1 (other (Frame.beq_iff.1 here).2.2)
    rw [World.begin, World.reserve, if_pos unkept]
    rfl
  · exact cached_begin_of_ne hosted (Bool.eq_false_iff.2 here)

theorem Step.filled (step : world.Step later) (told : world.Filled) : later.Filled := by
  cases step using Step.casesAside with
  | aside _ aside =>
    obtain ⟨events, journal, idle⟩ := aside.journal
    refine told.keep events journal (fun event member scope filled => ?_)
      fun cell => by rw [aside.cached]
    have idle := idle event member
    cases event <;> first | rfl | cases idle
  | @close closed disposing _ =>
    have hosted : world.Hosts closed (world.scope closed).engine := .of_state (by simp [disposing])
    intro scope
    rw [entries_eq_nil_iff]
    change _ ↔ (ServiceContainer.filled scope world.journal && closed != scope) = false
    by_cases here : closed = scope
    · subst here
      refine iff_of_true (fun cell owned => ?_) (by simp)
      rw [cached_close hosted, if_pos owned]
    · rw [bne_iff_ne.2 here, Bool.and_true, ← told scope, entries_eq_nil_iff]
      refine forall_congr' fun cell => imp_congr_right fun owned => ?_
      rw [cached_close hosted, if_neg fun mine => here (mine.symm.trans owned)]
  | @enter callSite owner offered _ _ _ _ =>
    intro scope
    rw [journal_begin, ServiceContainer.filled, List.foldr_cons, ← ServiceContainer.filled]
    by_cases gets : owner = scope ∧ callSite.site.location ≠ .nowhere
    · obtain ⟨rfl, kept⟩ := gets
      refine iff_of_false (fun empty => ?_) (by simp [Event.fill, kept])
      have none := entries_eq_nil_iff.1 empty (world.frame callSite.site owner) rfl
      rw [cached_begin offered.hosts kept] at none
      cases none
    · have unfilled : (Event.entered (world.scope owner).engine callSite.site.key
          callSite.site.location owner).fill scope (ServiceContainer.filled scope world.journal) =
          ServiceContainer.filled scope world.journal := by
        have lacks : (owner == scope && decide (callSite.site.location ≠ .nowhere)) = false := by
          simpa [Bool.and_eq_false_iff] using fun same => not_not.1 fun kept => gets ⟨same, kept⟩
        rw [Event.fill, lacks, Bool.or_false]
      rw [unfilled, ← told scope, entries_eq_nil_iff, entries_eq_nil_iff]
      refine forall_congr' fun cell => imp_congr_right fun owned => ?_
      rw [cached_begin_other offered.hosts fun same kept => gets ⟨same.trans owned, kept⟩]
  | @complete site owner value making =>
    refine told.keep [_, _] (journal_finish ..) (by simp [Event.fill]) fun cell => ?_
    by_cases unkept : site.location = .nowhere
    · rw [World.finish, World.complete, World.keep, if_pos unkept]
      exact Iff.rfl
    · by_cases here : (world.frame site owner == cell) = true
      · rw [← cached_congr here, ← cached_congr here, cached_finish making.hosted unkept]
        exact Option.map_eq_none_iff
      · rw [cached_finish_of_ne making.hosted (Bool.eq_false_iff.2 here)]
  | leave _ | handOut _ =>
    exact told.keep [_] rfl (by simp [Event.fill]) fun _ => Iff.rfl

theorem Steps.filled (steps : world.Steps later) (told : world.Filled) : later.Filled := by
  induction steps with
  | refl => exact told
  | tail _ step ih => exact step.filled ih

theorem Reachable.filled (reached : world.Reachable) : world.Filled := by
  obtain ⟨metrics, steps, _⟩ := reached.steps
  refine steps.filled fun scope => ?_
  exact iff_of_true rfl rfl

end Entries

theorem Closes.apart (closes : world.Closes) {since earlier : List Event}
    (split : world.journal = since ++ .closed scope :: earlier) :
    .closed scope ∉ since ∧ .closed scope ∉ earlier := by
  have once := List.nodup_reverse.1 closes.once
  have closed : Event.closed? (.closed scope) = some scope := rfl
  rw [split, List.filterMap_append, List.filterMap_cons_some closed] at once
  have read : ∀ {events : List Event}, .closed scope ∈ events →
      scope ∈ events.filterMap Event.closed? := fun member =>
    List.mem_filterMap.2 ⟨_, member, closed⟩
  obtain ⟨_, after, apart⟩ := List.nodup_append.1 once
  exact ⟨fun inside => apart scope (read inside) scope List.mem_cons_self rfl,
    fun inside => (List.nodup_cons.1 after).1 (read inside)⟩

theorem Serves.of_later {owner : ScopeId} (serves : later.Serves owner scope)
    (shapes : world.shapes <+: later.shapes) (hosted : scope < world.shapes.length) :
    world.Serves owner scope := by
  refine serves.imp_right fun ⟨engine, listed⟩ => ⟨engine, ?_⟩
  obtain ⟨more, grown⟩ := shapes
  rwa [← grown, List.getElem?_append_left hosted] at listed

theorem Filled.since (told : world.Filled) (closes : world.Closes) {since earlier : List Event}
    (split : world.journal = since ++ .closed scope :: earlier) :
    (world.scope scope).cache.entries = [] ↔ ∀ event ∈ since, event.fills scope = false := by
  rw [told scope, split, filled_since (closes.apart split).1]
  simp [List.any_eq_false]

/-- What a closed scope gets, it gets as what was interrupted goes on. -/
theorem Continues.unfilled (continues : last.Continues) (closes : last.Closes)
    {since earlier : List Event} (split : last.journal = since ++ .closed scope :: earlier)
    (free : ∀ construction ∈ underway earlier, ¬last.Serves construction.frame.owner scope) :
    ∀ event ∈ since, event.fills scope = false := by
  intro event member
  rw [Bool.eq_false_iff]
  intro fills
  obtain ⟨outside, never⟩ := closes.apart split
  obtain ⟨recent, former, rfl⟩ := List.append_of_mem member
  cases event with
  | entered id key location owner =>
    have mine : owner = scope := eq_of_beq (Bool.and_eq_true_iff.1 fills).1
    subst mine
    have entered : .entered id key location owner :: (former ++ .closed owner :: earlier) <:+
        last.journal := ⟨recent, by rw [split, List.append_assoc]; rfl⟩
    obtain ⟨past, closed, construction, making, serves⟩ :=
      continues id key location owner _ entered (by simp)
    have same : past = earlier := by
      obtain old | ⟨new, _⟩ := old_or_new closed
      · obtain same | inside := List.suffix_cons_iff.1 old
        · exact (List.cons.inj same).2
        · exact absurd (inside.subset List.mem_cons_self) never
      · exact absurd (List.mem_append_right _ (List.mem_cons_of_mem _ new)) outside
    exact free construction (same ▸ making) serves
  | _ => cases fills

/-- At any time of any run, a disposed scope has been closed, and it holds nothing if and only if no
instance that it would keep was begun for it since. If no instance was being made for it or for its
root when it was closed, then in a run that comes to rest it holds nothing from then on. -/
theorem Reachable.disposed_empty {before : World} (reached : before.Reachable)
    (steps : before.Steps world) (hosted : scope < world.shapes.length)
    (disposed : (world.scope scope).state = .disposed) :
    .closed scope ∈ world.journal ∧
    ∀ since earlier, world.journal = since ++ .closed scope :: earlier →
      ((world.scope scope).cache.entries = [] ↔ ∀ event ∈ since, event.fills scope = false) ∧
      ((∀ construction ∈ underway earlier, ¬world.Serves construction.frame.owner scope) →
        ∀ later last, world.Steps later → later.Steps last → last.Reachable →
          (later.scope scope).state = .disposed ∧ (later.scope scope).cache.entries = []) := by
  have closes := steps.closes reached.closes
  have filled := steps.filled reached.filled
  have closed := (closes.closed scope).2 ⟨hosted, disposed⟩
  refine ⟨mem_closings.1 closed, fun since earlier split =>
    ⟨filled.since closes split, fun free later last onward rest ended => ?_⟩⟩
  have shapes := (Steps.extends (onward.trans rest)).shapes
  obtain ⟨others, same⟩ := (Steps.extends onward).journal
  obtain ⟨more, grown⟩ := (Steps.extends rest).journal
  have journal : later.journal = (others ++ since) ++ .closed scope :: earlier := by
    rw [← same, split, List.append_assoc]
  have whole : last.journal = (more ++ (others ++ since)) ++ .closed scope :: earlier := by
    rw [← grown, journal, List.append_assoc more]
  have unfilled := ended.continues.unfilled ended.closes whole
    fun construction making serves => free construction making (serves.of_later shapes hosted)
  have closes := Steps.closes closes onward
  refine ⟨((closes.closed scope).1 (mem_closings.2 (by simp [journal]))).2, ?_⟩
  exact ((Steps.filled onward filled).since closes journal).2 fun event member =>
    unfilled event (List.mem_append_right _ member)

section Sample

def rested (world : World) : Bool :=
  decide (1 < world.shapes.length) && decide ((world.scope 1).state = .disposed) &&
    world.journal.tails.all fun journal => match journal with
      | .closed 1 :: earlier => (underway earlier).isEmpty
      | _ => true

def holding (world : World) : Bool :=
  decide (1 < world.shapes.length) && decide ((world.scope 1).state = .disposed) &&
    !(world.scope 1).cache.entries.isEmpty

end Sample

/-- A scope that is disposed by its client holds nothing, though it held an instance. -/
theorem disposed_empty_leaving :
    ∃ world, Container.serve 2 (disposing .scoped) {} [] (leaving [kept]) {} =
        .ok (some ((), world)) ∧
      (world.scope 1).state = .disposed ∧ (world.scope 1).cache.entries = [] := by
  obtain ⟨world, served, shown⟩ := exists_of_served
    (Container.serve 2 (disposing .scoped) {} [] (leaving [kept]) {}) rested (by decide +kernel)
  obtain ⟨shown, idle⟩ := Bool.and_eq_true_iff.1 shown
  obtain ⟨inside, disposed⟩ := Bool.and_eq_true_iff.1 shown
  have reached := Container.reachable_of_serve (.start []) served
  obtain ⟨closed, empty⟩ := reached.disposed_empty .refl (of_decide_eq_true inside)
    (of_decide_eq_true disposed)
  obtain ⟨since, earlier, split⟩ := List.append_of_mem closed
  have quiet : underway earlier = [] := by
    have found := List.all_eq_true.1 idle (.closed 1 :: earlier)
      ((List.mem_tails ..).2 ⟨since, split.symm⟩)
    exact List.isEmpty_iff.1 found
  have held := (empty since earlier split).2 (by simp [quiet]) world world .refl .refl reached
  exact ⟨world, served, held⟩

/-- A scope that is disposed by a factory in the middle of a resolution goes on to be used for it, and
holds the instance that is made for it then. -/
theorem disposed_holding :
    ∃ world, Container.serve 2 (disposing .scoped) {} [] (resolving [user]) {} =
        .ok (some ((), world)) ∧ 1 < world.shapes.length ∧
      (world.scope 1).state = .disposed ∧ (world.scope 1).cache.entries ≠ [] := by
  obtain ⟨world, served, shown⟩ := exists_of_served
    (Container.serve 2 (disposing .scoped) {} [] (resolving [user]) {}) holding (by decide +kernel)
  obtain ⟨shown, holds⟩ := Bool.and_eq_true_iff.1 shown
  obtain ⟨inside, disposed⟩ := Bool.and_eq_true_iff.1 shown
  refine ⟨world, served, of_decide_eq_true inside, of_decide_eq_true disposed, fun empty => ?_⟩
  rw [empty] at holds
  cases holds

end World
end ServiceContainer
