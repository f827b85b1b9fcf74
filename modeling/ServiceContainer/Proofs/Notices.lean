import ServiceContainer.Proofs.Closings
import ServiceContainer.Proofs.Engine.Announcement
import ServiceContainer.Proofs.Execution.Unfolding
import ServiceContainer.Proofs.Nesting

/-! What observers are told. Main statement: in every run, resolutions are told as they nest, each
service is announced once, before it is resolved, and each disposal that ends is told once. -/
namespace ServiceContainer

namespace Notice

def opens? : Notice → Option ServiceType
  | .resolving service => some service
  | _ => none

def builds? : Notice → Option ServiceType
  | .built _ service _ => some service
  | _ => none

def disposes? : Notice → Option Bool
  | .scopeDisposed isRoot _ => some isRoot
  | _ => none

def aside (notice : Notice) : Bool := notice.opens?.isNone && notice.ends?.isNone

end Notice

/-- Every resolution that begins ends, the one that began last first, and none ends that did not
begin. -/
inductive Bracketed : List Notice → Prop where
  | nil : Bracketed []
  | aside {notice : Notice} {rest : List Notice} (aside : notice.aside = true)
      (after : Bracketed rest) : Bracketed (notice :: rest)
  | span {service : ServiceType} {inner rest : List Notice} {ending : Notice}
      (within : Bracketed inner) (ends : ending.ends? = some service) (after : Bracketed rest) :
      Bracketed (.resolving service :: (inner ++ ending :: rest))

namespace Bracketed
variable {one other : List Notice}

theorem append (first : Bracketed one) (second : Bracketed other) : Bracketed (one ++ other) := by
  induction first with
  | nil => exact second
  | aside aside _ ih => exact .aside aside ih
  | span within ends _ _ ih =>
    rw [List.cons_append, List.append_assoc, List.cons_append]
    exact .span within ends ih

theorem of_aside (aside : ∀ notice ∈ one, notice.aside = true) : Bracketed one := by
  induction one with
  | nil => exact .nil
  | cons notice rest ih =>
    exact .aside (aside notice List.mem_cons_self)
      (ih fun other member => aside other (List.mem_cons_of_mem _ member))

theorem count (bracketed : Bracketed one) (service : ServiceType) :
    one.countP (·.opens?.any (· == service)) = one.countP (·.ends?.any (· == service)) := by
  induction bracketed with
  | nil => rfl
  | @aside notice rest aside _ ih =>
    simp only [Notice.aside, Bool.and_eq_true, Option.isNone_iff_eq_none] at aside
    rw [List.countP_cons, List.countP_cons, ih, aside.1, aside.2]
  | @span begun inner rest ending _ ends _ one two =>
    have silent : ending.opens? = none := by
      cases ending <;> first | rfl | cases ends
    have opens : (Notice.resolving begun).opens? = some begun := rfl
    have begins : (Notice.resolving begun).ends? = none := rfl
    simp only [List.countP_cons, List.countP_append, one, two, ends, silent, opens, begins]
    simp only [Option.any_some, Option.any_none, Bool.false_eq_true, if_false]
    omega

end Bracketed

def Event.notice? (watched : EngineId → Bool) : Event → Option Notice
  | .notified id notice => if watched id then some notice else none
  | _ => none

theorem Event.notice?_eq_some {watched : EngineId → Bool} {event : Event} {notice : Notice} :
    event.notice? watched = some notice ↔ ∃ id, watched id = true ∧ event = .notified id notice := by
  cases event with
  | notified id sent =>
    rw [notice?]
    constructor
    · split
      · rename_i here
        rintro ⟨⟩
        exact ⟨id, here, rfl⟩
      · rintro ⟨⟩
    · rintro ⟨_, here, ⟨⟩⟩
      rw [if_pos here]
  | _ => simp [notice?]

namespace World
variable {world later : World} {watched : EngineId → Bool}

/-- What the observers of the watched providers have been told, in that order. -/
def notices (world : World) (watched : EngineId → Bool) : List Notice :=
  (world.journal.filterMap (Event.notice? watched)).reverse

def observed (world : World) (id : EngineId) : Bool := !(world.engine id).observers.isEmpty

section Journals

theorem mem_notices {notice : Notice} :
    notice ∈ world.notices watched ↔
      ∃ id, watched id = true ∧ .notified id notice ∈ world.journal := by
  simp only [notices, List.mem_reverse, List.mem_filterMap, Event.notice?_eq_some]
  constructor
  · rintro ⟨_, member, id, here, rfl⟩
    exact ⟨id, here, member⟩
  · rintro ⟨id, here, member⟩
    exact ⟨_, member, id, here, rfl⟩

theorem notices_of_journal {events : List Event} (journal : later.journal = events ++ world.journal) :
    later.notices watched =
      world.notices watched ++ (events.filterMap (Event.notice? watched)).reverse := by
  rw [notices, journal, List.filterMap_append, List.reverse_append]
  rfl

theorem notices_silent (events : List Event) (journal : later.journal = events ++ world.journal)
    (silent : ∀ event ∈ events, event.notice? watched = none) :
    later.notices watched = world.notices watched := by
  rw [notices, notices, reads_journal journal silent]

theorem journal_sent (id : EngineId) (notices : List Notice) (world : World) :
    (notices.foldl (notify id) world).journal =
      (if world.observed id then (notices.map (Event.notified id)).reverse else []) ++
        world.journal := by
  have counted : ∀ (notice : Notice) (observers : List Observer) (world : World),
      (observers.foldl (count · notice) world).journal = world.journal := by
    intro notice observers
    induction observers with
    | nil => exact fun _ => rfl
    | cons observer rest ih =>
      intro world
      rw [List.foldl_cons, ih]
      cases observer <;> rfl
  induction notices generalizing world with
  | nil => simp
  | cons notice rest ih =>
    have told : (notify id world notice).journal =
        (if world.observed id then [.notified id notice] else []) ++ world.journal := by
      unfold notify observed
      cases (world.engine id).observers with
      | nil => rfl
      | cons observer others => exact counted notice _ _
    have same : (notify id world notice).observed id = world.observed id := by
      rw [observed, observed, engine, engine, engines_notify]
    rw [List.foldl_cons, ih, told, same]
    cases world.observed id <;> simp

theorem notices_sent (id : EngineId) (notices : List Notice) (world : World) :
    (notices.foldl (notify id) world).notices watched = world.notices watched ++
      if watched id && world.observed id then notices else [] := by
  rw [notices_of_journal (journal_sent id notices world)]
  congr 1
  cases world.observed id with
  | false => simp
  | true =>
    cases here : watched id with
    | false => simp [here, Event.notice?]
    | true =>
      simp only [if_true, Bool.and_self, List.filterMap_reverse, List.reverse_reverse,
        List.filterMap_map]
      exact (List.filterMap_congr fun notice _ => by simp [Event.notice?, here]).trans
        List.filterMap_some

theorem notices_notify (id : EngineId) (world : World) (notice : Notice) :
    (notify id world notice).notices watched = world.notices watched ++
      if watched id && world.observed id then [notice] else [] :=
  notices_sent id [notice] world

theorem journal_withEngine {id : EngineId} {engine : Engine}
    (observers : engine.observers = (world.engine id).observers) :
    (world.withEngine id engine).journal =
      (if world.observed id then (engine.outbox.map (Event.notified id)).reverse else []) ++
        world.journal := by
  have same : (world.updateEngine id fun _ => { engine with outbox := [] }).observed id =
      world.observed id := by
    have known := engine_withEngine world id id engine
    rw [withEngine, World.engine, engines_sent] at known
    rw [World.observed, World.observed, World.engine, known]
    split
    · rw [← observers]
    · rfl
  rw [← same]
  exact journal_sent ..

theorem notices_withEngine {id : EngineId} {engine : Engine}
    (observers : engine.observers = (world.engine id).observers) :
    (world.withEngine id engine).notices watched = world.notices watched ++
      if watched id && world.observed id then engine.outbox else [] := by
  rw [notices_of_journal (journal_withEngine observers),
    ← notices_of_journal (journal_sent id engine.outbox world)]
  exact notices_sent ..

end Journals

/-- All that happened has been told to the observers, and to them only what happened. -/
structure Told (world : World) : Prop where
  sent : ∀ id, (world.engine id).outbox = []
  published : ∀ id, (world.engine id).Published
  unheard : ∀ id, world.observed id = false → world.notices (· == id) = []
  built : ∀ id, world.observed id = true →
    (world.notices (· == id)).filter (·.builds?.isSome) =
      (world.engine id).realizations.map (·.callSite.announcement)
  heralded : ∀ id service earlier, .notified id (.resolving service) :: earlier <:+ world.journal →
    ∃ kind lifetime, .notified id (.built kind service lifetime) ∈ earlier
  placed : ∀ scope ∈ world.closings, scope < world.shapes.length
  disposed : ∀ id, world.observed id = true →
    (world.notices (· == id)).filterMap Notice.disposes? =
      (world.closings.filter fun scope => (world.scope scope).engine == id).map world.isRoot

theorem same_shape_of_grown (kept : world.shapes <+: later.shapes) {scope : ScopeId}
    (inside : scope < world.shapes.length) :
    (later.scope scope).shape = (world.scope scope).shape := by
  have shaped : ∀ {world : World}, scope < world.shapes.length →
      world.shapes[scope]? = some (world.scope scope).shape := by
    intro world inside
    have listed : scope < world.scopes.length := by simpa [shapes] using inside
    rw [shapes_getElem?, scope_of_some (List.getElem?_eq_getElem listed),
      List.getElem?_eq_getElem listed]
    rfl
  have still := getElem?_mono kept (shaped inside)
  exact Option.some.inj ((shaped (Nat.lt_of_lt_of_le inside kept.length_le)).symm.trans still)

theorem shape_of_grown (kept : world.shapes <+: later.shapes) {scope : ScopeId}
    (inside : scope < world.shapes.length) :
    (later.scope scope).engine = (world.scope scope).engine ∧
      later.isRoot scope = world.isRoot scope :=
  have same := same_shape_of_grown kept inside
  ⟨congrArg Prod.fst same, congrArg (·.2.isNone) same⟩

/-- The notice for the observers of a provider tells neither of a realization nor of the end of a
scope, nor of the resolution of a service whose realization had not been told. -/
structure Plain (world : World) (id : EngineId) (notice : Notice) : Prop where
  observed : world.observed id = true
  builds : notice.builds? = none
  disposes : notice.disposes? = none
  opens : ∀ service, notice.opens? = some service → ∃ kind lifetime,
    .notified id (.built kind service lifetime) ∈ world.journal

theorem Plain.of_ends {id : EngineId} (observed : world.observed id = true) {notice : Notice}
    {service : ServiceType} (ends : notice.ends? = some service) : world.Plain id notice := by
  cases notice with
  | resolved _ _ | failed _ _ => exact ⟨observed, rfl, rfl, by rintro _ ⟨⟩⟩
  | resolving _ | built _ _ _ | scopeDisposed _ _ => cases ends

namespace Told
variable (told : world.Told)
include told

theorem ends (shapes : world.shapes <+: later.shapes) (id : EngineId) :
    (world.closings.filter fun scope => (later.scope scope).engine == id).map later.isRoot =
      (world.closings.filter fun scope => (world.scope scope).engine == id).map world.isRoot := by
  have settled := fun scope listed => shape_of_grown shapes (told.placed scope listed)
  rw [List.filter_congr fun scope listed => by rw [(settled scope listed).1]]
  exact List.map_congr_left fun scope listed => (settled scope (List.mem_filter.1 listed).1).2

theorem keep (engines : later.engines = world.engines)
    (shapes : world.shapes <+: later.shapes) (events : List Event)
    (journal : later.journal = events ++ world.journal)
    (open_ : ∀ event ∈ events, event.closed? = none)
    (plain : ∀ event ∈ events, ∀ id notice, event = .notified id notice → world.Plain id notice) :
    later.Told := by
  have same : ∀ id, later.engine id = world.engine id := fun id => by
    rw [engine, engine, engines]
  have observed : ∀ id, later.observed id = world.observed id := fun id => by
    rw [World.observed, World.observed, same]
  have closings : later.closings = world.closings := closings_of_journal events journal open_
  have new : ∀ id, ∀ notice ∈ (events.filterMap (Event.notice? (· == id))).reverse,
      world.Plain id notice := by
    intro id notice listed
    obtain ⟨event, member, read⟩ := List.mem_filterMap.1 (List.mem_reverse.1 listed)
    obtain ⟨other, here, rfl⟩ := Event.notice?_eq_some.1 read
    exact eq_of_beq here ▸ plain _ member _ _ rfl
  refine ⟨fun id => ?_, fun id => ?_, fun id unwatched => ?_, fun id watched => ?_,
    fun id service earlier happened => ?_, fun scope listed => ?_, fun id watched => ?_⟩
  · rw [same, told.sent]
  · rw [same]
    exact told.published id
  · rw [observed] at unwatched
    rw [notices_of_journal journal, told.unheard id unwatched, List.nil_append,
      List.eq_nil_iff_forall_not_mem]
    intro notice listed
    cases unwatched.symm.trans (new id notice listed).observed
  · have unread : (events.filterMap (Event.notice? (· == id))).reverse.filter
        (·.builds?.isSome) = [] :=
      List.filter_eq_nil_iff.2 fun notice listed => by simp [(new id notice listed).builds]
    rw [same, notices_of_journal journal, List.filter_append, unread, List.append_nil,
      told.built id (observed id ▸ watched)]
  · obtain old | ⟨member, since, rfl⟩ := old_or_new (journal ▸ happened)
    · exact told.heralded id service earlier old
    · obtain ⟨kind, lifetime, built⟩ := (plain _ member _ _ rfl).opens service rfl
      exact ⟨kind, lifetime, List.mem_append_right _ built⟩
  · exact Nat.lt_of_lt_of_le (told.placed scope (closings ▸ listed)) shapes.length_le
  · have unread : (events.filterMap (Event.notice? (· == id))).reverse.filterMap
        Notice.disposes? = [] :=
      List.filterMap_eq_nil_iff.2 fun notice listed => (new id notice listed).disposes
    rw [notices_of_journal journal, List.filterMap_append, unread, List.append_nil,
      told.disposed id (observed id ▸ watched), closings, told.ends shapes]

theorem notify {id : EngineId} {notice : Notice}
    (plain : world.observed id = true → world.Plain id notice) :
    (notify id world notice).Told := by
  have journal := journal_sent id [notice] world
  refine told.keep (engines_notify ..) (shapes_notify id world notice ▸ List.prefix_rfl) _ journal
    ?_ ?_
  · intro event member
    split at member
    · rw [List.mem_singleton.1 member]
      rfl
    · cases member
  · rintro event member other sent rfl
    split at member
    · rename_i watched
      cases List.mem_singleton.1 member
      exact plain watched
    · cases member

theorem resolving {id : EngineId} {realization : Nat} {callSite : CallSite}
    (graph : world.graph? id realization = some callSite) :
    (World.notify id world (.resolving callSite.site.service)).Told := by
  refine told.notify fun watched => ⟨watched, rfl, rfl, ?_⟩
  rintro service ⟨⟩
  obtain ⟨realized, listed, rfl⟩ := Option.map_eq_some_iff.1 graph
  have announced : realized.callSite.announcement ∈
      (world.engine id).realizations.map (·.callSite.announcement) :=
    List.mem_map_of_mem (List.mem_of_getElem? listed)
  rw [← told.built id watched, List.mem_filter, mem_notices] at announced
  obtain ⟨⟨other, here, member⟩, _⟩ := announced
  exact ⟨_, _, eq_of_beq here ▸ member⟩

theorem unheard_of_sent {id : EngineId} {said : List Notice}
    (observed : ∀ other, later.observed other = world.observed other)
    (notices : ∀ watched, later.notices watched = world.notices watched ++
      if watched id && world.observed id then said else []) :
    ∀ other, later.observed other = false → later.notices (· == other) = [] := by
  intro other unwatched
  rw [observed] at unwatched
  rw [notices, told.unheard other unwatched, List.nil_append, if_neg]
  rw [Bool.and_eq_true, beq_iff_eq]
  rintro ⟨rfl, watched⟩
  cases unwatched.symm.trans watched

omit told in
theorem ask (told : world.Told) (sound : world.Sound) {id : EngineId} {engine : Engine}
    (asked : (world.engine id).Asked engine) : (world.withEngine id engine).Told := by
  obtain ⟨_, published, realized, graphs, outbox⟩ :=
    asked.announces (sound.engine id) (told.published id)
  rw [told.sent id, List.nil_append] at outbox
  have same : engine.observers = (world.engine id).observers :=
    (asked.evolves (sound.engine id)).2.observers
  have observed : ∀ other, (world.withEngine id engine).observed other = world.observed other := by
    intro other
    rw [World.observed, World.observed, engine_withEngine]
    split
    · rename_i here
      rw [here.1, ← same]
    · rfl
  have builds : ∀ notice ∈ engine.outbox, notice.builds?.isSome = true ∧
      notice.opens? = none ∧ notice.disposes? = none := by
    intro notice listed
    rw [outbox] at listed
    obtain ⟨callSite, _, rfl⟩ := List.mem_map.1 listed
    exact ⟨rfl, rfl, rfl⟩
  have new : ∀ event ∈ (if world.observed id then
      (engine.outbox.map (Event.notified id)).reverse else []),
      ∃ notice ∈ engine.outbox, event = .notified id notice := by
    intro event member
    split at member
    · obtain ⟨notice, listed, rfl⟩ := List.mem_map.1 (List.mem_reverse.1 member)
      exact ⟨notice, listed, rfl⟩
    · cases member
  have closings : (world.withEngine id engine).closings = world.closings :=
    closings_of_journal _ (journal_withEngine same) fun event member => by
      obtain ⟨notice, _, rfl⟩ := new event member
      rfl
  have shapes : world.shapes <+: (world.withEngine id engine).shapes :=
    (shapes_withEngine id engine).symm ▸ List.prefix_rfl
  refine ⟨fun other => ?_, fun other => ?_,
    told.unheard_of_sent observed fun _ => notices_withEngine same, fun other watched => ?_,
    fun other service earlier happened => ?_, fun scope listed => ?_, fun other watched => ?_⟩
  · rw [engine_withEngine]
    split
    · rfl
    · exact told.sent other
  · rw [engine_withEngine]
    split
    · exact { published with }
    · exact told.published other
  · rw [observed] at watched
    rw [notices_withEngine same, List.filter_append, told.built other watched, engine_withEngine]
    by_cases here : other = id
    · subst here
      have present : world.engines[other]? ≠ none := by
        intro absent
        rw [World.observed, engine_of_none absent] at watched
        cases watched
      have all : engine.outbox.filter (·.builds?.isSome) = engine.outbox :=
        List.filter_eq_self.2 fun notice listed => (builds notice listed).1
      rw [watched, beq_self_eq_true, Bool.and_self, if_pos rfl, all, if_pos ⟨rfl, present⟩, outbox]
      have mapped := congrArg (List.map CallSite.announcement) graphs
      rw [List.map_append, List.map_map, List.map_map] at mapped
      exact mapped.symm
    · have apart : (id == other) = false := by simpa using Ne.symm here
      rw [apart, Bool.false_and, if_neg Bool.false_ne_true, if_neg fun both => here both.1]
      exact List.append_nil _
  · obtain old | ⟨member, _⟩ := old_or_new (journal_withEngine same ▸ happened)
    · exact told.heralded other service earlier old
    · obtain ⟨notice, listed, same⟩ := new _ member
      cases same
      cases (builds _ listed).2.1
  · exact Nat.lt_of_lt_of_le (told.placed scope (closings ▸ listed)) shapes.length_le
  · have unread : ∀ here : Bool, (if here then engine.outbox else []).filterMap
        Notice.disposes? = [] := by
      intro here
      refine List.filterMap_eq_nil_iff.2 fun notice listed => ?_
      split at listed
      · exact (builds notice listed).2.2
      · cases listed
    rw [notices_withEngine same, List.filterMap_append, unread, List.append_nil,
      told.disposed other (observed other ▸ watched), closings,
      told.ends shapes]

/-- The end of a scope is told to the observers of its provider. -/
theorem close {scope : ScopeId} (inside : scope < world.shapes.length) (disposed : Nat) :
    (World.notify (world.scope scope).engine (world.close scope)
      (.scopeDisposed (world.isRoot scope) disposed)).Told := by
  have kept : (world.close scope).shapes = world.shapes := shapes_close ..
  have closed : (world.close scope).journal = .closed scope :: world.journal := rfl
  generalize ending : Notice.scopeDisposed (world.isRoot scope) disposed = notice
  generalize provider : (world.scope scope).engine = id
  have sent : (World.notify id (world.close scope) notice).journal =
      ((if world.observed id then [.notified id notice] else []) ++ [.closed scope]) ++
        world.journal := by
    rw [List.append_assoc, List.singleton_append, ← closed]
    have told := journal_sent id [notice] (world.close scope)
    rwa [show (world.close scope).observed id = world.observed id from rfl] at told
  have same : ∀ other, (World.notify id (world.close scope) notice).engine other =
      world.engine other := by
    intro other
    rw [World.engine, engines_notify]
    rfl
  have shapes : world.shapes <+: (World.notify id (world.close scope) notice).shapes :=
    (kept.symm.trans (shapes_notify ..).symm) ▸ List.prefix_rfl
  have notices : ∀ watched, (World.notify id (world.close scope) notice).notices watched =
      world.notices watched ++ if watched id && world.observed id then [notice] else [] :=
    fun watched => notices_notify id (world.close scope) notice
  have closings : (World.notify id (world.close scope) notice).closings =
      world.closings ++ [scope] := by
    rw [← closings_close]
    obtain ⟨events, journal, all⟩ := journal_notify id (world.close scope) notice
    exact closings_of_journal events journal fun event member => by
      rw [all event member]
      rfl
  have settled := shape_of_grown shapes inside
  have observed : ∀ other, (World.notify id (world.close scope) notice).observed other =
      world.observed other := fun other => by rw [World.observed, World.observed, same]
  refine ⟨fun other => ?_, fun other => ?_, told.unheard_of_sent observed notices,
    fun other watched => ?_, fun other service earlier happened => ?_, fun other listed => ?_,
    fun other watched => ?_⟩
  · rw [same]
    exact told.sent other
  · rw [same]
    exact told.published other
  · rw [observed] at watched
    rw [same, ← told.built other watched, notices, List.filter_append]
    subst ending
    split <;> exact List.append_nil _
  · obtain old | ⟨member, _⟩ := old_or_new (sent ▸ happened)
    · exact told.heralded other service earlier old
    · subst ending
      split at member <;> simp at member
  · rw [closings, List.mem_append, List.mem_singleton] at listed
    refine Nat.lt_of_lt_of_le ?_ shapes.length_le
    obtain old | rfl := listed
    · exact told.placed other old
    · exact inside
  · rw [observed] at watched
    rw [closings, notices, List.filterMap_append, told.disposed other watched, List.filter_append,
      List.map_append, told.ends shapes]
    congr 1
    subst ending
    by_cases here : id = other
    · subst here
      rw [watched, beq_self_eq_true, Bool.and_self, if_pos rfl]
      simp [settled.1, settled.2, provider, Notice.disposes?]
    · simp [settled.1, provider, here]

end Told

variable {confined : Bool} {part : Part}

theorem Tick.told (tick : Tick confined part world later) (told : world.Told)
    (sound : world.Sound) : later.Told := by
  cases tick with
  | @note _ _ event minor =>
    have open_ : event.closed? = none := by cases event <;> first | rfl | cases minor
    refine told.keep rfl List.prefix_rfl [event] rfl (by simp [open_]) ?_
    rintro other member id notice rfl
    rw [← List.mem_singleton.1 member] at minor
    cases minor
  | keepBooks _ _ _ => exact told.keep rfl List.prefix_rfl [] rfl (by simp) (by simp)
  | ask id asked => exact told.ask sound asked
  | spawn _ _ =>
    exact told.keep rfl ((List.prefix_append world.scopes _).map Scope.shape) [] rfl (by simp)
      (by simp)
  | complete value =>
    exact told.keep (by simp) (by simp) [_] (journal_complete ..) (by simp [Event.closed?]) (by simp)
  | entrust disposable value =>
    exact told.keep (by simp) (by simp) [_] (journal_entrust ..) (by simp [Event.closed?]) (by simp)

theorem Told.enter (told : world.Told) (id : EngineId) (site : Site) (owner : ScopeId) :
    ((world.enter id site owner).reserve site owner).Told :=
  told.keep (by simp) (by simp) [_] ((journal_reserve ..).trans (journal_enter ..))
    (by simp [Event.closed?]) (by simp)

theorem Told.drain (told : world.Told) (scope : ScopeId) : (world.drain scope).Told :=
  told.keep rfl (by simp) [_] rfl (by simp [Event.closed?]) (by simp)

theorem Course.told (course : Course confined part world later) (told : world.Told)
    (sound : world.Sound) : later.Told := by
  induction course with
  | rest => exact told
  | next first _ one two => exact two (one told sound) (first.sound sound)
  | tick tick => exact tick.told told sound
  | @observe _ _ _ _ _ _ ending graph _ ends ih =>
    have inner := ih (told.resolving graph) (sound.of_engines (engines_notify ..))
    exact inner.notify fun observed => .of_ends observed ends
  | invoke _ _ _ ih | children _ ih | body _ ih => exact ih told sound
  | construct _ _ _ ih =>
    have inner := ih (told.enter ..) (sound.of_engines (by simp))
    exact inner.keep rfl List.prefix_rfl [_] rfl (by simp [Event.closed?]) (by simp)
  | @dispose world later scope _ _ opened inner ih =>
    have hosted : scope < world.shapes.length := lt_of_state (by simp [opened])
    have longer := inner.shapes.length_le
    rw [shapes_drain] at longer
    exact (ih (told.drain scope) sound).close (Nat.lt_of_lt_of_le hosted longer) _

theorem Tick.bracketed (tick : Tick confined part world later) (told : world.Told)
    (sound : world.Sound) (watched : EngineId → Bool) :
    ∃ said, later.notices watched = world.notices watched ++ said ∧ Bracketed said := by
  have silent : ∀ events, later.journal = events ++ world.journal →
      (∀ event ∈ events, event.notice? watched = none) →
      ∃ said, later.notices watched = world.notices watched ++ said ∧ Bracketed said :=
    fun events journal silent => ⟨[], by simp [notices_silent events journal silent], .nil⟩
  cases tick with
  | @note _ _ event minor =>
    refine silent [event] rfl fun other member => ?_
    rw [List.mem_singleton.1 member]
    cases event <;> first | rfl | cases minor
  | keepBooks _ _ _ | spawn _ _ => exact silent [] rfl (by simp)
  | @ask _ _ id engine asked =>
    obtain ⟨_, _, realized, _, outbox⟩ := asked.announces (sound.engine id) (told.published id)
    rw [told.sent id, List.nil_append] at outbox
    refine ⟨_, notices_withEngine (asked.evolves (sound.engine id)).2.observers,
      .of_aside fun notice listed => ?_⟩
    split at listed
    · rw [outbox] at listed
      obtain ⟨callSite, _, rfl⟩ := List.mem_map.1 listed
      rfl
    · cases listed
  | complete value => exact silent [_] (journal_complete ..) (by simp [Event.notice?])
  | entrust disposable value => exact silent [_] (journal_entrust ..) (by simp [Event.notice?])

/-- Every run leaves its resolutions ended, those within others first. -/
theorem Course.bracketed (course : Course confined part world later) (told : world.Told)
    (sound : world.Sound) (watched : EngineId → Bool) :
    ∃ said, later.notices watched = world.notices watched ++ said ∧ Bracketed said := by
  induction course with
  | rest => exact ⟨[], by simp, .nil⟩
  | next first _ one two =>
    obtain ⟨some, before, within⟩ := one told sound
    obtain ⟨more, after, follows⟩ := two (first.told told sound) (first.sound sound)
    exact ⟨some ++ more, by rw [after, before, List.append_assoc], within.append follows⟩
  | tick tick => exact tick.bracketed told sound watched
  | @observe _ world later id _ callSite ending graph inner ends ih =>
    have begun : (notify id world (.resolving callSite.site.service)).Sound :=
      sound.of_engines (engines_notify ..)
    obtain ⟨said, within, bracketed⟩ := ih (told.resolving graph) begun
    have same : later.observed id = world.observed id := by
      rw [World.observed, World.observed, (inner.extends begun id).observers, World.engine,
        engines_notify]
      rfl
    rw [notices_notify] at within
    rw [notices_notify, within, same]
    split
    · refine ⟨_, ?_, .span bracketed ends .nil⟩
      simp
    · exact ⟨said, by simp, bracketed⟩
  | invoke _ _ _ ih | children _ ih | body _ ih => exact ih told sound
  | @construct world later _ _ id site owned rooted inner ih =>
    obtain ⟨said, within, bracketed⟩ := ih (told.enter ..) (sound.of_engines (by simp))
    have left : (later.leave id site.key).notices watched = later.notices watched :=
      notices_silent [_] (journal_leave ..) (by simp [Event.notice?])
    rw [notices_silent [_] ((journal_reserve ..).trans (journal_enter ..))
      (by simp [Event.notice?])] at within
    exact ⟨said, left.trans within, bracketed⟩
  | @dispose world later scope disposed _ _ _ ih =>
    obtain ⟨said, within, bracketed⟩ := ih (told.drain scope) sound
    have drained : (world.drain scope).notices watched = world.notices watched :=
      notices_silent [_] rfl (by simp [Event.notice?])
    have closed : (later.close scope).notices watched = later.notices watched :=
      notices_silent [_] rfl (by simp [Event.notice?])
    rw [notices_notify, closed, within, drained, List.append_assoc]
    refine ⟨_, rfl, bracketed.append (.of_aside fun notice listed => ?_)⟩
    split at listed
    · rw [List.mem_singleton.1 listed]
      rfl
    · cases listed

theorem told_start (metrics : List Metrics) : Told { metrics } where
  sent _ := rfl
  published _ := Engine.published_of_unused rfl
  unheard _ _ := rfl
  built _ watched := by cases watched
  heralded _ _ _ happened := by simpa using happened.length_le
  placed _ listed := by cases listed
  disposed _ watched := by cases watched

theorem engines_of_build {blueprint : Blueprint} {options : Options} {observers : List Observer}
    {id : EngineId} {root : ScopeId}
    (built : Container.build blueprint options observers world = .ok (id, root, later)) :
    ∃ engine, Engine.build blueprint options observers = .ok engine ∧
      ∀ other, later.engine other = world.engine other ∨
        other = world.engines.length ∧ later.engine other = engine := by
  obtain ⟨engine, made, rfl⟩ := Container.exists_of_build built
  refine ⟨engine, made, fun other => ?_⟩
  simp only [World.engine, addScope, List.getD]
  by_cases inside : other < world.engines.length
  · exact .inl (by rw [List.getElem?_append_left inside])
  · rw [List.getElem?_append_right (Nat.not_lt.1 inside)]
    by_cases new : other = world.engines.length
    · exact .inr ⟨new, by simp [new]⟩
    · have absent : world.engines[other]? = none := by simpa using inside
      have after := Nat.lt_of_le_of_ne (Nat.not_lt.1 inside) (Ne.symm new)
      have beyond : [engine][other - world.engines.length]? = none :=
        List.getElem?_eq_none (Nat.sub_pos_of_lt after)
      rw [absent, beyond]
      exact .inl rfl

theorem Told.unended (told : world.Told) (housed : world.Housed) :
    (world.closings.filter fun scope =>
      (world.scope scope).engine == world.engines.length) = [] := by
  refine List.filter_eq_nil_iff.2 fun scope listed here => ?_
  have inside : scope < world.scopes.length := by
    simpa [World.shapes] using told.placed scope listed
  have hosted := Hosts.of_listed (List.getElem?_eq_getElem inside)
  rw [← scope_of_some (List.getElem?_eq_getElem inside), eq_of_beq here] at hosted
  exact Nat.lt_irrefl _ (housed.placed _ _ hosted)

theorem Told.build (told : world.Told) (housed : world.Housed) {blueprint : Blueprint}
    {options : Options} {observers : List Observer} {id : EngineId} {root : ScopeId}
    (built : Container.build blueprint options observers world = .ok (id, root, later)) :
    later.Told := by
  obtain ⟨engine, made, engines⟩ := engines_of_build built
  obtain ⟨realizations, outbox⟩ := Engine.idle_of_build made
  obtain ⟨_, _, grown⟩ := Container.exists_of_build built
  have journal : later.journal = [] ++ world.journal := by rw [grown]; rfl
  have notices : ∀ watched, later.notices watched = world.notices watched :=
    fun _ => notices_silent [] journal (by simp)
  have closings : later.closings = world.closings := closings_of_journal [] journal (by simp)
  have shapes : world.shapes <+: later.shapes := by
    rw [grown]
    exact (List.prefix_append world.scopes _).map Scope.shape
  have unseen : world.observed world.engines.length = false := by
    rw [World.observed, engine_of_none (by simp)]
    rfl
  have quiet := told.unheard _ unseen
  refine ⟨fun other => ?_, fun other => ?_, fun other unwatched => ?_, fun other watched => ?_,
    fun other service earlier happened => ?_, fun scope listed => ?_, fun other watched => ?_⟩
  · obtain same | ⟨_, new⟩ := engines other
    · exact same ▸ told.sent other
    · exact new ▸ outbox
  · obtain same | ⟨_, new⟩ := engines other
    · exact same ▸ told.published other
    · exact new ▸ Engine.published_of_unused realizations
  · rw [notices]
    obtain same | ⟨rfl, _⟩ := engines other
    · rw [World.observed, same] at unwatched
      exact told.unheard other unwatched
    · exact quiet
  · rw [notices]
    obtain same | ⟨rfl, new⟩ := engines other
    · rw [World.observed, same] at watched
      rw [same]
      exact told.built other watched
    · rw [quiet, new, realizations]
      rfl
  · rw [journal] at happened
    exact told.heralded other service earlier happened
  · exact Nat.lt_of_lt_of_le (told.placed scope (closings ▸ listed)) shapes.length_le
  · rw [notices, closings, told.ends shapes]
    obtain same | ⟨rfl, _⟩ := engines other
    · rw [World.observed, same] at watched
      exact told.disposed other watched
    · rw [quiet, told.unended housed]
      rfl

/-- At rest, all that happened has been told, all resolutions have ended, and no scope is being
disposed. -/
structure AtRest (world : World) : Prop extends world.Told where
  bracketed : ∀ watched, Bracketed (world.notices watched)
  settled : ∀ scope, (world.scope scope).state ≠ .disposing

theorem AtRest.course (rest : world.AtRest) (course : Course confined part world later)
    (sound : world.Sound) : later.AtRest where
  toTold := course.told rest.toTold sound
  bracketed watched := by
    obtain ⟨said, told, bracketed⟩ := course.bracketed rest.toTold sound watched
    exact told ▸ (rest.bracketed watched).append bracketed
  settled scope disposing := rest.settled scope (course.settled disposing)

theorem Reachable.atRest (reached : world.Reachable) : world.AtRest := by
  induction reached with
  | start metrics => exact ⟨told_start metrics, fun _ => .nil, by rintro scope ⟨⟩⟩
  | @build world later _ _ _ _ _ reached built ih =>
    have told := ih.toTold.build reached.wellFormed.toHoused built
    obtain ⟨engine, _, rfl⟩ := Container.exists_of_build built
    refine ⟨told, ih.bracketed, fun scope disposing => ?_⟩
    obtain same | ⟨_, opened⟩ := state_addScope
      { world with engines := world.engines ++ [engine] } world.engines.length none scope
    · exact ih.settled scope (same.symm.trans disposing)
    · cases disposing.symm.trans opened
  | run reached ran ih =>
    exact ih.course (Container.course_of_run reached.sound ran) reached.sound
  | @graph world later id service result reached asked ih =>
    rw [Run.run_onEngine] at asked
    cases asked
    have course : Course false .code world _ := .tick (.ask id (.graph service))
    exact ih.course course reached.sound

/-- Observers are told of a service's realization before they are told of any resolution of it. -/
theorem Told.herald (told : world.Told) {id : EngineId} {service : ServiceType}
    {before after : List Notice}
    (resolved : world.notices (· == id) = before ++ .resolving service :: after) :
    ∃ kind lifetime, .built kind service lifetime ∈ before := by
  have read : world.journal.filterMap (Event.notice? (· == id)) =
      after.reverse ++ .resolving service :: before.reverse := by
    rw [← List.reverse_reverse (world.journal.filterMap _), ← notices, resolved]
    simp
  obtain ⟨later, rest, journal, _, here⟩ := List.filterMap_eq_append_iff.1 read
  obtain ⟨others, event, earlier, rfl, _, found, past⟩ := List.filterMap_eq_cons_iff.1 here
  obtain ⟨other, same, rfl⟩ := Event.notice?_eq_some.1 found
  have happened : .notified other (.resolving service) :: earlier <:+ world.journal :=
    ⟨later ++ others, by rw [journal, List.append_assoc]⟩
  obtain ⟨kind, lifetime, built⟩ := told.heralded other service earlier happened
  have member : .built kind service lifetime ∈ before.reverse :=
    past ▸ List.mem_filterMap.2 ⟨_, built, Event.notice?_eq_some.2 ⟨other, same, rfl⟩⟩
  exact ⟨kind, lifetime, List.mem_reverse.1 member⟩

section Sample

def echo : List String := [
  "built Factory Kept Transient", "resolving Kept",
  "built Factory Closer Transient", "resolving Closer",
  "resolving Kept", "failed Kept: Circular",
  "failed Closer: Circular", "failed Kept: Circular",
  "built Factory User Transient", "resolving User", "resolved User",
  "disposed root=false count=0"]

def echoed (world : World) : Bool :=
  (world.notices (· == 0)).map Notice.line == echo &&
  world.closings.filter (fun scope => (world.scope scope).engine == 0) == [1]

end Sample

/-- At rest after any run, what the observers of any providers have been told nests: every resolution
that begins ends, the last one first, so that as many end as begin. The observers of one provider are
told of every realization of a graph and of nothing else as such; the graphs are of distinct services,
the memo has them and the engine accepts them, and no service is being resolved before its realization
is told. They are told of the end of each scope of the provider whose disposal ended, once and in that
order; these are the scopes that are no longer open. -/
theorem Reachable.observers_told (reached : world.Reachable) :
    (∀ watched, Bracketed (world.notices watched) ∧
      ∀ service, (world.notices watched).countP (·.opens?.any (· == service)) =
        (world.notices watched).countP (·.ends?.any (· == service))) ∧
    (∀ id, world.observed id = true →
      (∃ graphs : List CallSite,
        (world.notices (· == id)).filter (·.builds?.isSome) = graphs.map (·.announcement) ∧
        graphs.Pairwise (fun one other => (one.site.service == other.site.service) = false) ∧
        ∀ callSite ∈ graphs, (world.engine id).Accepts callSite ∧
          (world.engine id).memo.lookup ⟨callSite.site.service, 0⟩ = some (some callSite)) ∧
      (∀ before service after, world.notices (· == id) = before ++ .resolving service :: after →
        ∃ kind lifetime, .built kind service lifetime ∈ before) ∧
      (world.notices (· == id)).filterMap Notice.disposes? =
        (world.closings.filter fun scope => (world.scope scope).engine == id).map world.isRoot) ∧
    world.closings.Nodup ∧
    ∀ scope < world.shapes.length,
      (scope ∈ world.closings ↔ (world.scope scope).state ≠ .open) := by
  have rest := reached.atRest
  have closes := reached.closes
  refine ⟨fun watched => ⟨rest.bracketed watched, (rest.bracketed watched).count⟩,
    fun id watched => ⟨?_, fun _ _ _ => rest.herald, rest.disposed id watched⟩, closes.once,
    fun scope inside => ?_⟩
  · have published := rest.published id
    refine ⟨(world.engine id).realizations.map (·.callSite), ?_, published.distinct,
      fun callSite realized => ⟨published.accepts realized, ?_⟩⟩
    · rw [rest.built id watched, List.map_map]
      rfl
    · have sound := reached.sound.engine id
      obtain ⟨realization, listed, rfl⟩ := List.mem_map.1 realized
      obtain ⟨service, known⟩ := sound.realized realization listed
      have same : ((⟨realization.callSite.site.service, 0⟩ : CacheKey) == ⟨service, 0⟩) = true :=
        CacheKey.beq_iff.2 ⟨sound.memo.makes known, rfl⟩
      exact ((world.engine id).memo.lookup_congr same).trans known
  · rw [closes.closed scope]
    have settled := rest.settled scope
    cases state : (world.scope scope).state with
    | «open» => simp
    | disposing => exact absurd state settled
    | disposed => simp [inside]

/-- A resolution that fails in a cycle and one that succeeds are told as they nest, and the end of
the scope that they were for is told once. -/
theorem observers_told_echo :
    ∃ world, Container.serve 4 echoing {} [.silent] (leaving [kept, user]) {} =
        .ok (some ((), world)) ∧
      (world.notices (· == 0)).map Notice.line = echo ∧
      Bracketed (world.notices (· == 0)) ∧
      world.closings.filter (fun scope => (world.scope scope).engine == 0) = [1] := by
  obtain ⟨world, served, shown⟩ := exists_of_served
    (Container.serve 4 echoing {} [.silent] (leaving [kept, user]) {}) echoed (by decide +kernel)
  obtain ⟨shown, ended⟩ := Bool.and_eq_true_iff.1 shown
  have reached := Container.reachable_of_serve (.start []) served
  obtain ⟨told, _⟩ := reached.observers_told
  exact ⟨world, served, eq_of_beq shown, (told _).1, eq_of_beq ended⟩

end World
end ServiceContainer
