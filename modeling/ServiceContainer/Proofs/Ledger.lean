import Mathlib.Data.List.Pairwise
import ServiceContainer.Proofs.Scopes

/-! Accounts of disposables. Tickets number them, and the journal tells which scope took each over,
in which pass it is to be disposed, and whether it was. Main statement: what scopes hold still agrees
with the journal after whatever has nothing to do with disposables. -/
namespace ServiceContainer

namespace Event

def ticket? : Event → Option Nat
  | .entrusted _ tracked _ _ => some tracked.ticket
  | _ => none

def taken? (scope : ScopeId) : Event → Option Tracked
  | .entrusted maker tracked _ accepted =>
    if accepted = true ∧ maker.owner = scope then some tracked else none
  | _ => none

/-- The tickets of the disposables that the scope began to dispose of. -/
def pass? (scope : ScopeId) : Event → Option (List Nat)
  | .drained holder tickets => if holder = scope then some tickets else none
  | _ => none

def disposed? : Event → Option Nat
  | .disposed ticket => some ticket
  | _ => none

def unbooked : Event → Bool
  | .entrusted _ _ _ _ | .drained _ _ | .disposed _ => false
  | _ => true

theorem taken?_eq_some {scope : ScopeId} {event : Event} {tracked : Tracked} :
    event.taken? scope = some tracked ↔
      ∃ maker value, event = .entrusted maker tracked value true ∧ maker.owner = scope := by
  cases event <;> simp [taken?]
  grind

theorem pass?_eq_some {scope : ScopeId} {event : Event} {tickets : List Nat} :
    event.pass? scope = some tickets ↔ event = .drained scope tickets := by
  cases event <;> simp [pass?]

theorem disposed?_eq_some {event : Event} {ticket : Nat} :
    event.disposed? = some ticket ↔ event = .disposed ticket := by
  cases event <;> simp [disposed?]

end Event

namespace World

def tickets (world : World) : List Nat := world.journal.filterMap Event.ticket?

def taken (world : World) (scope : ScopeId) : List Tracked :=
  world.journal.filterMap (Event.taken? scope)

def passes (world : World) (scope : ScopeId) : List (List Nat) :=
  world.journal.filterMap (Event.pass? scope)

def disposals (world : World) : List Nat := world.journal.filterMap Event.disposed?

section Records
variable {world : World} {scope : ScopeId}

theorem mem_taken {tracked : Tracked} : tracked ∈ world.taken scope ↔
    ∃ maker value, .entrusted maker tracked value true ∈ world.journal ∧ maker.owner = scope := by
  simp only [taken, List.mem_filterMap, Event.taken?_eq_some]
  grind

theorem mem_passes {tickets : List Nat} :
    tickets ∈ world.passes scope ↔ .drained scope tickets ∈ world.journal := by
  simp [passes, List.mem_filterMap, Event.pass?_eq_some]

theorem mem_disposals {ticket : Nat} :
    ticket ∈ world.disposals ↔ .disposed ticket ∈ world.journal := by
  simp [disposals, List.mem_filterMap, Event.disposed?_eq_some]

theorem taken_sublist (world : World) (scope : ScopeId) :
    ((world.taken scope).map (·.ticket)).Sublist world.tickets := by
  unfold taken tickets
  induction world.journal with
  | nil => exact .slnil
  | cons event rest ih =>
    cases event with
    | entrusted maker tracked value accepted =>
      rw [List.filterMap_cons, List.filterMap_cons]
      simp only [Event.taken?, Event.ticket?]
      split
      · rename_i none
        split at none
        · cases none
        · exact ih.cons _
      · rename_i found
        split at found
        · cases found
          exact ih.cons_cons _
        · cases found
    | _ => exact ih

end Records

/-- What scopes hold is what they took over, until they are drained, once. -/
structure Books (world : World) : Prop where
  numbered : world.tickets = (List.range world.nextTicket).reverse
  bags : ∀ scope, (world.scope scope).bag =
    if (world.scope scope).state = .open then (world.taken scope).reverse else []
  opened : ∀ scope, (world.scope scope).state = .open → world.passes scope = []
  left : ∀ scope < world.shapes.length, (world.scope scope).state ≠ .open →
    world.passes scope = [(world.taken scope).map (·.ticket)]
  unborn : ∀ scope, world.shapes.length ≤ scope →
    world.taken scope = [] ∧ world.passes scope = []

/-- What was taken over is disposed after its owner was drained, and before the owner is closed. -/
structure Ledger (world : World) : Prop extends world.Books where
  once : world.disposals.Nodup
  due : ∀ ticket, .disposed ticket ∈ world.journal → ∃ maker tracked value accepted,
    .entrusted maker tracked value accepted ∈ world.journal ∧ tracked.ticket = ticket ∧
      (accepted = true → (world.scope maker.owner).state ≠ .open)
  /-- What no open owner took over was disposed at once. -/
  refused : ∀ maker tracked value, .entrusted maker tracked value false ∈ world.journal →
    tracked.disposable.mode = .sync → .disposed tracked.ticket ∈ world.journal
  ended : ∀ maker tracked value, .entrusted maker tracked value true ∈ world.journal →
    tracked.disposable.mode = .sync → (world.scope maker.owner).state = .disposed →
      .disposed tracked.ticket ∈ world.journal

/-- The disposable is in a pass of its owner that has not come to it yet. -/
structure Pending (world : World) (owner : ScopeId) (ticket : Nat) : Prop where
  disposing : (world.scope owner).state = .disposing
  drained : ∃ tickets, .drained owner tickets ∈ world.journal ∧ ticket ∈ tickets
  remaining : .disposed ticket ∉ world.journal

theorem Pending.keep {world later : World} {owner : ScopeId} {ticket : Nat}
    (pending : world.Pending owner ticket) (disposing : (later.scope owner).state = .disposing)
    (grown : world.journal <:+ later.journal)
    (spared : .disposed ticket ∈ later.journal → .disposed ticket ∈ world.journal) :
    later.Pending owner ticket := by
  obtain ⟨_, ⟨tickets, drained, member⟩, remaining⟩ := pending
  exact ⟨disposing, ⟨tickets, grown.subset drained, member⟩, fun disposed =>
    remaining (spared disposed)⟩

/-- What no open owner takes over is disposed at once. -/
def refuse (world : World) (site : Site) (owner : ScopeId) (disposable : Disposable)
    (value : Value) : World :=
  (world.entrust site owner disposable value).record (.disposed world.nextTicket)

/-- What happens has nothing to do with disposables; new scopes may have been opened. -/
structure Unbooked (world later : World) : Prop where
  nextTicket : later.nextTicket = world.nextTicket
  length : world.shapes.length ≤ later.shapes.length
  kept : ∀ scope < world.shapes.length, (later.scope scope).state = (world.scope scope).state ∧
    (later.scope scope).bag = (world.scope scope).bag
  fresh : ∀ scope < later.shapes.length, world.shapes.length ≤ scope →
    (later.scope scope).state = .open ∧ (later.scope scope).bag = []
  journal : ∃ events, later.journal = events ++ world.journal ∧
    ∀ event ∈ events, event.unbooked = true

section Scopes
variable {world : World} {scope : ScopeId}

theorem ledger_start (metrics : List Metrics) : Ledger { metrics } where
  numbered := rfl
  bags scope := rfl
  opened scope state := by cases state
  left scope inside := absurd inside (Nat.not_lt_zero scope)
  unborn scope _ := ⟨rfl, rfl⟩
  once := List.nodup_nil
  due ticket disposed := by cases disposed
  refused maker tracked value entrusted := by cases entrusted
  ended maker tracked value entrusted := by cases entrusted

theorem lt_of_state (state : (world.scope scope).state ≠ .disposed) :
    scope < world.shapes.length := by
  obtain ⟨_, listed, _⟩ := Option.map_eq_some_iff.1 (Hosts.of_state state)
  exact (List.getElem?_eq_some_iff.1 listed).1

theorem scope_of_length_le (outside : world.shapes.length ≤ scope) :
    world.scope scope = { state := .disposed } :=
  scope_of_none (List.getElem?_eq_none (by simpa [shapes] using outside))

end Scopes

namespace Unbooked

section Operations
variable {world later : World}

theorem of_scopes (nextTicket : later.nextTicket = world.nextTicket)
    (shapes : later.shapes = world.shapes)
    (kept : ∀ scope, (later.scope scope).state = (world.scope scope).state ∧
      (later.scope scope).bag = (world.scope scope).bag) {events : List Event}
    (journal : later.journal = events ++ world.journal)
    (quiet : ∀ event ∈ events, event.unbooked = true) : world.Unbooked later where
  nextTicket := nextTicket
  length := by rw [shapes]
  kept scope _ := kept scope
  fresh scope inside outside := by
    rw [shapes] at inside
    exact absurd outside (Nat.not_le.2 inside)
  journal := ⟨events, journal, quiet⟩

theorem record (world : World) {event : Event} (quiet : event.unbooked = true) :
    world.Unbooked (world.record event) := by
  refine .of_scopes rfl rfl (fun _ => ⟨rfl, rfl⟩) List.singleton_append.symm fun other member => ?_
  rw [List.mem_singleton.1 member, quiet]

theorem leave (world : World) (engine : EngineId) (key : CacheKey) :
    world.Unbooked (world.leave engine key) :=
  .of_scopes rfl rfl (fun _ => ⟨rfl, rfl⟩)
    ((world.journal_leave engine key).trans List.singleton_append.symm) (by simp [Event.unbooked])

theorem notify (id : EngineId) (world : World) (notice : Notice) :
    world.Unbooked (notify id world notice) := by
  obtain ⟨events, metrics, told, notified⟩ := notify_eq id world notice
  rw [told]
  refine .of_scopes rfl rfl (fun _ => ⟨rfl, rfl⟩) rfl fun event member => ?_
  rw [notified event member]
  rfl

theorem withEngine (world : World) (id : EngineId) (engine : Engine) :
    world.Unbooked (world.withEngine id engine) := by
  obtain ⟨events, metrics, sent, notified⟩ := sent_eq id engine.outbox
    (world.updateEngine id fun _ => { engine with outbox := [] })
  rw [World.withEngine, sent]
  refine .of_scopes rfl rfl (fun _ => ⟨rfl, rfl⟩) rfl fun event member => ?_
  obtain ⟨notice, rfl⟩ := notified event member
  rfl

theorem keepBooks (world : World) (factories : List InstanceFactory) (nextSerial : Nat)
    (tallies : Table Nat Nat) : world.Unbooked { world with factories, nextSerial, tallies } :=
  .of_scopes rfl rfl (fun _ => ⟨rfl, rfl⟩) (List.nil_append _).symm (by simp)

theorem addScope (world : World) (engine : EngineId) (root : Option ScopeId) :
    world.Unbooked (world.addScope engine root).2 where
  nextTicket := rfl
  length := by simp [World.addScope, shapes]
  kept scope inside := by
    have listed : (world.addScope engine root).2.scope scope = world.scope scope := by
      have inside : scope < world.scopes.length := by simpa [shapes] using inside
      simp [World.addScope, World.scope, List.getD, List.getElem?_append_left inside]
    rw [listed]
    exact ⟨rfl, rfl⟩
  fresh scope inside outside := by
    have grown : (world.addScope engine root).2.shapes.length = world.scopes.length + 1 := by
      simp [World.addScope, shapes]
    have last : scope = world.scopes.length := by
      rw [grown] at inside
      rw [shapes, List.length_map] at outside
      exact Nat.le_antisymm (Nat.lt_succ_iff.1 inside) outside
    subst last
    simp [World.addScope, World.scope, List.getD]
  journal := ⟨[], rfl, by simp⟩

theorem begin (world : World) (site : Site) (owner : ScopeId) :
    world.Unbooked (world.begin site owner) :=
  .of_scopes (by simp) (by simp) (fun _ => ⟨by simp, by simp⟩)
    ((world.journal_begin site owner).trans List.singleton_append.symm) (by simp [Event.unbooked])

theorem finish (world : World) (site : Site) (owner : ScopeId) (value : Value) :
    world.Unbooked (world.finish site owner value) := by
  have journal : (world.finish site owner value).journal =
      [.left (world.scope owner).engine site.key,
        .completed (world.scope owner).engine site.key owner value] ++ world.journal :=
    world.journal_finish site owner value
  exact .of_scopes (by simp) (by simp) (fun _ => ⟨by simp, by simp⟩) journal
    (by simp [Event.unbooked])

end Operations

section Journals
variable {world later : World} (unbooked : world.Unbooked later)
include unbooked

theorem reads {α : Type} {read : Event → Option α}
    (silent : ∀ event, event.unbooked = true → read event = none) :
    later.journal.filterMap read = world.journal.filterMap read := by
  obtain ⟨events, same, quiet⟩ := unbooked.journal
  exact reads_journal same fun event member => silent event (quiet event member)

theorem mem_iff {event : Event} (booked : event.unbooked = false) :
    event ∈ later.journal ↔ event ∈ world.journal := by
  obtain ⟨events, same, quiet⟩ := unbooked.journal
  rw [same, List.mem_append, or_iff_right]
  intro member
  cases booked.symm.trans (quiet event member)

theorem suffix : world.journal <:+ later.journal := by
  obtain ⟨events, same, _⟩ := unbooked.journal
  rw [same]
  exact List.suffix_append ..

theorem tickets : later.tickets = world.tickets :=
  unbooked.reads fun event quiet => by cases event <;> first | rfl | cases quiet

theorem taken (scope : ScopeId) : later.taken scope = world.taken scope :=
  unbooked.reads fun event quiet => by cases event <;> first | rfl | cases quiet

theorem passes (scope : ScopeId) : later.passes scope = world.passes scope :=
  unbooked.reads fun event quiet => by cases event <;> first | rfl | cases quiet

theorem disposals : later.disposals = world.disposals :=
  unbooked.reads fun event quiet => by cases event <;> first | rfl | cases quiet

theorem pending {owner : ScopeId} {ticket : Nat} (pending : world.Pending owner ticket) :
    later.Pending owner ticket := by
  have inside : owner < world.shapes.length := lt_of_state (by simp [pending.disposing])
  exact pending.keep ((unbooked.kept owner inside).1.trans pending.disposing) unbooked.suffix
    (unbooked.mem_iff rfl).1

end Journals

end Unbooked

namespace Books
variable {world later : World} {maker another : Frame} {tracked item : Tracked}
  {value other : Value} {accepted again : Bool}

theorem owner_lt (books : world.Books)
    (entrusted : .entrusted maker tracked value true ∈ world.journal) :
    maker.owner < world.shapes.length := by
  by_contra outside
  have taken : tracked ∈ world.taken maker.owner := mem_taken.2 ⟨maker, value, entrusted, rfl⟩
  rw [(books.unborn maker.owner (Nat.not_lt.1 outside)).1] at taken
  cases taken

theorem ticket_lt (books : world.Books)
    (entrusted : .entrusted maker tracked value accepted ∈ world.journal) :
    tracked.ticket < world.nextTicket := by
  have listed : tracked.ticket ∈ world.tickets := List.mem_filterMap.2 ⟨_, entrusted, rfl⟩
  rw [books.numbered] at listed
  simpa using listed

theorem unique (books : world.Books)
    (one : .entrusted maker tracked value accepted ∈ world.journal)
    (two : .entrusted another item other again ∈ world.journal)
    (same : tracked.ticket = item.ticket) :
    Event.entrusted maker tracked value accepted = .entrusted another item other again := by
  -- As two events they would stand at two places of a list of tickets that has no duplicates.
  by_contra apart
  have distinct : world.tickets.Nodup := by
    rw [books.numbered, List.nodup_reverse]
    exact List.nodup_range
  have pairs := List.pairwise_filterMap.1 distinct
  have symmetric : Std.Symm fun first second : Event => ∀ ticket, first.ticket? = some ticket →
      ∀ number, second.ticket? = some number → ticket ≠ number :=
    ⟨fun first second differ ticket found number known => (differ number known ticket found).symm⟩
  exact pairs.forall one two apart tracked.ticket rfl item.ticket rfl same

theorem keep (books : world.Books) (unbooked : world.Unbooked later) : later.Books where
  numbered := by
    rw [unbooked.tickets, unbooked.nextTicket]
    exact books.numbered
  bags scope := by
    rw [unbooked.taken]
    by_cases inside : scope < world.shapes.length
    · obtain ⟨state, bag⟩ := unbooked.kept scope inside
      rw [state, bag]
      exact books.bags scope
    · have outside := Nat.not_lt.1 inside
      by_cases new : scope < later.shapes.length
      · obtain ⟨state, bag⟩ := unbooked.fresh scope new outside
        rw [bag, if_pos state, (books.unborn scope outside).1]
        rfl
      · rw [scope_of_length_le (Nat.not_lt.1 new)]
        rfl
  opened scope state := by
    rw [unbooked.passes]
    by_cases inside : scope < world.shapes.length
    · exact books.opened scope ((unbooked.kept scope inside).1 ▸ state)
    · exact (books.unborn scope (Nat.not_lt.1 inside)).2
  left scope inside state := by
    have old : scope < world.shapes.length := by
      by_contra new
      exact state (unbooked.fresh scope inside (Nat.not_lt.1 new)).1
    rw [unbooked.passes, unbooked.taken]
    exact books.left scope old ((unbooked.kept scope old).1 ▸ state)
  unborn scope outside := by
    rw [unbooked.taken, unbooked.passes]
    exact books.unborn scope (unbooked.length.trans outside)

end Books

namespace Ledger
variable {world later : World}

/-- What entrusts nobody keeps the ledger, if it closes scopes only after their passes and disposes
only of what is not held. -/
theorem carry (ledger : world.Ledger) (books : later.Books)
    (grown : world.journal <:+ later.journal)
    (same : ∀ maker tracked value accepted,
      .entrusted maker tracked value accepted ∈ later.journal →
        .entrusted maker tracked value accepted ∈ world.journal)
    (closed : ∀ maker tracked value, .entrusted maker tracked value true ∈ world.journal →
      (world.scope maker.owner).state ≠ .open → (later.scope maker.owner).state ≠ .open)
    (once : later.disposals.Nodup)
    (due : ∀ ticket, .disposed ticket ∈ later.journal → .disposed ticket ∈ world.journal ∨
      ∃ maker tracked value, .entrusted maker tracked value true ∈ world.journal ∧
        tracked.ticket = ticket ∧ (world.scope maker.owner).state ≠ .open)
    (ended : ∀ maker tracked value, .entrusted maker tracked value true ∈ world.journal →
      tracked.disposable.mode = .sync → (later.scope maker.owner).state = .disposed →
        .disposed tracked.ticket ∈ world.journal ∨ (world.scope maker.owner).state = .disposed) :
    later.Ledger where
  toBooks := books
  once := once
  due ticket disposed := by
    obtain old | ⟨maker, tracked, value, entrusted, number, left⟩ := due ticket disposed
    · obtain ⟨maker, tracked, value, accepted, entrusted, number, left⟩ := ledger.due ticket old
      refine ⟨maker, tracked, value, accepted, grown.subset entrusted, number, ?_⟩
      rintro rfl
      exact closed maker tracked value entrusted (left rfl)
    · exact ⟨maker, tracked, value, true, grown.subset entrusted, number,
        fun _ => closed maker tracked value entrusted left⟩
  refused maker tracked value entrusted sync :=
    grown.subset (ledger.refused maker tracked value (same _ _ _ _ entrusted) sync)
  ended maker tracked value entrusted sync state := by
    have before := same _ _ _ _ entrusted
    obtain disposed | gone := ended maker tracked value before sync state
    · exact grown.subset disposed
    · exact grown.subset (ledger.ended maker tracked value before sync gone)

theorem keep (ledger : world.Ledger) (unbooked : world.Unbooked later) : later.Ledger := by
  have states : ∀ maker tracked value, .entrusted maker tracked value true ∈ world.journal →
      (later.scope maker.owner).state = (world.scope maker.owner).state :=
    fun maker _ _ entrusted => (unbooked.kept maker.owner (ledger.owner_lt entrusted)).1
  refine ledger.carry (ledger.toBooks.keep unbooked) unbooked.suffix
    (fun _ _ _ _ entrusted => (unbooked.mem_iff rfl).1 entrusted) ?_ ?_
    (fun _ disposed => .inl ((unbooked.mem_iff rfl).1 disposed)) ?_
  · intro maker tracked value entrusted left
    rwa [states maker tracked value entrusted]
  · rw [unbooked.disposals]
    exact ledger.once
  · intro maker tracked value entrusted _ state
    exact .inr ((states maker tracked value entrusted).symm.trans state)

end Ledger

end World
end ServiceContainer
