import ServiceContainer.Proofs.Ledger

/-! Disposal passes. A scope is drained of all that it holds, disposes of it, and is closed. Main
statement: what scopes hold agrees with the journal when a disposable is entrusted or disposed, and
when a scope is drained or closed. -/
namespace ServiceContainer

namespace World

section Changes
variable {world : World} {site : Site} {owner scope : ScopeId} {disposable : Disposable}
  {value : Value}

theorem tickets_entrust :
    (world.entrust site owner disposable value).tickets = world.nextTicket :: world.tickets := by
  simp [tickets, Event.ticket?]

theorem taken_entrust : (world.entrust site owner disposable value).taken scope =
    if (world.scope owner).state = .open ∧ owner = scope then
      ⟨world.nextTicket, disposable⟩ :: world.taken scope
    else world.taken scope := by
  rw [taken, journal_entrust, List.filterMap_cons]
  simp only [Event.taken?, decide_eq_true_eq, World.frame]
  by_cases here : (world.scope owner).state = .open ∧ owner = scope
  · rw [if_pos here, if_pos here]
    rfl
  · rw [if_neg here, if_neg here]
    rfl

theorem passes_entrust :
    (world.entrust site owner disposable value).passes scope = world.passes scope := by
  rw [passes, journal_entrust, List.filterMap_cons_none rfl, passes]

theorem disposals_entrust :
    (world.entrust site owner disposable value).disposals = world.disposals := by
  rw [disposals, journal_entrust, List.filterMap_cons_none rfl, disposals]

theorem Books.entrust (books : world.Books) :
    (world.entrust site owner disposable value).Books where
  numbered := by
    rw [tickets_entrust, nextTicket_entrust, List.range_succ, List.reverse_append, books.numbered]
    rfl
  bags other := by
    rw [state_entrust, bag_entrust, taken_entrust, books.bags other]
    by_cases here : (world.scope owner).state = .open ∧ owner = other
    · obtain ⟨opened, rfl⟩ := here
      simp [opened]
    · rw [if_neg here, if_neg fun both => here ⟨both.2, both.1.symm⟩]
  opened other state := by
    rw [state_entrust] at state
    rw [passes_entrust]
    exact books.opened other state
  left other inside state := by
    rw [shapes_entrust] at inside
    rw [state_entrust] at state
    have elsewhere : ¬((world.scope owner).state = .open ∧ owner = other) := by
      rintro ⟨opened, rfl⟩
      exact state opened
    rw [passes_entrust, taken_entrust, if_neg elsewhere]
    exact books.left other inside state
  unborn other outside := by
    rw [shapes_entrust] at outside
    have elsewhere : ¬((world.scope owner).state = .open ∧ owner = other) := by
      rintro ⟨opened, rfl⟩
      exact Nat.not_lt.2 outside (lt_of_state (by simp [opened]))
    rw [passes_entrust, taken_entrust, if_neg elsewhere]
    exact books.unborn other outside

theorem scope_drain (opened : (world.scope scope).state = .open) :
    (world.drain scope).scope scope =
      { world.scope scope with state := .disposing, bag := [] } := by
  have hosted : world.Hosts scope (world.scope scope).engine := .of_state (by simp [opened])
  exact scope_updateScope_self _ hosted

theorem state_drain (opened : (world.scope scope).state = .open) :
    ((world.drain scope).scope scope).state = .disposing :=
  congrArg Scope.state (scope_drain opened)

theorem scope_drain_of_ne {other : ScopeId} (apart : other ≠ scope) :
    (world.drain scope).scope other = world.scope other :=
  scope_updateScope_of_ne world _ apart

theorem Books.drain (books : world.Books) (opened : (world.scope scope).state = .open) :
    (world.drain scope).Books := by
  have inside : scope < world.shapes.length := lt_of_state (by simp [opened])
  have passed : ∀ other, (world.drain scope).passes other =
      if scope = other then [(world.taken scope).map (·.ticket)] else world.passes other := by
    intro other
    have journal : (world.drain scope).journal =
      .drained scope ((world.scope scope).bag.reverse.map (·.ticket)) :: world.journal := rfl
    have bag := books.bags scope
    rw [if_pos opened] at bag
    rw [World.passes, journal, bag, List.reverse_reverse, List.filterMap_cons]
    simp only [Event.pass?]
    by_cases here : scope = other
    · subst here
      simp only [if_true]
      exact congrArg _ (books.opened scope opened)
    · rw [if_neg here, if_neg here]
      rfl
  refine ⟨books.numbered, fun other => ?_, fun other state => ?_, fun other within state => ?_,
    fun other outside => ?_⟩
  · by_cases here : other = scope
    · subst here
      rw [scope_drain opened]
      rfl
    · rw [scope_drain_of_ne here]
      exact books.bags other
  · by_cases here : other = scope
    · subst here
      cases (state_drain opened).symm.trans state
    · rw [scope_drain_of_ne here] at state
      rw [passed, if_neg (Ne.symm here)]
      exact books.opened other state
  · rw [shapes_drain] at within
    by_cases here : other = scope
    · subst here
      rw [passed, if_pos rfl]
      rfl
    · rw [scope_drain_of_ne here] at state
      rw [passed, if_neg (Ne.symm here)]
      exact books.left other within state
  · rw [shapes_drain] at outside
    have apart : scope ≠ other := by
      rintro rfl
      exact Nat.not_lt.2 outside inside
    rw [passed, if_neg apart]
    exact books.unborn other outside

theorem books_close (world : World) (scope other : ScopeId) :
    ((world.close scope).scope other).bag = (world.scope other).bag ∧
      (other ≠ scope → ((world.close scope).scope other).state = (world.scope other).state) := by
  refine ⟨world.read_updateScope Scope.bag fun _ => rfl, fun apart => ?_⟩
  exact congrArg Scope.state (scope_updateScope_of_ne world _ apart)

theorem state_close (present : (world.scope scope).state ≠ .disposed) :
    ((world.close scope).scope scope).state = .disposed :=
  congrArg Scope.state (scope_updateScope_self _ (.of_state present))

theorem Books.close (books : world.Books) (disposing : (world.scope scope).state = .disposing) :
    (world.close scope).Books where
  numbered := books.numbered
  bags other := by
    obtain ⟨bag, state⟩ := world.books_close scope other
    rw [bag]
    by_cases here : other = scope
    · subst here
      rw [state_close (by simp [disposing]), books.bags other, disposing]
      rfl
    · rw [state here]
      exact books.bags other
  opened other state := by
    by_cases here : other = scope
    · subst here
      rw [state_close (by simp [disposing])] at state
      cases state
    · rw [(world.books_close scope other).2 here] at state
      exact books.opened other state
  left other inside state := by
    rw [shapes_close] at inside
    by_cases here : other = scope
    · subst here
      exact books.left other inside (by simp [disposing])
    · rw [(world.books_close scope other).2 here] at state
      exact books.left other inside state
  unborn other outside := by
    rw [shapes_close] at outside
    exact books.unborn other outside

/-- A scope has one pass, in which is all that it took over. -/
theorem Books.passed (books : world.Books) (left : (world.scope scope).state ≠ .open)
    {tickets : List Nat} (drained : .drained scope tickets ∈ world.journal) :
    tickets = (world.taken scope).map (·.ticket) := by
  have passed := mem_passes.2 drained
  by_cases inside : scope < world.shapes.length
  · rw [books.left scope inside left] at passed
    exact List.mem_singleton.1 passed
  · rw [(books.unborn scope (Nat.not_lt.1 inside)).2] at passed
    cases passed

theorem Pending.entrusted (books : world.Books) {ticket : Nat}
    (pending : world.Pending owner ticket) : ∃ maker tracked value,
      .entrusted maker tracked value true ∈ world.journal ∧ maker.owner = owner ∧
        tracked.ticket = ticket := by
  obtain ⟨disposing, ⟨tickets, drained, member⟩, _⟩ := pending
  rw [books.passed (by simp [disposing]) drained] at member
  obtain ⟨tracked, taken, same⟩ := List.mem_map.1 member
  obtain ⟨maker, value, entrusted, owned⟩ := mem_taken.1 taken
  exact ⟨maker, tracked, value, entrusted, owned, same⟩

theorem Books.mem_bag (books : world.Books) {tracked : Tracked} :
    tracked ∈ (world.scope scope).bag ↔ (world.scope scope).state = .open ∧
      ∃ maker value, .entrusted maker tracked value true ∈ world.journal ∧ maker.owner = scope := by
  rw [books.bags scope, ← mem_taken]
  by_cases opened : (world.scope scope).state = .open <;> simp [opened]

theorem Books.nodup_taken (books : world.Books) :
    ((world.taken scope).map (·.ticket)).Nodup := by
  refine (world.taken_sublist scope).nodup ?_
  rw [books.numbered, List.nodup_reverse]
  exact List.nodup_range

theorem Books.nodup_bag (books : world.Books) :
    ((world.scope scope).bag.map (·.ticket)).Nodup := by
  rw [books.bags scope]
  split
  · rw [List.map_reverse, List.nodup_reverse]
    exact books.nodup_taken
  · exact List.nodup_nil

theorem Pending.not_mem_bag (books : world.Books) {ticket : Nat}
    (pending : world.Pending owner ticket) : ticket ∉ (world.scope scope).bag.map (·.ticket) := by
  intro member
  obtain ⟨tracked, held, rfl⟩ := List.mem_map.1 member
  obtain ⟨opened, maker, value, entrusted, rfl⟩ := books.mem_bag.1 held
  obtain ⟨another, item, other, again, rfl, same⟩ := pending.entrusted books
  cases books.unique entrusted again same.symm
  cases opened.symm.trans pending.disposing

namespace Ledger

theorem remaining (ledger : world.Ledger) {tracked : Tracked}
    (held : tracked ∈ (world.scope scope).bag) : .disposed tracked.ticket ∉ world.journal := by
  intro disposed
  obtain ⟨opened, maker, value, entrusted, rfl⟩ := ledger.mem_bag.1 held
  obtain ⟨another, item, other, accepted, again, same, closed⟩ := ledger.due _ disposed
  cases ledger.unique entrusted again same.symm
  exact closed rfl opened

theorem pending_drain (ledger : world.Ledger) (opened : (world.scope scope).state = .open)
    {tracked : Tracked} (held : tracked ∈ (world.scope scope).bag) :
    (world.drain scope).Pending scope tracked.ticket where
  disposing := state_drain opened
  drained := ⟨_, List.mem_cons_self,
    List.mem_map.2 ⟨tracked, List.mem_reverse.2 held, rfl⟩⟩
  remaining disposed := ledger.remaining held ((List.mem_cons.1 disposed).resolve_left (by simp))

theorem clean (ledger : world.Ledger) {ticket : Nat} (pending : world.Pending owner ticket) :
    (world.record (.disposed ticket)).Ledger := by
  have books := ledger.toBooks
  refine ledger.carry ⟨books.numbered, books.bags, books.opened, books.left, books.unborn⟩
    (List.suffix_cons ..)
    (fun _ _ _ _ entrusted => (List.mem_cons.1 entrusted).resolve_left (by simp))
    (fun _ _ _ _ left => left) ?_ ?_ (fun _ _ _ _ _ state => .inr state)
  · exact List.nodup_cons.2 ⟨fun again => pending.remaining (mem_disposals.1 again), ledger.once⟩
  · intro number disposed
    obtain new | old := List.mem_cons.1 disposed
    · cases new
      obtain ⟨maker, tracked, value, entrusted, rfl, same⟩ := pending.entrusted books
      exact .inr ⟨maker, tracked, value, entrusted, same, by simp [pending.disposing]⟩
    · exact .inl old

/-- An open owner, or one that leaves an asynchronous disposable alone. -/
theorem entrust (ledger : world.Ledger)
    (settled : (world.scope owner).state = .open ∨ disposable.mode = .async) :
    (world.entrust site owner disposable value).Ledger where
  toBooks := ledger.toBooks.entrust
  once := by
    rw [disposals_entrust]
    exact ledger.once
  due ticket disposed := by
    rw [journal_entrust] at disposed ⊢
    obtain new | old := List.mem_cons.1 disposed
    · cases new
    · obtain ⟨maker, tracked, value, accepted, entrusted, same, closed⟩ := ledger.due ticket old
      refine ⟨maker, tracked, value, accepted, List.mem_cons_of_mem _ entrusted, same, ?_⟩
      rw [state_entrust]
      exact closed
  refused maker tracked value entrusted sync := by
    rw [journal_entrust] at entrusted ⊢
    obtain new | old := List.mem_cons.1 entrusted
    · injection new with _ same _ refused
      subst same
      obtain opened | async := settled
      · simp [opened] at refused
      · cases sync.symm.trans async
    · exact List.mem_cons_of_mem _ (ledger.refused maker tracked value old sync)
  ended maker tracked value entrusted sync state := by
    rw [journal_entrust] at entrusted ⊢
    rw [state_entrust] at state
    obtain new | old := List.mem_cons.1 entrusted
    · injection new with same _ _ accepted
      subst same
      have opened : (world.scope owner).state = .open := of_decide_eq_true accepted.symm
      cases opened.symm.trans state
    · exact List.mem_cons_of_mem _ (ledger.ended maker tracked value old sync state)

theorem refuse (ledger : world.Ledger) (closed : (world.scope owner).state ≠ .open) :
    (world.refuse site owner disposable value).Ledger where
  toBooks :=
    have books := ledger.toBooks.entrust
    ⟨books.numbered, books.bags, books.opened, books.left, books.unborn⟩
  once := by
    refine List.nodup_cons.2 ⟨fun again => ?_, ?_⟩
    · change world.nextTicket ∈ (world.entrust site owner disposable value).disposals at again
      rw [disposals_entrust] at again
      obtain ⟨maker, tracked, value, accepted, entrusted, same, _⟩ :=
        ledger.due _ (mem_disposals.1 again)
      exact absurd (ledger.ticket_lt entrusted) (same ▸ Nat.lt_irrefl _)
    · change (world.entrust site owner disposable value).disposals.Nodup
      rw [disposals_entrust]
      exact ledger.once
  due ticket disposed := by
    rw [World.refuse, journal_record, journal_entrust] at disposed ⊢
    obtain new | disposed := List.mem_cons.1 disposed
    · cases new
      refine ⟨_, _, _, _, List.mem_cons_of_mem _ List.mem_cons_self, rfl, fun accepted => ?_⟩
      exact absurd (of_decide_eq_true accepted) closed
    · obtain new | old := List.mem_cons.1 disposed
      · cases new
      · obtain ⟨maker, tracked, other, accepted, entrusted, same, left⟩ := ledger.due ticket old
        refine ⟨maker, tracked, other, accepted, ?_, same, fun taken => ?_⟩
        · exact List.mem_cons_of_mem _ (List.mem_cons_of_mem _ entrusted)
        · have state := world.state_entrust site owner maker.owner disposable value
          exact ne_of_eq_of_ne state (left taken)
  refused maker tracked other entrusted sync := by
    rw [World.refuse, journal_record, journal_entrust] at entrusted ⊢
    obtain new | entrusted := List.mem_cons.1 entrusted
    · cases new
    · obtain new | old := List.mem_cons.1 entrusted
      · injection new with _ same _ _
        subst same
        exact List.mem_cons_self
      · exact List.mem_cons_of_mem _ (List.mem_cons_of_mem _
          (ledger.refused maker tracked other old sync))
  ended maker tracked other entrusted sync state := by
    rw [World.refuse, journal_record, journal_entrust] at entrusted ⊢
    have before : (world.scope maker.owner).state = .disposed :=
      (world.state_entrust site owner maker.owner disposable value).symm.trans state
    obtain new | entrusted := List.mem_cons.1 entrusted
    · cases new
    · obtain new | old := List.mem_cons.1 entrusted
      · injection new with _ _ _ accepted
        exact absurd (of_decide_eq_true accepted.symm) closed
      · exact List.mem_cons_of_mem _ (List.mem_cons_of_mem _
          (ledger.ended maker tracked other old sync before))

theorem drain (ledger : world.Ledger) (opened : (world.scope scope).state = .open) :
    (world.drain scope).Ledger := by
  refine ledger.carry (ledger.toBooks.drain opened) (List.suffix_cons ..)
    (fun _ _ _ _ entrusted => (List.mem_cons.1 entrusted).resolve_left (by simp)) ?_ ledger.once
    (fun _ disposed => .inl ((List.mem_cons.1 disposed).resolve_left (by simp))) ?_
  · intro maker tracked value entrusted left
    have apart : maker.owner ≠ scope := by
      rintro rfl
      exact left opened
    rwa [scope_drain_of_ne apart]
  · intro maker tracked value entrusted _ state
    have apart : maker.owner ≠ scope := by
      rintro rfl
      cases (state_drain opened).symm.trans state
    exact .inr ((scope_drain_of_ne apart) ▸ state)

/-- A scope may be closed once all it took over is disposed, except for what is asynchronous. -/
theorem close (ledger : world.Ledger) (disposing : (world.scope scope).state = .disposing)
    (done : ∀ maker tracked value, .entrusted maker tracked value true ∈ world.journal →
      maker.owner = scope → tracked.disposable.mode = .sync →
        .disposed tracked.ticket ∈ world.journal) : (world.close scope).Ledger := by
  refine ledger.carry (ledger.toBooks.close disposing) (List.suffix_cons ..)
    (fun _ _ _ _ entrusted => (List.mem_cons.1 entrusted).resolve_left (by simp)) ?_ ledger.once
    (fun _ disposed => .inl ((List.mem_cons.1 disposed).resolve_left (by simp))) ?_
  · intro maker tracked value entrusted left
    by_cases here : maker.owner = scope
    · rw [here, state_close (by simp [disposing])]
      exact ScopeState.noConfusion
    · rwa [(world.books_close scope _).2 here]
  · intro maker tracked value entrusted sync state
    by_cases here : maker.owner = scope
    · exact .inl (done maker tracked value entrusted here sync)
    · exact .inr ((world.books_close scope _).2 here ▸ state)

end Ledger

end Changes

end World
end ServiceContainer
