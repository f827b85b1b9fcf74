import ServiceContainer.World

/-! What the journal tells of one cache entry: the instances made for it, those handed out, and
whether its owner had been disposed when an instance was begun. Main statement: what an entry holds
goes on to agree with its history when an instance is begun, or made, or its owner is disposed. -/
namespace ServiceContainer

namespace Frame

/-- Frames are compared as the cache entries that they fill. -/
instance : BEq Frame where
  beq a b := a.engine == b.engine && a.key == b.key && a.owner == b.owner

theorem beq_iff {a b : Frame} :
    (a == b) = true ↔ a.engine = b.engine ∧ (a.key == b.key) = true ∧ a.owner = b.owner := by
  simp [BEq.beq, and_assoc]

theorem makes_iff {frame : Frame} {engine : EngineId} {key : CacheKey} :
    frame.makes engine key = true ↔ frame.engine = engine ∧ (frame.key == key) = true := by
  simp [makes]

instance : EquivBEq Frame where
  rfl := beq_iff.2 ⟨rfl, BEq.rfl, rfl⟩
  symm same := by
    obtain ⟨engines, keys, owners⟩ := beq_iff.1 same
    exact beq_iff.2 ⟨engines.symm, BEq.symm keys, owners.symm⟩
  trans first second := by
    obtain ⟨engines, keys, owners⟩ := beq_iff.1 first
    obtain ⟨others, later, last⟩ := beq_iff.1 second
    exact beq_iff.2 ⟨engines.trans others, BEq.trans keys later, owners.trans last⟩

end Frame

structure History where
  /-- Whether the owner has been disposed. -/
  gone : Bool := false
  /-- Whether it had been when the latest instance was begun. -/
  belated : Bool := false
  /-- The instances that were begun before the owner was disposed, the latest first. -/
  timely : List Value := []
  /-- Those that were begun after that. -/
  late : List Value := []

namespace History

/-- The instances made since the entry was last emptied. -/
def current (history : History) : List Value :=
  if history.gone then history.late else history.timely

def finish (history : History) (value : Value) : History :=
  if history.belated then { history with late := value :: history.late }
  else { history with timely := value :: history.timely }

def add (cell : Frame) (history : History) : Event → History
  | .entered engine key _ owner =>
    if (⟨engine, key, owner⟩ : Frame) == cell then { history with belated := history.gone }
    else history
  | .completed engine key owner value =>
    if (⟨engine, key, owner⟩ : Frame) == cell then history.finish value else history
  | .closed scope => if scope = cell.owner then { history with gone := true } else history
  | _ => history

def Prompt (history : History) : Prop := history.belated = false ∧ history.late = []

/-- How what an entry holds agrees with its history; an instance may be being made for it. -/
structure Agrees (history : History) (held : Option (Option Value)) (building : Prop) : Prop where
  few : history.timely.length ≤ 1 ∧ history.late.length ≤ 1
  holds : ∀ value, held = some (some value) ↔ history.current = [value]
  fresh : history.gone = false → history.Prompt
  /-- While an instance is made, its place is free. -/
  filling : building → history.belated = history.gone →
    history.current = [] ∧ held.isSome = true
  /-- If the owner is disposed while an instance is made, there is no place for it. -/
  orphaned : building → history.belated ≠ history.gone → history.timely = [] ∧ held = none

namespace Agrees
variable {history : History} {held : Option (Option Value)} {building : Prop}

theorem start : Agrees {} none False where
  few := by simp
  holds := by simp [current]
  fresh := fun _ => ⟨rfl, rfl⟩
  filling := False.elim
  orphaned := False.elim

theorem mono {fewer : Prop} (agrees : history.Agrees held building) (less : fewer → building) :
    history.Agrees held fewer :=
  { agrees with
    filling := fun here => agrees.filling (less here)
    orphaned := fun here => agrees.orphaned (less here) }

/-- An entry has at most one current instance, so it has none if it holds none. -/
theorem current_eq_nil (agrees : history.Agrees held building)
    (empty : ∀ value, held ≠ some (some value)) : history.current = [] := by
  have short : history.current.length ≤ 1 := by
    rw [current]
    split
    · exact agrees.few.2
    · exact agrees.few.1
  cases listed : history.current with
  | nil => rfl
  | cons value rest =>
    rw [listed] at short
    have last : rest = [] := List.length_eq_zero_iff.1 (by simpa using short)
    rw [last] at listed
    exact absurd ((agrees.holds value).2 listed) (empty value)

/-- What an entry holds was made for it. -/
theorem mem_of_held (agrees : history.Agrees held building) {value : Value}
    (kept : held = some (some value)) : value ∈ history.timely ∨ value ∈ history.late := by
  have current := (agrees.holds value).1 kept
  unfold History.current at current
  split at current
  · exact .inr (by simp [current])
  · exact .inl (by simp [current])

theorem begin (agrees : history.Agrees held building)
    (empty : ∀ value, held ≠ some (some value)) {later : Prop} :
    { history with belated := history.gone }.Agrees (some (held.getD none)) later := by
  have free := agrees.current_eq_nil empty
  have opened : some (held.getD none) = some (none : Option Value) := by
    cases held with
    | none => rfl
    | some found =>
      cases found with
      | none => rfl
      | some value => exact absurd rfl (empty value)
  refine ⟨agrees.few, fun value => ?_, fun lasting => ?_, fun _ _ => ⟨free, rfl⟩, ?_⟩
  · rw [opened]
    refine iff_of_false (by simp) fun listed => ?_
    have none : ([] : List Value) = [value] := free.symm.trans listed
    cases none
  · exact ⟨lasting, (agrees.fresh lasting).2⟩
  · exact fun _ apart => absurd rfl apart

theorem dispose (agrees : history.Agrees held building) (lasting : history.gone = false) :
    { history with gone := true }.Agrees none building := by
  obtain ⟨timely, none⟩ := agrees.fresh lasting
  refine ⟨agrees.few, ?_, by simp, by simp [timely], fun here _ => ?_⟩
  · simp [current, none]
  · have free := (agrees.filling here (timely.trans lasting.symm)).1
    exact ⟨by simpa [current, lasting] using free, rfl⟩

/-- An instance is made, which fills the entry if it is still there. -/
theorem finish (agrees : history.Agrees held True) (value : Value) :
    (history.finish value).Agrees (held.map fun _ => some value) False := by
  have filled : held.isSome = true → held.map (fun _ => some value) = some (some value) := by
    intro opened
    obtain ⟨found, rfl⟩ := Option.isSome_iff_exists.1 opened
    rfl
  cases gone : history.gone with
  | false =>
    obtain ⟨timely, none⟩ := agrees.fresh gone
    obtain ⟨free, opened⟩ := agrees.filling trivial (timely.trans gone.symm)
    have free : history.timely = [] := by simpa [current, gone] using free
    have ended : history.finish value = { history with timely := [value] } := by
      rw [History.finish, if_neg (by simp [timely]), free]
    rw [ended, filled opened]
    refine ⟨⟨Nat.le_refl _, agrees.few.2⟩, fun other => ?_, fun _ => ⟨timely, none⟩, False.elim,
      False.elim⟩
    simp [current, gone]
  | true =>
    cases belated : history.belated with
    | false =>
      obtain ⟨none, lost⟩ := agrees.orphaned trivial (by simp [belated, gone])
      have ended : history.finish value = { history with timely := [value] } := by
        rw [History.finish, if_neg (by simp [belated]), none]
      have unkept : held.map (fun _ => some value) = held := by
        rw [lost]
        rfl
      rw [ended, unkept]
      refine ⟨⟨Nat.le_refl _, agrees.few.2⟩, fun other => ?_, by simp [gone], False.elim,
        False.elim⟩
      simpa [current, gone] using agrees.holds other
    | true =>
      obtain ⟨free, opened⟩ := agrees.filling trivial (belated.trans gone.symm)
      have free : history.late = [] := by simpa [current, gone] using free
      have ended : history.finish value = { history with late := [value] } := by
        rw [History.finish, if_pos belated, free]
      rw [ended, filled opened]
      refine ⟨⟨agrees.few.1, Nat.le_refl _⟩, fun other => ?_, by simp [gone], False.elim,
        False.elim⟩
      simp [current, gone]

end Agrees
end History

/-- The history of an entry, from a journal with the latest event first. -/
def Frame.history (cell : Frame) (journal : List Event) : History :=
  journal.foldr (fun event history => history.add cell event) {}

namespace Event

def made? (among : Frame → Bool) : Event → Option Value
  | .completed engine key owner value => if among ⟨engine, key, owner⟩ then some value else none
  | _ => none

def handed? (among : Frame → Bool) : Event → Option Value
  | .obtained engine key owner value => if among ⟨engine, key, owner⟩ then some value else none
  | _ => none

def idle : Event → Bool
  | .entered _ _ _ _ | .completed _ _ _ _ | .obtained _ _ _ _ | .closed _ => false
  | _ => true

theorem made?_eq_some {among : Frame → Bool} {event : Event} {value : Value} :
    event.made? among = some value ↔ ∃ engine key owner,
      event = .completed engine key owner value ∧ among ⟨engine, key, owner⟩ = true := by
  cases event <;> simp [made?]
  grind

theorem handed?_eq_some {among : Frame → Bool} {event : Event} {value : Value} :
    event.handed? among = some value ↔ ∃ engine key owner,
      event = .obtained engine key owner value ∧ among ⟨engine, key, owner⟩ = true := by
  cases event <;> simp [handed?]
  grind

end Event

namespace World

def made (world : World) (among : Frame → Bool) : List Value :=
  world.journal.filterMap (Event.made? among)

/-- The instances of an entry that were begun before its owner was disposed. -/
def timely (world : World) (cell : Frame) : List Value := (cell.history world.journal).timely

def late (world : World) (cell : Frame) : List Value := (cell.history world.journal).late

def handed (world : World) (among : Frame → Bool) : List Value :=
  world.journal.filterMap (Event.handed? among)

section Records
variable {world : World} {among : Frame → Bool} {value : Value}

theorem mem_made : value ∈ world.made among ↔ ∃ engine key owner,
    .completed engine key owner value ∈ world.journal ∧ among ⟨engine, key, owner⟩ = true := by
  simp only [made, List.mem_filterMap, Event.made?_eq_some]
  grind

theorem mem_handed : value ∈ world.handed among ↔ ∃ engine key owner,
    .obtained engine key owner value ∈ world.journal ∧ among ⟨engine, key, owner⟩ = true := by
  simp only [handed, List.mem_filterMap, Event.handed?_eq_some]
  grind

end Records

end World

namespace Frame
variable (cell : Frame) (journal : List Event)

@[simp] theorem history_cons (event : Event) :
    cell.history (event :: journal) = (cell.history journal).add cell event := rfl

theorem history_idle {event : Event} (idle : event.idle = true) :
    cell.history (event :: journal) = cell.history journal := by
  rw [history_cons]
  cases event <;> first | rfl | cases idle

theorem history_congr {other : Frame} (same : (cell == other) = true) :
    cell.history journal = other.history journal := by
  induction journal with
  | nil => rfl
  | cons event rest ih =>
    rw [history_cons, history_cons, ih]
    have owners := (beq_iff.1 same).2.2
    cases event <;> simp [History.add, BEq.congr_right same, owners]

theorem gone_iff : (cell.history journal).gone = true ↔ .closed cell.owner ∈ journal := by
  induction journal with
  | nil => simp [history]
  | cons event rest ih =>
    rw [history_cons, List.mem_cons, ← ih]
    cases event with
    | closed scope =>
      simp only [History.add, Event.closed.injEq]
      by_cases here : scope = cell.owner
      · simp [here]
      · simp [here, Ne.symm here]
    | entered engine key location owner =>
      simp only [History.add]
      split <;> simp
    | completed engine key owner value =>
      simp only [History.add, History.finish]
      split
      · split <;> simp
      · simp
    | _ => simp [History.add]

/-- The instances made for an entry are those begun before or after the disposal of its owner. -/
theorem perm_made :
    (journal.filterMap (Event.made? (· == cell))).Perm
      ((cell.history journal).timely ++ (cell.history journal).late) := by
  induction journal with
  | nil => exact .refl _
  | cons event rest ih =>
    rw [history_cons, List.filterMap_cons]
    cases event with
    | completed engine key owner value =>
      simp only [Event.made?, History.add]
      by_cases here : ((⟨engine, key, owner⟩ : Frame) == cell) = true
      · simp only [here, if_true, History.finish]
        split
        · exact (ih.cons value).trans List.perm_middle.symm
        · exact ih.cons value
      · simp only [here, Bool.false_eq_true, if_false]
        exact ih
    | entered engine key location owner =>
      simp only [Event.made?, History.add]
      split <;> exact ih
    | closed scope =>
      simp only [Event.made?, History.add]
      split <;> exact ih
    | _ => exact ih

theorem length_made :
    (journal.filterMap (Event.made? (· == cell))).length =
      (cell.history journal).timely.length + (cell.history journal).late.length := by
  rw [(cell.perm_made journal).length_eq, List.length_append]

theorem mem_made {value : Value} :
    value ∈ journal.filterMap (Event.made? (· == cell)) ↔
      value ∈ (cell.history journal).timely ∨ value ∈ (cell.history journal).late := by
  rw [(cell.perm_made journal).mem_iff, List.mem_append]

end Frame
end ServiceContainer
