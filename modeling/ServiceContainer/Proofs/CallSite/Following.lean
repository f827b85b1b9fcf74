import ServiceContainer.Proofs.CallSite.Search

/-! The course of a query: its questions are answered one after the other, each from the memo that the
one before has left. Main statements: what can be found under a target can be found without it, and
what is found without it can be found under it, if its plan would come to ask for that. -/
namespace ServiceContainer

namespace Query
variable {α β : Type}

/-- The query ends with the result, each of its questions being answered by a step that leaves
another memo. -/
inductive Follows (step : Target → Memo → Option CallSite → Memo → Prop) :
    Query α → Memo → α → Memo → Prop where
  | done {memo : Memo} (result : α) : Follows step (.done result) memo result memo
  | ask {target : Target} {next : Option CallSite → Query α} {memo between later : Memo}
      {found : Option CallSite} {result : α} (answered : step target memo found between)
      (rest : Follows step (next found) between result later) :
      Follows step (.ask target next) memo result later

namespace Follows
variable {step other : Target → Memo → Option CallSite → Memo → Prop} {memo later : Memo}

theorem mono {query : Query α} {result : α} (follows : query.Follows step memo result later)
    (weaker : ∀ target memo found later, step target memo found later →
      other target memo found later) : query.Follows other memo result later := by
  induction follows with
  | done result => exact .done result
  | ask answered _ ih => exact .ask (weaker _ _ _ _ answered) ih

theorem unique (functional : ∀ target memo found later answer last,
      step target memo found later → step target memo answer last → found = answer ∧ later = last)
    {query : Query α} {result value : α} {last : Memo}
    (one : query.Follows step memo result later) (two : query.Follows step memo value last) :
    result = value ∧ later = last := by
  induction one with
  | done result =>
    cases two
    exact ⟨rfl, rfl⟩
  | ask answered _ ih =>
    cases two with
    | ask again rest =>
      obtain ⟨rfl, rfl⟩ := functional _ _ _ _ _ _ answered again
      exact ih rest

theorem of_yields {query : Query α} {result : α} {answers : Target → Option CallSite → Prop}
    (yields : query.Yields answers result)
    (known : ∀ target found, answers target found → step target memo found memo) :
    query.Follows step memo result memo := by
  induction yields with
  | done result => exact .done result
  | ask answered _ ih => exact .ask (known _ _ answered) ih

theorem yields {query : Query α} {result : α} (follows : query.Follows step memo result later)
    {answers : Target → Option CallSite → Prop}
    (answered : ∀ target memo found later, step target memo found later → answers target found) :
    query.Yields answers result := by
  induction follows with
  | done result => exact .done result
  | ask step _ ih => exact .ask (answered _ _ _ _ step) ih

theorem bind_ok_iff {query : ExceptT Failure Query α} {next : α → ExceptT Failure Query β}
    {result : β} :
    Follows step (query >>= next : ExceptT Failure Query β) memo (.ok result) later ↔
      ∃ value between, Follows step query memo (.ok value) between ∧
        Follows step (next value) between (.ok result) later := by
  change Follows step (Query.bind query (ExceptT.bindCont next)) memo (.ok result) later ↔ _
  constructor
  · intro follows
    induction query generalizing memo with
    | done outcome =>
      cases outcome with
      | ok value => exact ⟨value, memo, .done _, follows⟩
      | error failure => cases follows
    | ask target rest ih =>
      cases follows with
      | ask answered tail =>
        obtain ⟨value, between, first, second⟩ := ih _ tail
        exact ⟨value, between, .ask answered first, second⟩
  · rintro ⟨value, between, first, second⟩
    generalize outcome : (Except.ok value : Except Failure α) = ended at first
    induction first with
    | done result =>
      subst outcome
      exact second
    | ask answered _ ih => exact .ask answered (ih second outcome)

theorem map_ok_iff {query : ExceptT Failure Query α} {f : α → β} {result : β} :
    Follows step (f <$> query : ExceptT Failure Query β) memo (.ok result) later ↔
      ∃ value, Follows step query memo (.ok value) later ∧ f value = result := by
  rw [← bind_pure_comp, bind_ok_iff]
  constructor
  · rintro ⟨value, between, first, rest⟩
    cases rest
    exact ⟨value, first, rfl⟩
  · rintro ⟨value, first, rfl⟩
    exact ⟨value, later, first, .done _⟩

end Follows

variable {answers : Target → Option CallSite → Prop}

theorem Reaches.of_map {query : ExceptT Failure Query α} {f : α → β} {target : Target}
    (reached : Reaches answers query target) :
    Reaches answers (f <$> query : ExceptT Failure Query β) target := by
  rw [← bind_pure_comp]
  change Reaches answers (Query.bind query (ExceptT.bindCont fun value => Pure.pure (f value))) target
  induction reached with
  | here => exact .here
  | later answered _ ih => exact .later answered ih

end Query

theorem Memo.Grows.unknown {memo later : Memo} {key : CacheKey} (grows : memo.Grows later)
    (unknown : later.lookup key = none) : memo.lookup key = none := by
  cases known : memo.lookup key with
  | none => rfl
  | some found => cases unknown.symm.trans (grows key found known)

namespace Blueprint
open Query
variable {blueprint : Blueprint}

/-- The search under some targets finds the answer for another, and leaves the other memo. -/
def Locates (blueprint : Blueprint) (above : List Target) (target : Target) (memo : Memo)
    (found : Option CallSite) (later : Memo) : Prop :=
  blueprint.Finds above (.target target) memo (.ok found) later

section Searches
variable {above : List Target} {goal : Goal} {memo later : Memo} {target : Target}
  {result : Except Failure (Option CallSite)} {found : Option CallSite}

theorem locates_unique (target : Target) (memo : Memo) (found : Option CallSite) (later : Memo)
    (answer : Option CallSite) (last : Memo) (one : blueprint.Locates above target memo found later)
    (two : blueprint.Locates above target memo answer last) : found = answer ∧ later = last := by
  obtain ⟨same, left⟩ := Finds.unique one two
  exact ⟨Except.ok.inj same, left⟩

theorem finds_plan_iff {query : Query (Except Failure (Option CallSite))} :
    blueprint.Finds above (.plan query) memo (.ok found) later ↔
      query.Follows (blueprint.Locates above) memo (.ok found) later := by
  constructor
  · intro finds
    induction query generalizing memo with
    | done outcome =>
      cases finds
      exact .done _
    | ask target next ih =>
      cases finds with
      | asked answered rest => exact .ask answered (ih _ rest)
  · intro follows
    generalize ended : (Except.ok found : Except Failure (Option CallSite)) = outcome at follows
    induction follows with
    | done outcome => exact .done outcome
    | ask answered _ ih => exact .asked answered (ih ended)

theorem Finds.grows (finds : blueprint.Finds above goal memo result later) : memo.Grows later := by
  induction finds with
  | known | cycle | done => exact .refl _
  | @built above target memo later result unknown _ planned ih =>
    cases result with
    | error failure => exact ih
    | ok found =>
      refine ih.trans (Memo.grows_insert ?_)
      rw [planned.kept target (List.mem_append_right _ List.mem_cons_self)]
      exact unknown
  | asked _ _ first rest => exact first.trans rest
  | failed _ ih => exact ih

theorem Finds.recorded (finds : blueprint.Finds above (.target target) memo (.ok found) later) :
    later.Records target found := by
  cases finds with
  | known recorded => exact recorded
  | built _ _ _ => exact (Table.lookup_insert ..).trans (if_pos BEq.rfl)

theorem follows_recorded {α : Type} {query : Query α} {value : α}
    (follows : query.Follows (blueprint.Locates above) memo value later) :
    memo.Grows later ∧ query.Yields later.Records value := by
  induction follows with
  | done value => exact ⟨.refl _, .done value⟩
  | ask answered _ ih =>
    obtain ⟨grows, yields⟩ := ih
    exact ⟨Memo.Grows.trans (Finds.grows answered) grows,
      .ask (grows _ _ (Finds.recorded answered)) yields⟩

/-- What can be built under a target, can be built without it. -/
theorem Finds.drop {entry : Target} (finds : blueprint.Finds (entry :: above) goal memo result later)
    (succeeds : ∃ found, result = .ok found) : blueprint.Finds above goal memo result later := by
  generalize outer : entry :: above = all at finds
  induction finds generalizing above with
  | known recorded => exact .known recorded
  | cycle =>
    obtain ⟨_, absurd⟩ := succeeds
    cases absurd
  | built unknown fresh _ ih =>
    subst outer
    refine .built unknown ?_ (ih succeeds rfl)
    rw [Chain.cycle?_eq_none_iff] at fresh ⊢
    exact fun key listed => fresh key (List.mem_cons_of_mem _ listed)
  | done result => exact .done result
  | asked _ _ first rest => exact .asked (first ⟨_, rfl⟩ outer) (rest succeeds outer)
  | failed =>
    obtain ⟨_, absurd⟩ := succeeds
    cases absurd

theorem Finds.extend {entry : Target} (finds : blueprint.Finds above goal memo result later)
    (succeeds : ∃ found, result = .ok found) (untouched : later.lookup entry.key = none) :
    blueprint.Finds (entry :: above) goal memo result later := by
  induction finds with
  | known recorded => exact .known recorded
  | cycle =>
    obtain ⟨_, absurd⟩ := succeeds
    cases absurd
  | @built above target memo later result unknown fresh _ ih =>
    obtain ⟨found, rfl⟩ := succeeds
    have apart : (target.key == entry.key) = false := by
      cases same : target.key == entry.key with
      | false => rfl
      | true =>
        rw [Memo.remember, Table.lookup_insert, if_pos same] at untouched
        cases untouched
    rw [lookup_remember apart] at untouched
    refine .built unknown ?_ (ih ⟨found, rfl⟩ untouched)
    rw [Chain.cycle?_eq_none_iff] at fresh ⊢
    refine List.forall_mem_cons.2 ⟨?_, fresh⟩
    rwa [Bool.eq_false_iff, BEq.comm, ← Bool.eq_false_iff]
  | done result => exact .done result
  | asked answered rest ihFirst ihRest =>
    exact .asked (ihFirst ⟨_, rfl⟩ (rest.grows.unknown untouched)) (ihRest succeeds untouched)
  | failed =>
    obtain ⟨_, absurd⟩ := succeeds
    cases absurd

/-- A plan fails that comes to ask for a target which is being searched for. -/
theorem Finds.not_reaches {origin : Memo} {query : Query (Except Failure (Option CallSite))}
    {asked : Target} (reaches : query.Reaches origin.Records asked) (listed : asked ∈ above)
    (finds : blueprint.Finds above (.plan query) memo (.ok found) later)
    (grows : origin.Grows memo) (unknown : memo.lookup asked.key = none) : False := by
  induction reaches generalizing memo with
  | here =>
    cases finds with
    | asked answered _ =>
      cases answered with
      | known recorded => cases unknown.symm.trans recorded
      | built _ fresh _ =>
        have apart := Chain.cycle?_eq_none_iff.1 fresh _ (List.mem_map_of_mem listed)
        rw [BEq.rfl] at apart
        cases apart
  | later recorded _ ih =>
    have known := grows _ _ recorded
    cases finds with
    | asked answered rest =>
      cases answered with
      | known again =>
        cases known.symm.trans again
        exact ih listed rest grows unknown
      | built unrecorded _ _ => cases unrecorded.symm.trans known

variable {host : Host} (describes : host.Describes blueprint)
include describes

theorem Proper.only_plan (proper : blueprint.Proper host target) :
    (blueprint.plan target).Only (blueprint.Proper host) :=
  (blueprint.only_plan target).mono fun _ asked => proper.asked describes asked

/-- While a target is searched for, a key stays unknown whose plans would come to ask for it. -/
theorem Finds.untouched {origin : Memo} {asked : Target} {key : CacheKey}
    (asks : ∀ target, blueprint.Proper host target → (target.key == key) = true →
      (blueprint.plan target).Reaches origin.Records asked)
    (finds : blueprint.Finds above goal memo result later) (succeeds : ∃ found, result = .ok found)
    (proper : match goal with
      | .target target => blueprint.Proper host target
      | .plan query => query.Only (blueprint.Proper host))
    (listed : asked ∈ above) (grows : origin.Grows memo) (unasked : memo.lookup asked.key = none)
    (unknown : memo.lookup key = none) : later.lookup key = none := by
  induction finds with
  | known | done => exact unknown
  | cycle | failed =>
    obtain ⟨_, absurd⟩ := succeeds
    cases absurd
  | @built above target memo later result _ _ planned ih =>
    obtain ⟨found, rfl⟩ := succeeds
    have beneath : asked ∈ above ++ [target] := List.mem_append_left _ listed
    have apart : (target.key == key) = false := Bool.eq_false_iff.2 fun same =>
      planned.not_reaches (asks target proper same) beneath grows unasked
    rw [lookup_remember apart]
    exact ih ⟨found, rfl⟩ (proper.only_plan describes) beneath grows unasked unknown
  | @asked above target memo between later next found result answered rest first second =>
    have left := first ⟨found, rfl⟩ proper.1 listed grows unasked unknown
    have kept : between.lookup asked.key = none := (answered.kept asked listed).trans unasked
    exact second succeeds (proper.2 found) listed (grows.trans answered.grows) kept left

theorem Finds.leaves {key : CacheKey}
    (asks : ∀ other, blueprint.Proper host other → (other.key == key) = true →
      (blueprint.plan other).Reaches memo.Records target)
    (finds : blueprint.Finds above (.target target) memo (.ok found) later)
    (proper : blueprint.Proper host target) (unknown : memo.lookup key = none) :
    later.lookup key = none := by
  cases finds with
  | known => exact unknown
  | built unasked _ planned =>
    have beneath : target ∈ above ++ [target] := List.mem_append_right _ List.mem_cons_self
    have apart : (target.key == key) = false := Bool.eq_false_iff.2 fun same =>
      planned.not_reaches (asks target proper same) beneath (.refl memo) unasked
    rw [lookup_remember apart]
    exact planned.untouched describes asks ⟨found, rfl⟩ (proper.only_plan describes) beneath (.refl memo)
      unasked unknown

/-- What is found by itself can be found under a target whose plans would come to ask for it. -/
theorem follows_beneath {α : Type} {query : Query α} {value : α} {target : Target}
    (asks : ∀ last, memo.Grows last → ∀ other, blueprint.Proper host other →
      (other.key == target.key) = true → ∀ asked, query.Reaches last.Records asked →
        (blueprint.plan other).Reaches last.Records asked)
    (only : query.Only (blueprint.Proper host))
    (follows : query.Follows (blueprint.Locates []) memo value later)
    (unknown : memo.lookup target.key = none) :
    query.Follows (blueprint.Locates [target]) memo value later ∧
      later.lookup target.key = none := by
  induction follows with
  | done value => exact ⟨.done value, unknown⟩
  | @ask asked next memo between later found value answered _ ih =>
    have left : between.lookup target.key = none :=
      Finds.leaves describes (fun other proper same => asks memo (.refl memo) other proper same _ .here)
        answered only.1 unknown
    have rest : ∀ last, between.Grows last → ∀ other, blueprint.Proper host other →
        (other.key == target.key) = true → ∀ asked, (next found).Reaches last.Records asked →
          (blueprint.plan other).Reaches last.Records asked := by
      intro last grows other proper same asked reaches
      have recorded := grows _ _ answered.recorded
      exact asks last (answered.grows.trans grows) other proper same asked (.later recorded reaches)
    obtain ⟨follows, unasked⟩ := ih rest (only.2 found) left
    exact ⟨.ask (answered.extend ⟨found, rfl⟩ left) follows, unasked⟩

end Searches

end Blueprint
end ServiceContainer
