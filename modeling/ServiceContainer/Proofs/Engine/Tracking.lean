import ServiceContainer.Proofs.CallSite.Following
import ServiceContainer.Proofs.Engine.Consulted

/-! Actions of an engine that do what a query asks. Each question is answered by a graph that is found
by itself and, with checks on, captures nothing. Main statement: if the bindings of constructors
succeed exactly when queries for them can be followed, so does the choice among them, with the same
constructor. -/
namespace ServiceContainer
open Query Stateful

namespace Options

def Allow (options : Options) (callSite : CallSite) : Prop :=
  options.validateScopes = true → ¬callSite.Captures

end Options

theorem Engine.judge_eq_ok_iff_allow {options : Options} {callSite : CallSite} :
    judge options callSite = .ok () ↔ options.Allow callSite := by
  rw [judge_eq_ok_iff]
  refine forall_congr' fun _ => ?_
  rcases callSite.judged with ⟨captures, _, _, refused⟩ | ⟨free, passed⟩
  · rw [refused]
    exact iff_of_false (fun ⟨_, absurd⟩ => nomatch absurd) fun free => free captures
  · rw [passed]
    exact iff_of_true ⟨_, rfl⟩ free

/-- The answer is found by itself, and is allowed. -/
def Blueprint.Admits (blueprint : Blueprint) (options : Options) (target : Target) (memo : Memo)
    (found : Option CallSite) (later : Memo) : Prop :=
  blueprint.Locates [] target memo found later ∧ ∀ callSite ∈ found, options.Allow callSite

theorem Blueprint.follows_admits_iff {α : Type} {blueprint : Blueprint} {options : Options}
    {query : Query α} {memo between last : Memo} {value : α} (grows : between.Grows last) :
    query.Follows (blueprint.Admits options) memo value between ↔
      query.Follows (blueprint.Locates []) memo value between ∧ ∀ asked callSite,
        query.Reaches last.Records asked → last.Records asked (some callSite) →
          options.Allow callSite := by
  constructor
  · intro follows
    refine ⟨follows.mono fun _ _ _ _ admitted => admitted.1, ?_⟩
    induction follows with
    | done value => exact fun _ _ reached => nomatch reached
    | @ask target _ _ _ _ found _ answered rest ih =>
      have recorded : last.Records target found :=
        ((follows_recorded (rest.mono fun _ _ _ _ admitted => admitted.1)).1.trans grows) _ _
          (Finds.recorded answered.1)
      intro asked callSite reached known
      cases reached with
      | here => exact answered.2 callSite (recorded.unique known)
      | later again reached =>
        cases recorded.unique again
        exact ih grows asked callSite reached known
  · rintro ⟨follows, allowed⟩
    induction follows with
    | done value => exact .done value
    | @ask target _ _ _ _ found _ answered rest ih =>
      have recorded : last.Records target found :=
        ((follows_recorded rest).1.trans grows) _ _ (Finds.recorded answered)
      refine .ask ⟨answered, fun callSite known => ?_⟩ (ih grows fun asked callSite reached => ?_)
      · cases known
        exact allowed target callSite .here recorded
      · exact allowed asked callSite (.later recorded reached)

namespace Engine

inductive Bindings {α β : Type} (related : α → β → Prop) : Binding α → Binding β → Prop where
  | bound {result : α} {outcome : β} (holds : related result outcome) :
      Bindings related (.bound result) (.bound outcome)
  | missing (parameter : String) : Bindings related (.missing parameter) (.missing parameter)

def Paired {α β : Type} (related : Engine → Constructor → α → β → Prop) (engine : Engine)
    (choice : Constructor × α) (other : Constructor × β) : Prop :=
  choice.1 = other.1 ∧ related engine choice.1 choice.2 other.2

variable {engine later : Engine} {host : Host} {blueprint : Blueprint} {options : Options}

/-- An engine with the registrations and options, that was asked only for services which the host
describes and remembers only what it found out. -/
structure Fluent (host : Host) (blueprint : Blueprint) (options : Options) (engine : Engine) :
    Prop where
  blueprint : engine.blueprint = blueprint
  options : engine.options = options
  sound : engine.Sound
  recalls : engine.Recalls host
  spoken : engine.memo.Spoken host

theorem Fluent.built (fluent : Fluent host blueprint options engine) :
    engine.memo.Built blueprint :=
  fluent.blueprint ▸ fluent.recalls.built

/-- From the engine, the action succeeds exactly if the query can be followed, with results that are
related, and leaves the memo that the query does. -/
def Tracks (host : Host) (blueprint : Blueprint) (options : Options) (engine : Engine)
    {α β : Type} (related : Engine → α → β → Prop) (action : EngineAction α)
    (query : ExceptT Failure Query β) : Prop :=
  ∀ result later, action.run engine = (result, later) →
    (Fluent host blueprint options later ∧ engine.Extends later) ∧
    (∀ value, result = .ok value → ∃ outcome, related later value outcome ∧
      Follows (blueprint.Admits options) query engine.memo (.ok outcome) later.memo) ∧
    ∀ failure, result = .error failure → ∀ outcome last,
      ¬Follows (blueprint.Admits options) query engine.memo (.ok outcome) last

theorem admits_unique (target : Target) (memo : Memo) (found : Option CallSite) (later : Memo)
    (answer : Option CallSite) (last : Memo) (one : blueprint.Admits options target memo found later)
    (two : blueprint.Admits options target memo answer last) : found = answer ∧ later = last :=
  Blueprint.locates_unique target memo found later answer last one.1 two.1

namespace Tracks
variable {α β γ δ : Type}

section Steps
variable {related : Engine → α → β → Prop} {final : Engine → γ → δ → Prop}

theorem pure (fluent : Fluent host blueprint options engine) {value : α} {outcome : β}
    (holds : related engine value outcome) :
    Tracks host blueprint options engine related (Pure.pure value) (Pure.pure outcome) := by
  intro result later ran
  cases ran
  refine ⟨⟨fluent, .refl engine⟩, fun _ ended => ?_, nofun⟩
  cases ended
  exact ⟨outcome, holds, .done _⟩

theorem throw (fluent : Fluent host blueprint options engine) (failure other : Failure) :
    Tracks host blueprint options engine related (MonadExcept.throw failure)
      (MonadExcept.throw other) := by
  intro result later ran
  cases ran
  refine ⟨⟨fluent, .refl engine⟩, nofun, fun _ _ _ _ follows => ?_⟩
  cases follows

theorem bind {first : EngineAction α} {query : ExceptT Failure Query β}
    {next : α → EngineAction γ} {following : β → ExceptT Failure Query δ}
    (leads : Tracks host blueprint options engine related first query)
    (rest : ∀ value outcome later, Fluent host blueprint options later → engine.Extends later →
      related later value outcome →
        Tracks host blueprint options later final (next value) (following outcome)) :
    Tracks host blueprint options engine final (first >>= next) (query >>= following) := by
  intro result last ran
  obtain ⟨value, between, began, ended⟩ | ⟨failure, failed, rfl⟩ := run_bind_eq ran
  · obtain ⟨⟨fluently, grown⟩, reached, _⟩ := leads _ _ began
    obtain ⟨outcome, holds, follows⟩ := reached value rfl
    obtain ⟨⟨after, further⟩, succeeds, fails⟩ :=
      rest value outcome between fluently grown holds _ _ ended
    refine ⟨⟨after, grown.trans further⟩, fun answer ok => ?_, fun failure refused other memo all => ?_⟩
    · obtain ⟨answered, ends, others⟩ := succeeds answer ok
      exact ⟨answered, ends, Follows.bind_ok_iff.2 ⟨outcome, _, follows, others⟩⟩
    · obtain ⟨answered, _, again, others⟩ := Follows.bind_ok_iff.1 all
      obtain ⟨same, rfl⟩ := follows.unique admits_unique again
      cases same
      exact fails failure refused other memo others
  · obtain ⟨kept, _, fails⟩ := leads _ _ failed
    refine ⟨kept, nofun, fun _ _ other memo all => ?_⟩
    obtain ⟨answered, _, again, _⟩ := Follows.bind_ok_iff.1 all
    exact fails failure rfl answered _ again

end Steps

section Choice
variable {related : Engine → Constructor → α → β → Prop}

theorem settle_paired {bindable : List (Constructor × α)} {others : List (Constructor × β)}
    (paired : List.Forall₂ (Paired related engine) bindable others) (implementation : String)
    (arity : Nat) :
    (∃ failure, Constructor.settle implementation arity bindable = .error failure ∧
      Constructor.settle implementation arity others = .error failure) ∨
    (Constructor.settle implementation arity bindable = .ok none ∧
      Constructor.settle implementation arity others = .ok none) ∨
    ∃ choice other, Constructor.settle implementation arity bindable = .ok (some choice) ∧
      Constructor.settle implementation arity others = .ok (some other) ∧
        Paired related engine choice other := by
  cases paired with
  | nil => exact .inr (.inl ⟨rfl, rfl⟩)
  | @cons choice other bindable others first rest =>
    have names : bindable.map (·.1) = others.map (·.1) :=
      List.forall₂_eq_eq_eq ▸ List.forall₂_map_left_iff.2
        (List.forall₂_map_right_iff.2 (rest.imp fun _ _ pair => pair.1))
    have differs : (bindable.any fun found => !found.1.sameSignature choice.1) =
        others.any fun found => !found.1.sameSignature other.1 := by
      have mapped := congrArg (List.any · fun found => !found.sameSignature choice.1) names
      rw [List.any_map, List.any_map] at mapped
      rw [← first.1]
      exact mapped
    have lengths : bindable.length = others.length := rest.length_eq
    rw [Constructor.settle, Constructor.settle, differs, lengths]
    split
    · exact .inl ⟨_, rfl, rfl⟩
    · exact .inr (.inr ⟨choice, other, rfl, rfl, first⟩)

variable {bind : Constructor → EngineAction (Binding α)}
  {ask : Constructor → ExceptT Failure Query (Binding β)} {constructors : List Constructor}
  (lasts : ∀ constructor result outcome engine later, engine.Extends later →
    related engine constructor result outcome → related later constructor result outcome)
  (binds : ∀ constructor ∈ constructors, ∀ engine, Fluent host blueprint options engine →
    Tracks host blueprint options engine (fun engine => Bindings (related engine constructor))
      (bind constructor) (ask constructor))
  (fluent : Fluent host blueprint options engine)
include lasts binds fluent

theorem bindEach (missing : Option String) :
    Tracks host blueprint options engine
      (fun engine found other => List.Forall₂ (Paired related engine) found.1 other.1 ∧
        found.2 = other.2)
      (Constructor.bindEach bind missing constructors)
      (Constructor.bindEach ask missing constructors) := by
  induction constructors generalizing missing engine with
  | nil => exact pure fluent ⟨.nil, rfl⟩
  | cons constructor rest ih =>
    have others : ∀ other ∈ rest, _ := fun other member =>
      binds other (List.mem_cons_of_mem _ member)
    refine (binds constructor List.mem_cons_self engine fluent).bind
      fun binding answer later fluent _ bindings => ?_
    cases bindings with
    | missing parameter => exact ih others fluent _
    | bound holds =>
      refine (ih others fluent missing).bind fun found other last fluent grown ⟨paired, same⟩ => ?_
      exact pure fluent ⟨.cons ⟨rfl, lasts _ _ _ _ _ grown holds⟩ paired, same⟩

theorem selectAt (implementation : String) (arity : Nat) (missing : Option String) :
    Tracks host blueprint options engine
      (fun engine found other => Option.Rel (Paired related engine) found.1 other.1 ∧
        found.2 = other.2)
      (Constructor.selectAt implementation constructors bind arity missing)
      (Constructor.selectAt implementation constructors ask arity missing) := by
  refine (bindEach lasts (fun constructor member => binds constructor (List.mem_filter.1 member).1)
    fluent missing).bind fun ⟨bindable, skipped⟩ ⟨others, passed⟩ later fluent _ ⟨paired, same⟩ => ?_
  dsimp only at paired same ⊢
  obtain ⟨failure, one, two⟩ | ⟨one, two⟩ | ⟨choice, answer, one, two, pair⟩ :=
    settle_paired paired implementation arity
  · rw [one, two]
    exact throw fluent failure failure
  · rw [one, two]
    exact pure fluent ⟨.none, same⟩
  · rw [one, two]
    exact pure fluent ⟨.some pair, same⟩

theorem selectBelow (implementation : String) (missing : Option String) (bound : Nat) :
    Tracks host blueprint options engine (Paired related)
      (Constructor.selectBelow implementation constructors bind missing bound)
      (Constructor.selectBelow implementation constructors ask missing bound) := by
  induction bound generalizing missing engine with
  | zero => exact throw fluent _ _
  | succ arity ih =>
    refine (selectAt lasts binds fluent implementation arity missing).bind
      fun ⟨chosen, skipped⟩ ⟨other, passed⟩ later fluent _ ⟨paired, same⟩ => ?_
    dsimp only at paired same
    subst same
    cases paired with
    | none => exact ih fluent skipped
    | some pair => exact pure fluent pair

theorem select (implementation : String) :
    Tracks host blueprint options engine (Paired related)
      (Constructor.select implementation constructors bind)
      (Constructor.select implementation constructors ask) := by
  unfold Constructor.select
  cases first : constructors.find? (·.preferred) with
  | none => exact selectBelow lasts binds fluent implementation none _
  | some preferred =>
    refine (binds preferred (List.mem_of_find?_eq_some first) engine fluent).bind
      fun binding answer later fluent _ bindings => ?_
    cases bindings with
    | missing parameter => exact throw fluent _ _
    | bound holds => exact pure fluent ⟨rfl, holds⟩

end Choice

end Tracks

end Engine
end ServiceContainer
