import Mathlib.Data.List.Forall2
import ServiceContainer.Proofs.CallSite.Query

/-! What a plan yields when its questions are answered. Main statement: a graph that a plan
yields is one of six shapes, and its children are the answers, in order, or defaults. -/
namespace ServiceContainer

theorem exists_of_forall₂ {α β : Type} {related : α → β → Prop} {firsts : List α} {seconds : List β}
    (all : List.Forall₂ related firsts seconds) {second : β} (member : second ∈ seconds) :
    ∃ first ∈ firsts, related first second := by
  induction all with
  | nil => cases member
  | cons here _ ih =>
    obtain rfl | member := List.mem_cons.1 member
    · exact ⟨_, List.mem_cons_self, here⟩
    · obtain ⟨first, listed, there⟩ := ih member
      exact ⟨first, List.mem_cons_of_mem _ listed, there⟩

namespace Query
variable {α β : Type}

/-- The query ends with the result if its questions are answered as allowed. -/
inductive Yields (answers : Target → Option CallSite → Prop) : Query α → α → Prop
  | done (result : α) : Yields answers (.done result) result
  | ask {target : Target} {next : Option CallSite → Query α} {found : Option CallSite} {result : α}
      (answered : answers target found) (rest : Yields answers (next found) result) :
      Yields answers (.ask target next) result

namespace Yields
variable {answers other : Target → Option CallSite → Prop}

theorem mono {query : Query α} {result : α} (h : query.Yields answers result)
    (weaker : ∀ target found, answers target found → other target found) :
    query.Yields other result := by
  induction h with
  | done result => exact .done result
  | ask answered _ ih => exact .ask (weaker _ _ answered) ih

theorem unique (functional : ∀ target one another, answers target one → answers target another →
    one = another) {query : Query α} {result last : α} (first : query.Yields answers result)
    (second : query.Yields answers last) : result = last := by
  induction first with
  | done result =>
    cases second
    rfl
  | ask answered _ ih =>
    cases second with
    | ask again rest =>
      cases functional _ _ _ answered again
      exact ih rest

theorem pure_iff {value : α} {result : Except Failure α} :
    Yields answers (pure value : ExceptT Failure Query α) result ↔ result = .ok value := by
  constructor
  · rintro ⟨⟩
    rfl
  · rintro rfl
    exact .done _

theorem throw_iff {failure : Failure} {result : Except Failure α} :
    Yields answers (throw failure : ExceptT Failure Query α) result ↔
      result = .error failure := by
  constructor
  · rintro ⟨⟩
    rfl
  · rintro rfl
    exact .done _

theorem mk_iff {outcome result : Except Failure α} :
    Yields answers (ExceptT.mk (pure outcome) : ExceptT Failure Query α) result ↔
      result = outcome := by
  constructor
  · rintro ⟨⟩
    rfl
  · rintro rfl
    exact .done _

theorem request_iff {target : Target} {found : Option CallSite} :
    Yields answers (request target) (.ok found) ↔ answers target found := by
  constructor
  · rintro (_ | ⟨answered, rest⟩)
    cases rest
    exact answered
  · intro answered
    exact .ask answered (.done _)

theorem bind_ok_iff {query : ExceptT Failure Query α} {next : α → ExceptT Failure Query β}
    {result : β} :
    Yields answers (query >>= next : ExceptT Failure Query β) (.ok result) ↔
      ∃ value, Yields answers query (.ok value) ∧ Yields answers (next value) (.ok result) := by
  change Yields answers (Query.bind query (ExceptT.bindCont next)) (.ok result) ↔ _
  constructor
  · intro h
    induction query with
    | done outcome =>
      cases outcome with
      | ok value => exact ⟨value, .done _, h⟩
      | error failure => cases h
    | ask target rest ih =>
      cases h with
      | ask answered tail =>
        obtain ⟨value, first, second⟩ := ih _ tail
        exact ⟨value, .ask answered first, second⟩
  · rintro ⟨value, first, second⟩
    generalize outcome : (Except.ok value : Except Failure α) = ended at first
    induction first with
    | done result =>
      subst outcome
      exact second
    | ask answered _ ih => exact .ask answered (ih outcome)

theorem bind_error {query : ExceptT Failure Query α} {next : α → ExceptT Failure Query β}
    {failure : Failure}
    (h : Yields answers (query >>= next : ExceptT Failure Query β) (.error failure)) :
    Yields answers query (.error failure) ∨
      ∃ value, Yields answers query (.ok value) ∧ Yields answers (next value) (.error failure) := by
  change Yields answers (Query.bind query (ExceptT.bindCont next)) (.error failure) at h
  induction query with
  | done outcome =>
    cases outcome with
    | ok value => exact .inr ⟨value, .done _, h⟩
    | error other =>
      cases h
      exact .inl (.done _)
  | ask target rest ih =>
    cases h with
    | ask answered tail =>
      obtain failed | ⟨value, first, second⟩ := ih _ tail
      · exact .inl (.ask answered failed)
      · exact .inr ⟨value, .ask answered first, second⟩

theorem map_ok_iff {query : ExceptT Failure Query α} {f : α → β} {result : β} :
    Yields answers (f <$> query : ExceptT Failure Query β) (.ok result) ↔
      ∃ value, Yields answers query (.ok value) ∧ f value = result := by
  rw [← bind_pure_comp, bind_ok_iff]
  simp only [pure_iff, Except.ok.injEq, eq_comm]

theorem of_bindEach {bind : Constructor → ExceptT Failure Query (Binding β)}
    {constructors : List Constructor} {missing last : Option String}
    {bindable : List (Constructor × β)}
    (h : Yields answers (Constructor.bindEach bind missing constructors) (.ok (bindable, last))) :
    ∀ choice ∈ bindable, choice.1 ∈ constructors ∧
      Yields answers (bind choice.1) (.ok (.bound choice.2)) := by
  induction constructors generalizing missing last bindable with
  | nil =>
    cases pure_iff.1 h
    simp
  | cons constructor rest ih =>
    rw [Constructor.bindEach, bind_ok_iff] at h
    obtain ⟨binding, first, h⟩ := h
    cases binding with
    | missing parameter =>
      intro choice member
      have later := ih h choice member
      exact ⟨List.mem_cons_of_mem _ later.1, later.2⟩
    | bound result =>
      obtain ⟨⟨others, _⟩, tail, h⟩ := bind_ok_iff.1 h
      cases pure_iff.1 h
      intro choice member
      cases member with
      | head => exact ⟨List.mem_cons_self, first⟩
      | tail _ member =>
        have later := ih tail choice member
        exact ⟨List.mem_cons_of_mem _ later.1, later.2⟩

theorem settle_ok {implementation : String} {arity : Nat} {bindable : List (Constructor × β)}
    {choice : Constructor × β}
    (h : Constructor.settle implementation arity bindable = .ok (some choice)) :
    choice ∈ bindable := by
  cases bindable with
  | nil => cases h
  | cons chosen others =>
    simp only [Constructor.settle] at h
    split at h
    · cases h
    · cases h
      exact List.mem_cons_self

theorem of_selectBelow {bind : Constructor → ExceptT Failure Query (Binding β)}
    {implementation : String} {constructors : List Constructor} {missing : Option String}
    {bound : Nat} {choice : Constructor × β}
    (h : Yields answers
      (Constructor.selectBelow implementation constructors bind missing bound) (.ok choice)) :
    choice.1 ∈ constructors ∧ Yields answers (bind choice.1) (.ok (.bound choice.2)) := by
  induction bound generalizing missing with
  | zero => cases throw_iff.1 h
  | succ arity ih =>
    rw [Constructor.selectBelow, bind_ok_iff] at h
    obtain ⟨⟨chosen, later⟩, selected, h⟩ := h
    cases chosen with
    | none => exact ih h
    | some chosen =>
      cases pure_iff.1 h
      rw [Constructor.selectAt, bind_ok_iff] at selected
      obtain ⟨⟨bindable, _⟩, each, selected⟩ := selected
      obtain ⟨settled, agreed, selected⟩ := bind_ok_iff.1 selected
      cases pure_iff.1 selected
      have member := settle_ok (mk_iff.1 agreed).symm
      have found := of_bindEach each choice member
      exact ⟨(List.mem_filter.1 found.1).1, found.2⟩

theorem of_select {bind : Constructor → ExceptT Failure Query (Binding β)}
    {implementation : String} {constructors : List Constructor} {choice : Constructor × β}
    (h : Yields answers (Constructor.select implementation constructors bind) (.ok choice)) :
    choice.1 ∈ constructors ∧ Yields answers (bind choice.1) (.ok (.bound choice.2)) := by
  unfold Constructor.select at h
  cases found : constructors.find? (·.preferred) with
  | none =>
    rw [found] at h
    exact of_selectBelow h
  | some preferred =>
    rw [found] at h
    obtain ⟨binding, first, h⟩ := bind_ok_iff.1 h
    cases binding with
    | missing parameter => cases throw_iff.1 h
    | bound result =>
      cases pure_iff.1 h
      exact ⟨List.mem_of_find?_eq_some found, first⟩

end Yields
end Query

namespace Blueprint
open Query
variable {answers : Target → Option CallSite → Prop}

/-- A parameter is bound to the answer for its service, or else to its default. -/
inductive Binds (answers : Target → Option CallSite → Prop) (parameter : Parameter) :
    CallSite → Prop where
  | found {callSite : CallSite} (answered : answers (.single parameter.service) (some callSite)) :
      Binds answers parameter callSite
  | fallback {value : Value} (unanswered : answers (.single parameter.service) none)
      (default : parameter.fallback = some value) :
      Binds answers parameter (fallbackCallSite parameter.service value)

theorem Binds.mono {others : Target → Option CallSite → Prop} {parameter : Parameter}
    {callSite : CallSite} (binds : Binds answers parameter callSite)
    (more : ∀ target found, answers target found → others target found) :
    Binds others parameter callSite := by
  cases binds with
  | found answered => exact .found (more _ _ answered)
  | fallback unanswered default => exact .fallback (more _ _ unanswered) default

theorem forall₂_of_bindParameters {parameters : List Parameter} {callSites : List CallSite}
    (h : Yields answers (bindParameters request parameters) (.ok (.bound callSites))) :
    List.Forall₂ (Binds answers) parameters callSites := by
  induction parameters generalizing callSites with
  | nil =>
    cases Yields.pure_iff.1 h
    exact .nil
  | cons parameter rest ih =>
    rw [bindParameters, Yields.bind_ok_iff] at h
    obtain ⟨found, answered, h⟩ := h
    rw [Yields.request_iff] at answered
    cases bound : found.or (parameter.fallback.map (fallbackCallSite parameter.service)) with
    | none =>
      rw [bound] at h
      cases Yields.pure_iff.1 h
    | some callSite =>
      rw [bound] at h
      obtain ⟨binding, tail, h⟩ := Yields.bind_ok_iff.1 h
      cases binding with
      | missing service => cases Yields.pure_iff.1 h
      | bound others =>
        cases Yields.pure_iff.1 h
        refine .cons ?_ (ih tail)
        cases found with
        | some found =>
          cases bound
          exact .found answered
        | none =>
          obtain ⟨value, default, rfl⟩ := Option.map_eq_some_iff.1 bound
          exact .fallback answered default

theorem forall₂_of_collectMembers {element : ServiceType} {members : List (Nat × Nat)}
    {items : List CallSite}
    (h : Yields answers (collectMembers request element members) (.ok items)) :
    ∃ founds : List (Option CallSite),
      List.Forall₂ (fun member found => answers (.member element member.1 member.2) found)
        members founds ∧ items = founds.flatMap Option.toList := by
  induction members generalizing items with
  | nil =>
    cases Yields.pure_iff.1 h
    exact ⟨[], .nil, rfl⟩
  | cons member rest ih =>
    rw [collectMembers, Yields.bind_ok_iff] at h
    obtain ⟨found, answered, h⟩ := h
    obtain ⟨others, tail, h⟩ := Yields.bind_ok_iff.1 h
    cases Yields.pure_iff.1 h
    obtain ⟨founds, related, rfl⟩ := ih tail
    exact ⟨found :: founds, .cons (Yields.request_iff.1 answered) related, rfl⟩

end Blueprint
end ServiceContainer
