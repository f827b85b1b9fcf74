import ServiceContainer.Proofs.CallSite.Made

/-! The answer of the lifetime checks for a graph by itself. Main statement: if the host describes
every service that graphs were asked for, a check gives just this answer, and fails with just this
failure, whatever was checked before. -/
namespace ServiceContainer
open Stateful

theorem ServiceType.canonical_canonical (service : ServiceType) :
    service.canonical.canonical = service.canonical := by
  cases service <;> rfl

namespace CallSite

mutual
/-- The scoped service that a graph needs from the scope it is resolved in, if any, or the failure of
the first singleton in it that needs one. -/
def verdict : CallSite → Except Failure (Option String)
  | .construct site _ _ parameters => verdictAll parameters >>= site.verdict
  | .collect site items => verdictAll items >>= site.verdict
  | .constant site _ => site.verdict none
  | .fallback site _ => site.verdict none
  | .factory site _ => site.verdict none
  | .own site _ => site.verdict none
def verdictAll : List CallSite → Except Failure (Option String)
  | [] => pure none
  | callSite :: rest => do
    let first ← callSite.verdict
    let others ← verdictAll rest
    pure (first.or others)
end

theorem verdict_eq (callSite : CallSite) :
    callSite.verdict = verdictAll callSite.children >>= callSite.site.verdict := by
  cases callSite <;> rw [verdict] <;> rfl

/-- Graphs of one service, kept at one place and with the same children, have one verdict. -/
theorem verdict_congr {one other : CallSite} (location : one.site.location = other.site.location)
    (children : one.children = other.children)
    (named : one.site.location ≠ .nowhere → one.site.service.name = other.site.service.name) :
    one.verdict = other.verdict := by
  rw [verdict_eq, verdict_eq, children]
  congr 1
  funext beneath
  unfold Site.verdict
  rw [← location]
  cases place : one.site.location with
  | nowhere => rfl
  | scope | root => rw [named (by simp [place])]

theorem passes_congr {one other : CallSite} (location : one.site.location = other.site.location)
    (children : one.children = other.children) {verdict : Option String}
    (passes : one.verdict = .ok verdict) : ∃ another, other.verdict = .ok another := by
  rw [verdict_eq] at passes ⊢
  rw [← children]
  cases beneath : verdictAll one.children with
  | error failure =>
    rw [beneath] at passes
    cases passes
  | ok found =>
    rw [beneath] at passes
    change one.site.verdict found = .ok verdict at passes
    change ∃ another, other.site.verdict found = .ok another
    unfold Site.verdict at passes ⊢
    rw [← location]
    cases place : one.site.location with
    | nowhere | scope => exact ⟨_, rfl⟩
    | root =>
      rw [place] at passes
      cases found with
      | none => exact ⟨_, rfl⟩
      | some dependency => cases passes

theorem passes_verdictAll {callSites : List CallSite}
    (passes : ∀ callSite ∈ callSites, ∃ verdict, callSite.verdict = .ok verdict) :
    ∃ verdict, verdictAll callSites = .ok verdict := by
  induction callSites with
  | nil => exact ⟨none, rfl⟩
  | cons callSite rest ih =>
    obtain ⟨first, passed⟩ := passes callSite List.mem_cons_self
    obtain ⟨others, after⟩ := ih fun other listed => passes other (List.mem_cons_of_mem _ listed)
    refine ⟨first.or others, ?_⟩
    rw [verdictAll, passed, after]
    rfl

theorem verdict_of_site {site : Site} {beneath : Option String} {failure : Failure}
    (failed : site.verdict beneath = .error failure) :
    ∃ singleton dependency, failure = .invalidLifetimeCapture singleton dependency := by
  unfold Site.verdict at failed
  split at failed <;> cases failed
  exact ⟨_, _, rfl⟩

mutual
theorem capture_of_verdict : ∀ (callSite : CallSite) (failure : Failure),
    callSite.verdict = .error failure →
      ∃ singleton dependency, failure = .invalidLifetimeCapture singleton dependency
  | .construct site _ _ parameters, failure, failed => by
    rw [verdict] at failed
    cases beneath : verdictAll parameters with
    | error other =>
      rw [beneath] at failed
      cases failed
      exact capture_of_verdictAll parameters _ beneath
    | ok found =>
      rw [beneath] at failed
      exact verdict_of_site failed
  | .collect site items, failure, failed => by
    rw [verdict] at failed
    cases beneath : verdictAll items with
    | error other =>
      rw [beneath] at failed
      cases failed
      exact capture_of_verdictAll items _ beneath
    | ok found =>
      rw [beneath] at failed
      exact verdict_of_site failed
  | .constant _ _, _, failed | .fallback _ _, _, failed | .factory _ _, _, failed
  | .own _ _, _, failed => by
    rw [verdict] at failed
    exact verdict_of_site failed
theorem capture_of_verdictAll : ∀ (callSites : List CallSite) (failure : Failure),
    verdictAll callSites = .error failure →
      ∃ singleton dependency, failure = .invalidLifetimeCapture singleton dependency
  | [], _, failed => by
    rw [verdictAll] at failed
    cases failed
  | callSite :: rest, failure, failed => by
    rw [verdictAll] at failed
    cases first : callSite.verdict with
    | error other =>
      rw [first] at failed
      cases failed
      exact capture_of_verdict callSite _ first
    | ok found =>
      rw [first] at failed
      cases others : verdictAll rest with
      | error other =>
        rw [others] at failed
        cases failed
        exact capture_of_verdictAll rest _ others
      | ok more =>
        rw [others] at failed
        cases failed
end

end CallSite

namespace Memo
open Blueprint
variable {blueprint : Blueprint} {host : Host} {memo later : Memo}

def Answers (memo : Memo) (verdicts : Verdicts) : Prop :=
  ∀ key verdict, verdicts.lookup key = some verdict → ∃ callSite, memo.Holds callSite ∧
    (callSite.site.key == key) = true ∧ callSite.verdict = .ok verdict

def Agrees (memo : Memo) : Prop :=
  ∀ one other, memo.Holds one → memo.Holds other → (one.site.key == other.site.key) = true →
    one.verdict = other.verdict

theorem answers_empty (memo : Memo) : memo.Answers {} := by
  intro key verdict known
  cases known

theorem Answers.mono {verdicts : Verdicts} (answers : memo.Answers verdicts)
    (grows : memo.Grows later) : later.Answers verdicts := by
  intro key verdict known
  obtain ⟨callSite, held, rest⟩ := answers key verdict known
  exact ⟨callSite, held.mono grows, rest⟩

theorem Answers.insert {verdicts : Verdicts} (answers : memo.Answers verdicts) {callSite : CallSite}
    {verdict : Option String} (held : memo.Holds callSite) (judged : callSite.verdict = .ok verdict) :
    memo.Answers (verdicts.insert callSite.site.key verdict) := by
  intro key other known
  rw [Table.lookup_insert] at known
  split at known
  · rename_i same
    cases known
    exact ⟨callSite, held, same, judged⟩
  · exact answers key other known

/-- The check gives the answer, and leaves only answers that are verdicts. -/
def Finds (memo : Memo) (answer : Except Failure (Option String))
    (check : Check (Option String)) : Prop :=
  ∀ verdicts, memo.Answers verdicts →
    ∃ after, check.run verdicts = (answer, after) ∧ memo.Answers after

section Checks
variable (agrees : memo.Agrees)
include agrees

theorem finds_site {callSite : CallSite} (held : memo.Holds callSite)
    (beneath : memo.Finds (CallSite.verdictAll callSite.children)
      (CallSite.checkAll callSite.children)) :
    memo.Finds callSite.verdict callSite.checkLifetimes := by
  intro verdicts answers
  rw [CallSite.checkLifetimes_eq, Site.run_check]
  cases known : verdicts.lookup callSite.site.key with
  | some verdict =>
    obtain ⟨other, holds, same, judged⟩ := answers _ _ known
    rw [← agrees other callSite holds held same, judged]
    exact ⟨verdicts, rfl, answers⟩
  | none =>
    obtain ⟨between, checked, kept⟩ := beneath verdicts answers
    dsimp only
    rw [run_bind, checked]
    cases answered : CallSite.verdictAll callSite.children with
    | error failure =>
      rw [CallSite.verdict_eq, answered]
      exact ⟨between, rfl, kept⟩
    | ok found =>
      have whole : callSite.verdict = callSite.site.verdict found := by
        rw [CallSite.verdict_eq, answered]
        rfl
      dsimp only
      rw [run_bind, run_mk, ← whole]
      cases judged : callSite.verdict with
      | error failure => exact ⟨between, rfl, kept⟩
      | ok verdict => exact ⟨_, rfl, kept.insert held judged⟩

omit agrees in
theorem finds_nil : memo.Finds (CallSite.verdictAll []) (CallSite.checkAll []) := by
  intro verdicts answers
  rw [CallSite.checkAll, CallSite.verdictAll]
  exact ⟨verdicts, rfl, answers⟩

omit agrees in
theorem finds_cons {callSite : CallSite} {others : List CallSite}
    (first : memo.Finds callSite.verdict callSite.checkLifetimes)
    (rest : memo.Finds (CallSite.verdictAll others) (CallSite.checkAll others)) :
    memo.Finds (CallSite.verdictAll (callSite :: others))
      (CallSite.checkAll (callSite :: others)) := by
  intro verdicts answers
  obtain ⟨between, checked, kept⟩ := first verdicts answers
  obtain ⟨last, followed, left⟩ := rest between kept
  rw [CallSite.checkAll, CallSite.verdictAll, run_bind, checked]
  cases callSite.verdict with
  | error failure => exact ⟨between, rfl, kept⟩
  | ok one =>
    dsimp only
    rw [run_bind, followed]
    cases CallSite.verdictAll others <;> exact ⟨last, rfl, left⟩

end Checks

mutual
theorem finds_checkLifetimes (agrees : memo.Agrees) (sound : Sound blueprint memo) :
    ∀ callSite : CallSite, memo.Holds callSite →
      memo.Finds callSite.verdict callSite.checkLifetimes
  | .construct _ _ _ parameters, held =>
    finds_site agrees held (finds_checkAll agrees sound parameters (held.child sound))
  | .collect _ items, held =>
    finds_site agrees held (finds_checkAll agrees sound items (held.child sound))
  | .constant _ _, held | .fallback _ _, held | .factory _ _, held | .own _ _, held =>
    finds_site agrees held finds_nil
theorem finds_checkAll (agrees : memo.Agrees) (sound : Sound blueprint memo) :
    ∀ callSites : List CallSite, (∀ callSite ∈ callSites, memo.Holds callSite) →
      memo.Finds (CallSite.verdictAll callSites) (CallSite.checkAll callSites)
  | [], _ => finds_nil
  | callSite :: rest, held =>
    finds_cons (finds_checkLifetimes agrees sound callSite (held callSite List.mem_cons_self))
      (finds_checkAll agrees sound rest fun other listed =>
        held other (List.mem_cons_of_mem _ listed))
end

theorem Holds.speaks {callSite : CallSite} (held : memo.Holds callSite)
    (built : memo.Built blueprint) (spoken : memo.Spoken host)
    (kept : callSite.site.location ≠ .nowhere) : host.Speaks callSite.site.service ∧
      (callSite.site.key.service.canonical == callSite.site.service.canonical) = true := by
  obtain ⟨key, known⟩ | ⟨service, value, rfl, _⟩ := held
  · obtain ⟨filed, _, stored⟩ := Table.mem_entries known
    obtain ⟨target, lists, rfl, yields⟩ := built.filed _ stored
    have described : host.Speaks target.key.service := spoken _ stored
    have registered : ∀ {service : ServiceType} {position slot : Nat} {descriptor : Descriptor}
        {name : String}, blueprint.registry.Picks target service position slot →
        blueprint.registry.descriptors[position]? = some descriptor →
        callSite.site = registeredSite descriptor service slot name →
        host.Speaks callSite.site.service ∧
          (callSite.site.key.service.canonical == callSite.site.service.canonical) = true := by
      intro service position slot descriptor name picked registered site
      have served := picked.served lists
      have speaks : host.Speaks service := by cases picked <;> exact described
      rw [site]
      refine ⟨speaks, ?_⟩
      change ((instanceKey descriptor service slot).service.canonical == service.canonical) = true
      by_cases opened : descriptor.isOpenGeneric = true
      · rw [instanceKey, if_pos opened]
        exact BEq.rfl
      · have closed : descriptor.isOpenGeneric = false := Bool.not_eq_true _ ▸ opened
        rw [instanceKey, if_neg opened, ServiceType.canonical_canonical]
        exact (Registry.slot_of_exact registered closed served).1
    cases assembles_of_plan yields with
    | own | collect | fixed => exact absurd rfl kept
    | produced picked listed _ | constructed picked listed _ _ _ | opened picked listed _ _ _ =>
      exact registered picked listed rfl
  · exact absurd rfl kept

theorem Built.agrees (built : memo.Built blueprint) (sound : Sound blueprint memo)
    (spoken : memo.Spoken host) : memo.Agrees := by
  intro one other held too same
  obtain ⟨location, children⟩ := held.congr too sound spoken.lawful same
  refine CallSite.verdict_congr location children fun kept => ?_
  obtain ⟨speaks, filed⟩ := held.speaks built spoken kept
  obtain ⟨again, files⟩ := too.speaks built spoken (location ▸ kept)
  have keys := ServiceType.canonical_congr (CacheKey.beq_iff.1 same).1
  exact speaks.name_congr again (BEq.trans (BEq.symm filed) (BEq.trans keys files))

end Memo
end ServiceContainer
