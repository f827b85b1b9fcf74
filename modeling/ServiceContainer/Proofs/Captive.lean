import ServiceContainer.Captive
import ServiceContainer.Proofs.CallSite.Congruence
import ServiceContainer.Proofs.Stateful

/-! What the lifetime checks of a graph find out. A graph is exposed if its execution for a scope
would make a scoped service for that very scope, and sheltered if no singleton in it has such a
child. Main statement: a graph that passes the checks is sheltered, and not exposed if no scoped
service was found, whatever had been checked before. -/
namespace ServiceContainer
open Stateful

theorem Site.run_check (site : Site) (children : Check (Option String)) (verdicts : Verdicts) :
    (site.check children).run verdicts =
      match verdicts.lookup site.key with
      | some known => (.ok known, verdicts)
      | none =>
        (do
          let beneath ← children
          let verdict ← ExceptT.mk (pure (site.verdict beneath))
          modify (·.insert site.key verdict)
          pure verdict : Check (Option String)).run verdicts := by
  rw [Site.check, run_get_bind]
  cases verdicts.lookup site.key <;> rfl

namespace CallSite

/-- The call site is scoped, or it passes its scope on to a child that is exposed. -/
inductive Exposed : CallSite → Prop where
  | here {callSite : CallSite} (kept : callSite.site.location = .scope) : Exposed callSite
  | beneath {callSite child : CallSite} (unkept : callSite.site.location = .nowhere)
      (member : child ∈ callSite.children) (exposed : Exposed child) : Exposed callSite

/-- No singleton in the graph has an exposed child. -/
inductive Sheltered : CallSite → Prop where
  | intro {callSite : CallSite}
      (own : callSite.site.location = .root → ∀ child ∈ callSite.children, ¬child.Exposed)
      (beneath : ∀ child ∈ callSite.children, Sheltered child) : Sheltered callSite

variable {callSite another : CallSite}

theorem Exposed.congr (exposed : callSite.Exposed)
    (location : callSite.site.location = another.site.location)
    (children : callSite.children = another.children) : another.Exposed := by
  cases exposed with
  | here kept => exact .here (location ▸ kept)
  | beneath unkept member exposed => exact .beneath (location ▸ unkept) (children ▸ member) exposed

theorem Sheltered.congr (sheltered : callSite.Sheltered)
    (location : callSite.site.location = another.site.location)
    (children : callSite.children = another.children) : another.Sheltered := by
  obtain ⟨own, beneath⟩ := sheltered
  exact ⟨location ▸ children ▸ own, children ▸ beneath⟩

theorem Sheltered.child (sheltered : callSite.Sheltered) {inner : CallSite}
    (member : inner ∈ callSite.children) : inner.Sheltered := by
  obtain ⟨_, beneath⟩ := sheltered
  exact beneath inner member

/-- A singleton is made for the root, and leaves the scope that asked alone. -/
theorem not_exposed_of_root (kept : callSite.site.location = .root) : ¬callSite.Exposed := by
  intro exposed
  cases exposed with
  | here other | beneath other _ _ => cases kept.symm.trans other

theorem Sheltered.not_exposed_child (sheltered : callSite.Sheltered) (clear : ¬callSite.Exposed)
    {inner : CallSite} (member : inner ∈ callSite.children) : ¬inner.Exposed := by
  obtain ⟨own, _⟩ := sheltered
  intro exposed
  cases location : callSite.site.location with
  | root => exact own location inner member exposed
  | scope => exact clear (.here location)
  | nowhere => exact clear (.beneath location member exposed)

theorem checkLifetimes_eq (callSite : CallSite) :
    callSite.checkLifetimes = callSite.site.check (checkAll callSite.children) := by
  cases callSite <;> rw [checkLifetimes] <;> rfl

end CallSite

namespace Memo
variable {blueprint : Blueprint} {memo later : Memo}

/-- The answer for a graph: it is sheltered, and nothing was found only if it is not exposed. -/
def Judges (callSite : CallSite) (verdict : Option String) : Prop :=
  callSite.Sheltered ∧ (verdict = none → ¬callSite.Exposed)

def Backs (memo : Memo) (verdicts : Verdicts) : Prop :=
  ∀ key verdict, verdicts.lookup key = some verdict → ∃ callSite, memo.Holds callSite ∧
    (callSite.site.key == key) = true ∧ Judges callSite verdict

theorem backs_empty (memo : Memo) : memo.Backs {} := by
  intro key verdict known
  cases known

theorem Backs.mono {verdicts : Verdicts} (backs : memo.Backs verdicts) (grows : memo.Grows later) :
    later.Backs verdicts := by
  intro key verdict known
  obtain ⟨callSite, held, rest⟩ := backs key verdict known
  exact ⟨callSite, held.mono grows, rest⟩

theorem Backs.insert {verdicts : Verdicts} (backs : memo.Backs verdicts) {callSite : CallSite}
    {verdict : Option String} (held : memo.Holds callSite) (judged : Judges callSite verdict) :
    memo.Backs (verdicts.insert callSite.site.key verdict) := by
  intro key other known
  rw [Table.lookup_insert] at known
  split at known
  · rename_i same
    cases known
    exact ⟨callSite, held, same, judged⟩
  · exact backs key other known

/-- The check leaves only answers that are backed, and its own answer is one to the question. -/
def Checks (memo : Memo) (asked : Option String → Prop) (check : Check (Option String)) : Prop :=
  ∀ verdicts, memo.Backs verdicts → ∀ result after, check.run verdicts = (result, after) →
    memo.Backs after ∧ ∀ verdict, result = .ok verdict → asked verdict

theorem judges_of_verdict {callSite : CallSite} {beneath verdict : Option String}
    (children : ∀ child ∈ callSite.children, Judges child beneath)
    (judged : callSite.site.verdict beneath = .ok verdict) : Judges callSite verdict := by
  have sheltered : ∀ child ∈ callSite.children, child.Sheltered :=
    fun child member => (children child member).1
  unfold Site.verdict at judged
  cases location : callSite.site.location with
  | root =>
    rw [location] at judged
    cases beneath with
    | some dependency => cases judged
    | none =>
      refine ⟨⟨fun _ child member => (children child member).2 rfl, sheltered⟩, fun _ => ?_⟩
      exact CallSite.not_exposed_of_root location
  | scope =>
    rw [location] at judged
    cases judged
    exact ⟨⟨by simp [location], sheltered⟩, by rintro ⟨⟩⟩
  | nowhere =>
    rw [location] at judged
    cases judged
    refine ⟨⟨by simp [location], sheltered⟩, fun none exposed => ?_⟩
    cases exposed with
    | here kept => cases location.symm.trans kept
    | beneath _ member exposed => exact (children _ member).2 none exposed

theorem checks_site (sound : Sound blueprint memo) (lawful : memo.Lawful) {callSite : CallSite}
    (held : memo.Holds callSite) {children : Check (Option String)}
    (beneath : memo.Checks (fun verdict => ∀ child ∈ callSite.children, Judges child verdict)
      children) : memo.Checks (Judges callSite) (callSite.site.check children) := by
  intro verdicts backs result after ended
  rw [Site.run_check] at ended
  cases known : verdicts.lookup callSite.site.key with
  | some verdict =>
    rw [known] at ended
    cases ended
    refine ⟨backs, ?_⟩
    rintro _ ⟨⟩
    obtain ⟨other, holds, same, sheltered, clear⟩ := backs _ _ known
    obtain ⟨location, same⟩ := holds.congr held sound lawful same
    exact ⟨sheltered.congr location same,
      fun none exposed => clear none (exposed.congr location.symm same.symm)⟩
  | none =>
    rw [known] at ended
    obtain ⟨found, between, checked, rest⟩ | ⟨failure, checked, rfl⟩ := run_bind_eq ended
    · obtain ⟨kept, judged⟩ := beneath verdicts backs _ _ checked
      obtain ⟨verdict, _, settled, rest⟩ | ⟨failure, settled, rfl⟩ := run_bind_eq rest
      · rw [run_mk] at settled
        obtain ⟨answer, rfl⟩ := Prod.mk.inj settled
        have judges := judges_of_verdict (judged found rfl) answer
        cases rest
        refine ⟨kept.insert held judges, ?_⟩
        rintro _ ⟨⟩
        exact judges
      · rw [run_mk] at settled
        obtain ⟨_, rfl⟩ := Prod.mk.inj settled
        exact ⟨kept, by rintro _ ⟨⟩⟩
    · exact ⟨(beneath verdicts backs _ _ checked).1, by rintro _ ⟨⟩⟩

theorem checks_nil (memo : Memo) : memo.Checks (fun verdict =>
    ∀ callSite ∈ ([] : List CallSite), Judges callSite verdict) (CallSite.checkAll []) := by
  intro verdicts backs result after ended
  rw [CallSite.checkAll] at ended
  cases ended
  exact ⟨backs, by simp⟩

theorem checks_cons {callSite : CallSite} {others : List CallSite}
    (first : memo.Checks (Judges callSite) callSite.checkLifetimes)
    (rest : memo.Checks (fun verdict => ∀ other ∈ others, Judges other verdict)
      (CallSite.checkAll others)) :
    memo.Checks (fun verdict => ∀ other ∈ callSite :: others, Judges other verdict)
      (CallSite.checkAll (callSite :: others)) := by
  intro verdicts backs result after ended
  rw [CallSite.checkAll] at ended
  obtain ⟨one, between, checked, ended⟩ | ⟨failure, checked, rfl⟩ := run_bind_eq ended
  · obtain ⟨kept, judged⟩ := first verdicts backs _ _ checked
    obtain ⟨more, last, followed, ended⟩ | ⟨failure, followed, rfl⟩ := run_bind_eq ended
    · obtain ⟨left, others⟩ := rest between kept _ _ followed
      cases ended
      refine ⟨left, ?_⟩
      rintro _ ⟨⟩ other member
      obtain rfl | member := List.mem_cons.1 member
      · obtain ⟨sheltered, clear⟩ := judged one rfl
        exact ⟨sheltered, fun none => clear (Option.or_eq_none_iff.1 none).1⟩
      · obtain ⟨sheltered, clear⟩ := others more rfl other member
        exact ⟨sheltered, fun none => clear (Option.or_eq_none_iff.1 none).2⟩
    · exact ⟨(rest between kept _ _ followed).1, by rintro _ ⟨⟩⟩
  · exact ⟨(first verdicts backs _ _ checked).1, by rintro _ ⟨⟩⟩

mutual
/-- A graph that passes its check is sheltered, and exposed only if a scoped service is reported. -/
theorem checks_checkLifetimes (sound : Sound blueprint memo) (lawful : memo.Lawful) :
    ∀ callSite : CallSite, memo.Holds callSite →
      memo.Checks (Judges callSite) callSite.checkLifetimes
  | .construct site activate cast parameters, held => by
    rw [CallSite.checkLifetimes_eq]
    exact checks_site sound lawful held
      (checks_checkAll sound lawful parameters (held.child sound))
  | .collect site items, held => by
    rw [CallSite.checkLifetimes_eq]
    exact checks_site sound lawful held
      (checks_checkAll sound lawful items (held.child sound))
  | .constant site value, held | .fallback site value, held | .factory site body, held
  | .own site service, held => by
    rw [CallSite.checkLifetimes_eq]
    exact checks_site sound lawful held (checks_nil memo)
theorem checks_checkAll (sound : Sound blueprint memo) (lawful : memo.Lawful) :
    ∀ callSites : List CallSite, (∀ callSite ∈ callSites, memo.Holds callSite) →
      memo.Checks (fun verdict => ∀ callSite ∈ callSites, Judges callSite verdict)
        (CallSite.checkAll callSites)
  | [], _ => checks_nil memo
  | callSite :: rest, held =>
    checks_cons (checks_checkLifetimes sound lawful callSite (held callSite List.mem_cons_self))
      (checks_checkAll sound lawful rest fun other member => held other (List.mem_cons_of_mem _ member))
end

end Memo
end ServiceContainer
