import ServiceContainer.Proofs.CallSite.Transparency

/-! How a memo fills up. Builds add graphs one after the other, each once all that its plan asks for
is there. Main statement: if the host describes every service that graphs were asked for, each graph
in the memo is the one of the very target that it is filed under. -/
namespace ServiceContainer
open Relation

theorem Table.entries_insert {κ α : Type} [BEq κ] {table : Table κ α} {key : κ} {value : α}
    (fresh : table.lookup key = none) :
    (table.insert key value).entries = table.entries ++ [(key, value)] := by
  obtain ⟨entries⟩ := table
  rw [lookup, Option.map_eq_none_iff] at fresh
  induction entries with
  | nil => rfl
  | cons entry rest ih =>
    rw [List.find?_cons] at fresh
    split at fresh
    · cases fresh
    · rename_i apart
      change insertEntry key value (entry :: rest) = _
      rw [insertEntry, apart, if_neg Bool.false_ne_true, List.cons_append]
      exact congrArg (entry :: ·) (ih fresh)

theorem Table.mem_entries {κ α : Type} [BEq κ] {table : Table κ α} {key : κ} {value : α}
    (known : table.lookup key = some value) :
    ∃ filed, (filed == key) = true ∧ (filed, value) ∈ table.entries := by
  obtain ⟨entry, found, rfl⟩ := Option.map_eq_some_iff.1 known
  have same := List.find?_some found
  exact ⟨entry.1, same, List.mem_of_find?_eq_some found⟩

namespace Memo
variable {blueprint : Blueprint} {host : Host} {allowed : Target → Prop} {memo later : Memo}

/-- A graph is added that was missing: that of an allowed target, as the memo answers the questions
of its plan. -/
inductive Adds (blueprint : Blueprint) (allowed : Target → Prop) : Memo → Memo → Prop where
  | intro {memo : Memo} {target : Target} {found : Option CallSite} (fits : allowed target)
      (fresh : memo.lookup target.key = none)
      (yields : (blueprint.plan target).Yields memo.Records (.ok found)) :
      Adds blueprint allowed memo (memo.insert target.key found)

def Built (blueprint : Blueprint) (memo : Memo) : Prop :=
  ReflTransGen (Adds blueprint blueprint.registry.Lists) {} memo

/-- All services that graphs were asked for are described by the host. -/
def Spoken (host : Host) (memo : Memo) : Prop := ∀ entry ∈ memo.entries, host.Speaks entry.1.service

/-- Every graph is the one of a proper target, and filed under its key. -/
def Made (blueprint : Blueprint) (host : Host) (memo : Memo) : Prop :=
  ∀ entry ∈ memo.entries, ∃ target, blueprint.Proper host target ∧ target.key = entry.1 ∧
    blueprint.Builds target entry.2

theorem spoken_empty (host : Host) : Spoken host {} := by
  intro entry listed
  cases listed

theorem spoken_of_calls (called : (memo.entries.all fun entry => host.calls entry.1.service) = true) :
    memo.Spoken host :=
  fun entry listed => Host.speaks_of_calls (List.all_eq_true.1 called entry listed)

theorem Spoken.of_adds (spoken : later.Spoken host)
    (added : ReflTransGen (Adds blueprint allowed) memo later) : memo.Spoken host := by
  induction added with
  | refl => exact spoken
  | tail _ last ih =>
    refine ih fun entry listed => spoken entry ?_
    obtain ⟨_, fresh, _⟩ := last
    rw [Table.entries_insert fresh]
    exact List.mem_append_left _ listed

theorem spoken_of_adds (spoken : memo.Spoken host)
    (added : ReflTransGen (Adds blueprint (blueprint.Proper host)) memo later) :
    later.Spoken host := by
  induction added with
  | refl => exact spoken
  | tail _ last ih =>
    obtain ⟨fits, fresh, _⟩ := last
    rw [Spoken, Table.entries_insert fresh]
    intro entry listed
    obtain old | new := List.mem_append.1 listed
    · exact ih entry old
    · rw [List.mem_singleton.1 new]
      cases ‹Target› <;> exact fits.speaks

theorem Spoken.lawful (spoken : memo.Spoken host) : memo.Lawful := by
  intro closed definition arguments slot known
  obtain ⟨found, recorded⟩ := Option.ne_none_iff_exists'.1 known
  obtain ⟨⟨filed, place⟩, same, listed⟩ := Table.mem_entries recorded
  obtain ⟨services, _⟩ := CacheKey.beq_iff.1 same
  have speaks : host.Speaks filed := spoken _ listed
  cases filed with
  | plain info => cases services
  | collection element => cases services
  | generic other _ _ =>
    have ids : other.id = closed.id := eq_of_beq services
    rw [← ids]
    exact speaks.own?_generic

end Memo

namespace Blueprint
open Query
variable {blueprint : Blueprint} {host : Host} {memo : Memo}

/-- What a plan yields from answers that are graphs of their targets, is the graph of its own. -/
theorem builds_of_yields {answers : Target → Option CallSite → Prop} {target : Target}
    {found : Option CallSite} (yields : (blueprint.plan target).Yields answers (.ok found))
    (graphs : ∀ asked answer, blueprint.MayAsk target asked → answers asked answer →
      blueprint.Builds asked answer) : blueprint.Builds target found := by
  suffices deep : ∃ depth, (blueprint.plan target).answer (blueprint.buildPlain depth) = .ok found by
    obtain ⟨depth, ended⟩ := deep
    exact ⟨depth + 1, ended⟩
  have only : (blueprint.plan target).Only (blueprint.MayAsk target) := only_plan target
  generalize blueprint.plan target = query at yields only
  generalize result_eq : Except.ok found = result at yields
  -- The answers were built at some depths; the greatest of them is enough for the whole plan.
  induction yields with
  | done result =>
    subst result_eq
    exact ⟨0, rfl⟩
  | @ask asked next answer result answered rest ih =>
    subst result_eq
    obtain ⟨depth, built⟩ := graphs asked answer only.1 answered
    obtain ⟨more, ended⟩ := ih (only.2 answer) rfl
    refine ⟨max depth more, ?_⟩
    rw [Query.answer, buildPlain_mono (Nat.le_max_left depth more) built]
    exact answer_of_reaches (fun _ _ => True) (fun _ _ _ => trivial)
      (fun _ _ _ built => buildPlain_mono (Nat.le_max_right depth more) built) ended

theorem Builds.yields {target : Target} {found : Option CallSite}
    (builds : blueprint.Builds target found) :
    (blueprint.plan target).Yields blueprint.Builds (.ok found) := by
  obtain ⟨depth, built⟩ := builds
  cases depth with
  | zero => cases built
  | succ depth =>
    rw [buildPlain] at built
    generalize blueprint.plan target = query at built
    induction query with
    | done result =>
      cases built
      exact .done _
    | ask asked next ih =>
      rw [Query.answer] at built
      cases ended : blueprint.buildPlain depth asked with
      | error failure =>
        rw [ended] at built
        cases built
      | ok answer =>
        rw [ended] at built
        exact .ask ⟨depth, ended⟩ (ih answer built)

section Building
variable {allowed : Target → Prop}
  (lists : ∀ target, allowed target → blueprint.registry.Lists target)
include lists

theorem adds_run {chain : Chain} {build : Target → Build (Option CallSite)}
    (explores : blueprint.Explores chain build)
    (adds : ∀ target, allowed target → ∀ memo, Memo.Sound blueprint memo →
      ReflTransGen (Memo.Adds blueprint allowed) memo ((build target).run memo).2)
    {query : Query (Except Failure α)} (only : query.Only allowed)
    (sound : Memo.Sound blueprint memo) :
    ReflTransGen (Memo.Adds blueprint allowed) memo ((run build query).run memo).2 := by
  induction query generalizing memo with
  | done result => exact .refl
  | ask target next ih =>
    have first := adds target only.1 memo sound
    rw [run, Stateful.run_bind]
    cases built : (build target).run memo with
    | mk result between =>
      rw [built] at first
      cases result with
      | error failure => exact first
      | ok found =>
        obtain ⟨evolved, _⟩ := explores target (lists target only.1) memo sound _ _ built
        exact first.trans (ih found (only.2 found) evolved.sound)

/-- A build only adds graphs of what its target may come to ask for. -/
theorem adds_buildWithin
    (asks : ∀ target asked, allowed target → blueprint.MayAsk target asked → allowed asked)
    (fuel : Nat) (chain : Chain) {target : Target} (fits : allowed target)
    (sound : Memo.Sound blueprint memo) :
    ReflTransGen (Memo.Adds blueprint allowed) memo
      ((blueprint.buildWithin fuel chain target).run memo).2 := by
  induction fuel generalizing chain target memo with
  | zero =>
    rw [run_buildWithin]
    cases memo.lookup target.key with
    | some known => exact .refl
    | none => cases chain.cycle? target.key <;> exact .refl
  | succ fuel ih =>
    cases unknown : memo.lookup target.key with
    | some known => rw [run_buildWithin, unknown]
    | none =>
      cases fresh : chain.cycle? target.key with
      | some path => rw [run_buildWithin, unknown, fresh]
      | none =>
        cases built : (blueprint.buildWithin (fuel + 1) chain target).run memo with
        | mk result later =>
          obtain ⟨between, ran, rfl⟩ := run_of_unknown unknown fresh built
          have explores : blueprint.Explores (chain ++ [target.key])
              (blueprint.buildWithin fuel (chain ++ [target.key])) := explores_buildWithin fuel _
          have only : (blueprint.plan target).Only allowed :=
            (only_plan target).mono fun asked may => asks target asked fits may
          have added := adds_run lists explores
            (fun asked fits memo sound => ih (chain ++ [target.key]) fits sound) only sound
          obtain ⟨evolved, yields⟩ := explores.run (only.mono lists) sound ran
          rw [ran] at added
          cases result with
          | error failure => exact added
          | ok found =>
            refine added.tail (.intro fits ?_ (yields found rfl))
            rw [evolved.kept target.key (by simp), unknown]

end Building
end Blueprint

namespace Memo
open Blueprint
variable {blueprint : Blueprint} {host : Host} {memo : Memo}

theorem Built.filed (built : memo.Built blueprint) : ∀ entry ∈ memo.entries, ∃ target,
    blueprint.registry.Lists target ∧ target.key = entry.1 ∧
      (blueprint.plan target).Yields memo.Records (.ok entry.2) := by
  induction built with
  | refl => exact fun _ absurd => nomatch absurd
  | @tail before _ _ last ih =>
    obtain ⟨lists, fresh, yields⟩ := last
    rename_i target found
    have grows : before.Grows (before.insert target.key found) := grows_insert fresh
    rw [Table.entries_insert fresh]
    intro entry listed
    obtain old | new := List.mem_append.1 listed
    · obtain ⟨source, known, keyed, yielded⟩ := ih entry old
      exact ⟨source, known, keyed, yielded.mono fun asked answer => grows asked.key answer⟩
    · cases List.mem_singleton.1 new
      exact ⟨target, lists, rfl, yields.mono fun asked answer => grows asked.key answer⟩

theorem Made.builds (made : memo.Made blueprint host) {key : CacheKey} {found : Option CallSite}
    (known : memo.lookup key = some found) : ∃ target, blueprint.Proper host target ∧
      (target.key == key) = true ∧ blueprint.Builds target found := by
  obtain ⟨filed, same, listed⟩ := Table.mem_entries known
  obtain ⟨target, proper, rfl, builds⟩ := made _ listed
  exact ⟨target, proper, same, builds⟩

theorem Made.right (made : memo.Made blueprint host) (foreign : blueprint.registry.Foreign) :
    memo.Right blueprint host := by
  intro target found proper recorded
  obtain ⟨other, fits, same, builds⟩ := made.builds recorded
  exact builds.congr (plan_congr foreign fits proper same)

/-- Every graph was made for the very target that it is filed under. -/
theorem Built.made (built : memo.Built blueprint) (foreign : blueprint.registry.Foreign)
    (describes : host.Describes blueprint) (spoken : memo.Spoken host) :
    memo.Made blueprint host := by
  induction built with
  | refl =>
    intro entry listed
    cases listed
  | @tail before _ _ last ih =>
    obtain ⟨lists, fresh, yields⟩ := last
    rename_i target found
    have made := ih (spoken.of_adds (.single (.intro lists fresh yields)))
    rw [Spoken, Table.entries_insert fresh] at spoken
    rw [Made, Table.entries_insert fresh]
    intro entry listed
    obtain old | new := List.mem_append.1 listed
    · exact made entry old
    · cases List.mem_singleton.1 new
      have proper : blueprint.Proper host target := by
        refine ⟨?_, lists⟩
        have speaks := spoken _ listed
        cases target <;> exact speaks
      refine ⟨target, proper, rfl, builds_of_yields yields fun asked answer may recorded => ?_⟩
      exact made.right foreign asked answer (proper.asked describes may) recorded

end Memo
end ServiceContainer
