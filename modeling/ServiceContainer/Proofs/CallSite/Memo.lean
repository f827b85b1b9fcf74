import Mathlib.Data.List.TakeWhile
import ServiceContainer.Proofs.CallSite.Questions
import ServiceContainer.Proofs.CallSite.Shape
import ServiceContainer.Proofs.Stateful

/-! What the memo of graphs holds. Main statement: a build only adds to the memo, and all that a
memo holds is what some plan yields when its questions are answered by the memo itself. -/
namespace ServiceContainer

def Memo.Records (memo : Memo) (target : Target) (found : Option CallSite) : Prop :=
  memo.lookup target.key = some found

def Memo.Grows (memo later : Memo) : Prop :=
  ∀ key found, memo.lookup key = some found → later.lookup key = some found

/-- A member target names a registration that serves its service, by its slot there. -/
def Registry.Lists (registry : Registry) : Target → Prop
  | .single _ => True
  | .member service position slot => (position, slot) ∈ registry.all service

/-- The memo after a build of the key: only successes are remembered. -/
def Memo.remember (memo : Memo) (key : CacheKey) : Except Failure (Option CallSite) → Memo
  | .ok found => memo.insert key found
  | .error _ => memo

/-- All that the memo holds follows from the rest of what it holds. -/
def Memo.Sound (blueprint : Blueprint) (memo : Memo) : Prop :=
  ∀ key found, memo.lookup key = some found → ∃ target, blueprint.registry.Lists target ∧
    (target.key == key) = true ∧ (blueprint.plan target).Yields memo.Records (.ok found)

namespace Memo

theorem Grows.refl (memo : Memo) : memo.Grows memo := fun _ _ known => known

theorem Grows.trans {memo later last : Memo} (first : memo.Grows later)
    (second : later.Grows last) : memo.Grows last :=
  fun key found known => second key found (first key found known)

theorem sound_empty (blueprint : Blueprint) : Sound blueprint {} := by
  intro key found known
  cases known

theorem grows_insert {memo : Memo} {key : CacheKey} {found : Option CallSite}
    (fresh : memo.lookup key = none) : memo.Grows (memo.insert key found) := by
  intro other known answered
  rw [Table.lookup_insert]
  split
  · rename_i same
    rw [← memo.lookup_congr same, fresh] at answered
    cases answered
  · exact answered

theorem Sound.insert {blueprint : Blueprint} {memo : Memo} (sound : Sound blueprint memo)
    {target : Target} {found : Option CallSite} (fresh : memo.lookup target.key = none)
    (lists : blueprint.registry.Lists target)
    (yields : (blueprint.plan target).Yields memo.Records (.ok found)) :
    Sound blueprint (memo.insert target.key found) := by
  have grows : memo.Grows (memo.insert target.key found) := grows_insert fresh
  intro key answer known
  rw [Table.lookup_insert] at known
  split at known
  · rename_i same
    cases known
    exact ⟨target, lists, same, yields.mono fun asked answer => grows asked.key answer⟩
  · obtain ⟨source, listed, same, yielded⟩ := sound key answer known
    exact ⟨source, listed, same, yielded.mono fun asked answer => grows asked.key answer⟩

/-- What a build under a chain does to the memo: it adds graphs, of keys not on the chain. -/
structure Evolves (blueprint : Blueprint) (chain : Chain) (memo later : Memo) : Prop where
  sound : Sound blueprint later
  grows : memo.Grows later
  kept : ∀ key ∈ chain, later.lookup key = memo.lookup key

theorem Evolves.refl {blueprint : Blueprint} {memo : Memo} (chain : Chain)
    (sound : Sound blueprint memo) : Evolves blueprint chain memo memo :=
  ⟨sound, .refl memo, fun _ _ => rfl⟩

theorem Evolves.trans {blueprint : Blueprint} {chain : Chain} {memo later last : Memo}
    (first : Evolves blueprint chain memo later) (second : Evolves blueprint chain later last) :
    Evolves blueprint chain memo last :=
  ⟨second.sound, first.grows.trans second.grows,
    fun key member => (second.kept key member).trans (first.kept key member)⟩

end Memo

namespace Chain

theorem cycle?_eq_none_iff {chain : Chain} {key : CacheKey} :
    chain.cycle? key = none ↔ ∀ entry ∈ chain, (entry == key) = false := by
  unfold cycle?
  split
  · rename_i empty
    simpa using List.dropWhile_eq_nil_iff.1 empty
  · rename_i nonempty
    refine iff_of_false (by simp) fun absent => nonempty (List.dropWhile_eq_nil_iff.2 ?_)
    simpa using absent

end Chain

namespace Blueprint
open Query
variable {blueprint : Blueprint}

theorem run_buildWithin (fuel : Nat) (chain : Chain) (target : Target) (memo : Memo) :
    (blueprint.buildWithin fuel chain target).run memo =
      match memo.lookup target.key with
      | some known => (.ok known, memo)
      | none =>
        match chain.cycle? target.key with
        | some path => (.error (.circular path), memo)
        | none =>
          match fuel with
          | 0 => (.error (.circular []), memo)
          | fuel + 1 =>
            match (blueprint.assemble (blueprint.buildWithin fuel (chain ++ [target.key]))
              target).run memo with
            | (.ok built, later) => (.ok built, later.insert target.key built)
            | (.error failure, later) => (.error failure, later) := by
  unfold buildWithin
  change (match memo.lookup target.key with
    | some known => (pure known : Build (Option CallSite))
    | none => _).run memo = _
  cases memo.lookup target.key with
  | some known => rfl
  | none =>
    cases chain.cycle? target.key with
    | some path => rfl
    | none =>
      cases fuel with
      | zero => rfl
      | succ fuel =>
        dsimp only
        rw [Stateful.run_bind]
        obtain ⟨result, later⟩ := (blueprint.assemble
          (blueprint.buildWithin fuel (chain ++ [target.key])) target).run memo
        cases result <;> rfl

theorem run_of_unknown {fuel : Nat} {chain : Chain} {target : Target} {memo later : Memo}
    {result : Except Failure (Option CallSite)} (unknown : memo.lookup target.key = none)
    (fresh : chain.cycle? target.key = none)
    (built : (blueprint.buildWithin (fuel + 1) chain target).run memo = (result, later)) :
    ∃ between, (run (blueprint.buildWithin fuel (chain ++ [target.key]))
        (blueprint.plan target)).run memo = (result, between) ∧
      later = between.remember target.key result := by
  simp only [run_buildWithin, unknown, fresh, ← run_plan] at built
  cases ended : (run (blueprint.buildWithin fuel (chain ++ [target.key]))
      (blueprint.plan target)).run memo with
  | mk outcome between =>
    rw [ended] at built
    cases outcome <;> cases built <;> exact ⟨_, rfl, rfl⟩

/-- A registration has the graph of its own slot, unless it is an open definition. -/
theorem callSiteForDescriptor_cases (blueprint : Blueprint) (position : Nat) :
    blueprint.callSiteForDescriptor position = pure none ∨
      ∃ descriptor, blueprint.registry.descriptors[position]? = some descriptor ∧
        descriptor.isOpenGeneric = false ∧ blueprint.callSiteForDescriptor position =
          blueprint.buildWithin (blueprint.chainBound descriptor.service) []
            (.member descriptor.service position (blueprint.registry.slotOf position)) := by
  unfold callSiteForDescriptor
  cases registered : blueprint.registry.descriptors[position]? with
  | none => exact .inl rfl
  | some descriptor =>
    cases closed : descriptor.isOpenGeneric with
    | true => exact .inl (by simp only [closed, if_true])
    | false =>
      refine .inr ⟨descriptor, rfl, closed, ?_⟩
      simp only [closed, Bool.false_eq_true, if_false]

theorem MayAsk.lists {target asked : Target} (h : blueprint.MayAsk target asked) :
    blueprint.registry.Lists asked := by
  cases h with
  | parameter _ _ => trivial
  | member _ _ listed => exact listed

def Explores (blueprint : Blueprint) (chain : Chain) (build : Target → Build (Option CallSite)) :
    Prop :=
  ∀ target, blueprint.registry.Lists target → ∀ memo, Memo.Sound blueprint memo →
    ∀ result later, (build target).run memo = (result, later) →
      Memo.Evolves blueprint chain memo later ∧
        ∀ found, result = .ok found → later.Records target found

theorem Explores.run {α : Type} {chain : Chain} {build : Target → Build (Option CallSite)}
    (explores : blueprint.Explores chain build) {query : Query (Except Failure α)}
    (only : query.Only blueprint.registry.Lists) {memo later : Memo} {result : Except Failure α}
    (sound : Memo.Sound blueprint memo) (h : (Query.run build query).run memo = (result, later)) :
    Memo.Evolves blueprint chain memo later ∧
      ∀ value, result = .ok value → query.Yields later.Records (.ok value) := by
  induction query generalizing memo with
  | done outcome =>
    cases h
    refine ⟨.refl chain sound, ?_⟩
    rintro value rfl
    exact .done _
  | ask target next ih =>
    obtain ⟨found, between, first, rest⟩ | ⟨failure, first, rfl⟩ := Stateful.run_bind_eq h
    · obtain ⟨evolved, recorded⟩ := explores target only.1 memo sound _ _ first
      obtain ⟨after, yields⟩ := ih found (only.2 found) evolved.sound rest
      refine ⟨evolved.trans after, fun value ended => .ask ?_ (yields value ended)⟩
      exact after.grows _ _ (recorded found rfl)
    · obtain ⟨evolved, _⟩ := explores target only.1 memo sound _ _ first
      refine ⟨evolved, ?_⟩
      rintro value ⟨⟩

/-- What a build finds is recorded, and the keys on its chain are left alone. -/
theorem explores_buildWithin (fuel : Nat) (chain : Chain) :
    blueprint.Explores chain (blueprint.buildWithin fuel chain) := by
  induction fuel generalizing chain with
  | zero =>
    intro target _ memo sound result later h
    rw [run_buildWithin] at h
    split at h
    · rename_i known answered
      cases h
      refine ⟨.refl chain sound, ?_⟩
      rintro found ⟨⟩
      exact answered
    · split at h <;> cases h <;> exact ⟨.refl chain sound, by rintro _ ⟨⟩⟩
  | succ fuel ih =>
    intro target lists memo sound result later h
    rw [run_buildWithin] at h
    cases answered : memo.lookup target.key with
    | some known =>
      rw [answered] at h
      cases h
      refine ⟨.refl chain sound, ?_⟩
      rintro found ⟨⟩
      exact answered
    | none =>
      cases fresh : chain.cycle? target.key with
      | some path =>
        simp only [answered, fresh] at h
        cases h
        exact ⟨.refl chain sound, by rintro _ ⟨⟩⟩
      | none =>
        simp only [answered, fresh, ← run_plan] at h
        have only : (blueprint.plan target).Only blueprint.registry.Lists :=
          (only_plan target).mono fun _ asked => asked.lists
        cases ended : (run (blueprint.buildWithin fuel (chain ++ [target.key]))
            (blueprint.plan target)).run memo with
        | mk outcome between =>
          obtain ⟨evolved, yields⟩ := (ih (chain ++ [target.key])).run only sound ended
          rw [ended] at h
          have kept : ∀ key ∈ chain, between.lookup key = memo.lookup key :=
            fun key member => evolved.kept key (List.mem_append_left _ member)
          cases outcome with
          | error failure =>
            cases h
            exact ⟨⟨evolved.sound, evolved.grows, kept⟩, by rintro _ ⟨⟩⟩
          | ok built =>
            cases h
            have absent : between.lookup target.key = none := by
              rw [evolved.kept target.key (by simp), answered]
            refine ⟨⟨evolved.sound.insert absent lists (yields built rfl),
              evolved.grows.trans (Memo.grows_insert absent), fun key member => ?_⟩, ?_⟩
            · have distinct : (target.key == key) = false := by
                have other := Chain.cycle?_eq_none_iff.1 fresh key member
                rwa [Bool.eq_false_iff, BEq.comm, ← Bool.eq_false_iff] at other
              rw [Table.lookup_insert, distinct]
              exact kept key member
            · rintro found ⟨⟩
              rw [Memo.Records, Table.lookup_insert, if_pos BEq.rfl]

end Blueprint
end ServiceContainer
