import Mathlib.Tactic.ByContra
import ServiceContainer.Engine

/-! What is supplied for parameters. Main statement: the next parameter of a service takes the next of
what is supplied for it, so that all is used just if no more of any service is supplied than is taken. -/
namespace ServiceContainer

section Ranks
variable {α : Type} [BEq α]

/-- The item at the position equals the given one, as do so many of those before it. -/
def Ranked (items : List α) (item : α) (rank position : Nat) : Prop :=
  (∃ found, items[position]? = some found ∧ (found == item) = true) ∧
    (items.take position).count item = rank

variable {items : List α} {item other : α} {rank position : Nat}

theorem Ranked.count_succ (ranked : Ranked items item rank position) :
    (items.take (position + 1)).count item = rank + 1 := by
  obtain ⟨⟨found, listed, same⟩, rfl⟩ := ranked
  rw [List.take_add_one, listed, List.count_append, Option.toList_some, List.count_singleton, if_pos same]

theorem count_take_mono (items : List α) (item : α) {position next : Nat} (before : position ≤ next) :
    (items.take position).count item ≤ (items.take next).count item :=
  (List.take_sublist_take_left before).count_le item

theorem Ranked.lt_count (ranked : Ranked items item rank position) : rank < items.count item := by
  have whole := (List.take_sublist (position + 1) items).count_le item
  rw [ranked.count_succ] at whole
  exact whole

theorem Ranked.lt_length (ranked : Ranked items item rank position) : position < items.length := by
  obtain ⟨⟨found, listed, _⟩, _⟩ := ranked
  exact (List.getElem?_eq_some_iff.1 listed).1

theorem Ranked.lt_iff {place next : Nat} (first : Ranked items item rank position)
    (second : Ranked items item next place) : rank < next ↔ position < place := by
  constructor
  · intro less
    by_contra before
    have mono := count_take_mono items item (Nat.not_lt.1 before)
    rw [first.2, second.2] at mono
    omega
  · intro before
    have mono := count_take_mono items item (Nat.succ_le_of_lt before)
    rw [first.count_succ, second.2] at mono
    exact mono

theorem exists_ranked (less : rank < items.count item) : ∃ position, Ranked items item rank position := by
  induction items generalizing rank with
  | nil => cases less
  | cons head rest ih =>
    rw [List.count_cons] at less
    by_cases same : (head == item) = true
    · rw [if_pos same] at less
      cases rank with
      | zero => exact ⟨0, ⟨head, rfl, same⟩, rfl⟩
      | succ rank =>
        obtain ⟨position, listed, counted⟩ := ih (Nat.lt_of_succ_lt_succ less)
        refine ⟨position + 1, listed, ?_⟩
        rw [List.take_succ_cons, List.count_cons, if_pos same, counted]
    · rw [if_neg same] at less
      obtain ⟨position, listed, counted⟩ := ih less
      refine ⟨position + 1, listed, ?_⟩
      rw [List.take_succ_cons, List.count_cons, if_neg same, counted]
      rfl

theorem Ranked.rank_eq {next : Nat} (one : Ranked items item rank position)
    (another : Ranked items item next position) : rank = next :=
  one.2.symm.trans another.2

theorem Ranked.unique {place : Nat} (one : Ranked items item rank position)
    (another : Ranked items item rank place) : position = place := by
  have before := one.lt_iff another
  have after := another.lt_iff one
  omega

variable [EquivBEq α]

theorem count_congr (same : (item == other) = true) : items.count item = items.count other :=
  List.countP_congr fun _ _ => by rw [BEq.congr_right same]

theorem Ranked.congr (same : (item == other) = true) (ranked : Ranked items item rank position) :
    Ranked items other rank position := by
  obtain ⟨⟨found, listed, equal⟩, counted⟩ := ranked
  exact ⟨⟨found, listed, BEq.trans equal same⟩, (count_congr same).symm.trans counted⟩

theorem Ranked.beq {next : Nat} (one : Ranked items item rank position)
    (another : Ranked items other next position) : (item == other) = true := by
  obtain ⟨⟨found, listed, equal⟩, _⟩ := one
  obtain ⟨⟨again, there, same⟩, _⟩ := another
  cases listed.symm.trans there
  exact BEq.trans (BEq.symm equal) same

end Ranks

namespace Engine
variable {supplied services : List ServiceType} {used : List Nat} {parameter : Parameter}

/-- What is used of the supplied is what the given services take of it, the first of it first. -/
def Taken (supplied services : List ServiceType) (used : List Nat) : Prop :=
  ∀ service rank position, Ranked supplied service rank position →
    (position ∈ used ↔ rank < services.count service)

theorem taken_nil (supplied : List ServiceType) : Taken supplied [] [] := by
  intro service rank position _
  simp

/-- All that is supplied is used if and only if no more of any service is supplied than is taken. -/
theorem Taken.all_used_iff (taken : Taken supplied services used) :
    (∀ position < supplied.length, position ∈ used) ↔
      ∀ service, supplied.count service ≤ services.count service := by
  constructor
  · intro all service
    by_contra more
    obtain ⟨position, ranked⟩ := exists_ranked (Nat.lt_of_not_le more)
    exact Nat.lt_irrefl _ ((taken _ _ _ ranked).1 (all position ranked.lt_length))
  · intro few position inside
    have ranked : Ranked supplied supplied[position] _ position :=
      ⟨⟨_, List.getElem?_eq_getElem inside, BEq.rfl⟩, rfl⟩
    exact (taken _ _ _ ranked).2 (Nat.lt_of_lt_of_le ranked.lt_count (few _))

theorem unused_iff {service : ServiceType} {position : Nat} :
    (!used.contains position && supplied[position]?.any (· == service)) = true ↔
      position ∉ used ∧ ∃ rank, Ranked supplied service rank position := by
  simp [Ranked, Option.any_eq_true]

theorem Taken.ranked_of_firstUnused (taken : Taken supplied services used) {service : ServiceType}
    {position : Nat} (first : firstUnused supplied used service = some position) :
    Ranked supplied service (services.count service) position := by
  obtain ⟨fits, _, least⟩ := List.find?_range_eq_some.1 first
  obtain ⟨fresh, rank, ranked⟩ := unused_iff.1 fits
  have bound : services.count service ≤ rank :=
    Nat.not_lt.1 fun less => fresh ((taken _ _ _ ranked).2 less)
  obtain less | rfl := Nat.lt_or_eq_of_le bound
  -- If its rank were greater, the one of the parameter's rank would be unused too, and stand before it.
  · obtain ⟨place, earlier⟩ := exists_ranked (Nat.lt_trans less ranked.lt_count)
    have before : place < position := (earlier.lt_iff ranked).1 less
    have unused : place ∉ used := fun member =>
      Nat.lt_irrefl _ ((taken _ _ _ earlier).1 member)
    have skipped := least place before
    rw [unused_iff.2 ⟨unused, _, earlier⟩] at skipped
    cases skipped
  · exact ranked

theorem Taken.exhausted_of_firstUnused (taken : Taken supplied services used) {service : ServiceType}
    (none : firstUnused supplied used service = none) :
    supplied.count service ≤ services.count service := by
  by_contra more
  obtain ⟨position, ranked⟩ := exists_ranked (Nat.lt_of_not_le more)
  have unused : position ∉ used := fun member => Nat.lt_irrefl _ ((taken _ _ _ ranked).1 member)
  have skipped := List.find?_range_eq_none.1 none position ranked.lt_length
  rw [unused_iff.2 ⟨unused, _, ranked⟩] at skipped
  cases skipped

theorem count_concat (services : List ServiceType) (last service : ServiceType) :
    (services ++ [last]).count service =
      services.count service + if last == service then 1 else 0 := by
  rw [List.count_append, List.count_singleton]

theorem Taken.supply (taken : Taken supplied services used) {service : ServiceType} {position : Nat}
    (ranked : Ranked supplied service (services.count service) position) :
    Taken supplied (services ++ [service]) (position :: used) := by
  intro other rank place here
  rw [List.mem_cons, taken _ _ _ here, count_concat]
  by_cases same : (service == other) = true
  · have next := ranked.congr same
    rw [count_congr same] at next
    have before := here.lt_iff next
    have after := next.lt_iff here
    rw [if_pos same]
    omega
  · rw [if_neg same, Nat.add_zero]
    refine or_iff_right fun equal => same ?_
    subst equal
    exact ranked.beq here

theorem Taken.skip (taken : Taken supplied services used) {service : ServiceType}
    (exhausted : supplied.count service ≤ services.count service) :
    Taken supplied (services ++ [service]) used := by
  intro other rank place here
  rw [taken _ _ _ here, count_concat]
  by_cases same : (service == other) = true
  · have few := here.lt_count
    rw [count_congr same, count_congr same] at exhausted
    omega
  · rw [if_neg same, Nat.add_zero]

end Engine
end ServiceContainer
