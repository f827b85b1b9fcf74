/-! Finite tables whose keys are compared by `==`. Reading after a write sees the
written value under every equal key and nothing else changes. -/
namespace ServiceContainer

structure Table (κ α : Type) where
  entries : List (κ × α) := []

namespace Table
variable {κ α : Type} [BEq κ]

/-- Overwrites the first entry under an equal key, or adds one at the end. -/
def insertEntry (key : κ) (value : α) : List (κ × α) → List (κ × α)
  | [] => [(key, value)]
  | entry :: rest =>
    if entry.1 == key then (entry.1, value) :: rest else entry :: insertEntry key value rest

def lookup (table : Table κ α) (key : κ) : Option α :=
  (table.entries.find? (·.1 == key)).map (·.2)

def insert (table : Table κ α) (key : κ) (value : α) : Table κ α :=
  ⟨insertEntry key value table.entries⟩

def contains (table : Table κ α) (key : κ) : Bool :=
  (table.lookup key).isSome

@[simp] theorem lookup_empty (key : κ) : (⟨[]⟩ : Table κ α).lookup key = none := rfl

theorem lookup_congr [EquivBEq κ] (table : Table κ α) {key other : κ}
    (same : (key == other) = true) : table.lookup key = table.lookup other := by
  unfold lookup
  congr 2
  funext entry
  exact BEq.congr_right same

theorem lookup_insert [EquivBEq κ] (table : Table κ α) (key other : κ) (value : α) :
    (table.insert key value).lookup other =
      if key == other then some value else table.lookup other := by
  obtain ⟨entries⟩ := table
  simp only [insert, lookup]
  induction entries with
  | nil => by_cases h : key == other <;> simp [insertEntry, h]
  | cons entry rest ih =>
    by_cases hk : entry.1 == key
    · by_cases ho : key == other
      · have he : entry.1 == other := BEq.trans hk ho
        simp [insertEntry, hk, ho, he]
      · have he : ¬ entry.1 == other := fun h => ho (BEq.trans (BEq.symm hk) h)
        simp [insertEntry, hk, ho, he]
    · by_cases he : entry.1 == other
      · have ho : ¬ key == other := fun h => hk (BEq.trans he (BEq.symm h))
        simp [insertEntry, hk, ho, he]
      · simp only [insertEntry, hk, Bool.false_eq_true, if_false, List.find?_cons, he]
        exact ih

end Table
end ServiceContainer
