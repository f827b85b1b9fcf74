import Mathlib.Algebra.BigOperators.Group.List.Basic
import Mathlib.Algebra.GroupWithZero.Nat
import ServiceContainer.Observer

/-! Metrics over any history of notices and resets. Main statements: every counter is what has been
told since the last reset, modulo 2^64; and the average is the total divided by the count if the
count has no more than 32 bits, but not beyond that. -/
namespace ServiceContainer

def Notice.duration? : Notice → Option Nat
  | .resolved _ nanoseconds => some nanoseconds
  | _ => none

def Notice.isFailed : Notice → Bool
  | .failed _ _ => true
  | _ => false

def Notice.isBuilt : Notice → Bool
  | .built _ _ _ => true
  | _ => false

namespace Metrics

inductive Incident where
  | told (notice : Notice)
  | reset

def meet (metrics : Metrics) : Incident → Metrics
  | .told notice => notice.count metrics
  | .reset => metrics.reset

def after (history : List Incident) : Metrics := history.foldl meet {}

/-- A reset forgets all notices. -/
def hear (notices : List Notice) : Incident → List Notice
  | .told notice => notices ++ [notice]
  | .reset => []

def recent (history : List Incident) : List Notice := history.foldl hear []

def durations (history : List Incident) : List Nat := (recent history).filterMap Notice.duration?

/-- The metrics count the notices, as far as 64 bits go. -/
structure Counts (metrics : Metrics) (notices : List Notice) : Prop where
  resolutions : metrics.resolutions.toNat = (notices.filterMap Notice.duration?).length % 2 ^ 64
  total : metrics.total.toNat = (notices.filterMap Notice.duration?).sum % 2 ^ 64
  failures : metrics.failures.toNat = notices.countP Notice.isFailed % 2 ^ 64
  built : metrics.built.toNat = notices.countP Notice.isBuilt % 2 ^ 64

theorem counts_new : Counts {} [] where
  resolutions := rfl
  total := rfl
  failures := rfl
  built := rfl

theorem Counts.count {metrics : Metrics} {notices : List Notice} (counts : metrics.Counts notices)
    (notice : Notice) : (notice.count metrics).Counts (notices ++ [notice]) := by
  obtain ⟨resolutions, total, failures, built⟩ := counts
  cases notice with
  | resolved service nanoseconds =>
    refine ⟨?_, ?_, ?_, ?_⟩
    · simp [Notice.count, countResolved, Notice.duration?, resolutions]
    · simp [Notice.count, countResolved, Notice.duration?, total]
    · simpa [Notice.count, countResolved, Notice.isFailed] using failures
    · simpa [Notice.count, countResolved, Notice.isBuilt] using built
  | failed service failure =>
    refine ⟨?_, ?_, ?_, ?_⟩
    · simpa [Notice.count, countFailed, List.filterMap_cons, Notice.duration?] using resolutions
    · simpa [Notice.count, countFailed, List.filterMap_cons, Notice.duration?] using total
    · simp [Notice.count, countFailed, Notice.isFailed, failures]
    · simpa [Notice.count, countFailed, Notice.isBuilt] using built
  | built kind service lifetime =>
    refine ⟨?_, ?_, ?_, ?_⟩
    · simpa [Notice.count, countBuilt, List.filterMap_cons, Notice.duration?] using resolutions
    · simpa [Notice.count, countBuilt, List.filterMap_cons, Notice.duration?] using total
    · simpa [Notice.count, countBuilt, Notice.isFailed] using failures
    · simp [Notice.count, countBuilt, Notice.isBuilt, built]
  | resolving service | scopeDisposed isRoot disposed =>
    refine ⟨?_, ?_, ?_, ?_⟩ <;>
      simpa [Notice.count, List.filterMap_cons, Notice.duration?, Notice.isFailed, Notice.isBuilt]

theorem counts_after (history : List Incident) : (after history).Counts (recent history) := by
  -- From any metrics that count what they have been told, since a reset forgets both alike.
  suffices going : ∀ (metrics : Metrics) (notices : List Notice), metrics.Counts notices →
      (history.foldl meet metrics).Counts (history.foldl hear notices) from going {} [] counts_new
  induction history with
  | nil => exact fun _ _ counts => counts
  | cons incident rest ih =>
    intro metrics notices counts
    cases incident with
    | told notice => exact ih _ _ (counts.count notice)
    | reset => exact ih _ _ counts_new

/-- The average is the total divided by the low 32 bits of the count. -/
theorem average_eq (metrics : Metrics) :
    metrics.average =
      if metrics.resolutions.toNat = 0 then .unknown
      else if metrics.resolutions.toNat % 2 ^ 32 = 0 then .dividesByZero
      else .mean (metrics.total / metrics.resolutions.toUInt32.toUInt64) := by
  simp only [average, beq_iff_eq, ← UInt64.toNat_inj, ← UInt32.toNat_inj, UInt64.toNat_toUInt32]
  rfl

theorem average_eq_unknown_iff {metrics : Metrics} :
    metrics.average = .unknown ↔ metrics.resolutions.toNat = 0 := by
  rw [average_eq]
  grind

theorem average_eq_dividesByZero_iff {metrics : Metrics} :
    metrics.average = .dividesByZero ↔
      metrics.resolutions.toNat ≠ 0 ∧ metrics.resolutions.toNat % 2 ^ 32 = 0 := by
  rw [average_eq]
  grind

theorem toNat_of_average {metrics : Metrics} {mean : UInt64} (found : metrics.average = .mean mean) :
    mean.toNat = metrics.total.toNat / (metrics.resolutions.toNat % 2 ^ 32) := by
  rw [average_eq] at found
  split at found
  · contradiction
  · split at found
    · contradiction
    · cases found
      simp [UInt64.toNat_div]

/-- It is a mean of so many nanoseconds for so many resolutions, rounded down. -/
def Rounds (average : Average) (total count : Nat) : Prop :=
  ∃ mean, average = .mean mean ∧ mean.toNat = total / count

/-- The mean is right for a count of 32 bits. For a larger one it is right only if the count has low
bits, and dividing by these makes no difference. -/
theorem rounds_average_iff {metrics : Metrics} (counted : metrics.resolutions.toNat ≠ 0) :
    Rounds metrics.average metrics.total.toNat metrics.resolutions.toNat ↔
      metrics.resolutions.toNat < 2 ^ 32 ∨
        metrics.resolutions.toNat % 2 ^ 32 ≠ 0 ∧
          metrics.total.toNat / (metrics.resolutions.toNat % 2 ^ 32) =
            metrics.total.toNat / metrics.resolutions.toNat := by
  constructor
  · rintro ⟨mean, found, right⟩
    refine .inr ⟨fun none => ?_, (toNat_of_average found).symm.trans right⟩
    rw [average_eq_dividesByZero_iff.mpr ⟨counted, none⟩] at found
    contradiction
  · intro safe
    have low : metrics.resolutions.toNat % 2 ^ 32 ≠ 0 := by omega
    have same : metrics.total.toNat / (metrics.resolutions.toNat % 2 ^ 32) =
        metrics.total.toNat / metrics.resolutions.toNat := by
      obtain few | ⟨-, same⟩ := safe
      · rw [Nat.mod_eq_of_lt few]
      · exact same
    cases found : metrics.average with
    | unknown => exact absurd (average_eq_unknown_iff.mp found) counted
    | dividesByZero => exact absurd (average_eq_dividesByZero_iff.mp found).2 low
    | mean mean => exact ⟨mean, rfl, (toNat_of_average found).trans same⟩

/-- Whatever has happened, count and total are those of the resolutions since the last reset, modulo
2^64, and the average is unknown if the count is zero, and right if it has 32 bits. If it has more,
the average divides by its low bits only: by zero, or by too little. -/
theorem average_after (history : List Incident) :
    let metrics := after history
    let count := (durations history).length % 2 ^ 64
    let total := (durations history).sum % 2 ^ 64
    metrics.resolutions.toNat = count ∧ metrics.total.toNat = total ∧
    (metrics.average = .unknown ↔ count = 0) ∧
    (metrics.average = .dividesByZero ↔ count ≠ 0 ∧ count % 2 ^ 32 = 0) ∧
    (count ≠ 0 → (Rounds metrics.average total count ↔
      count < 2 ^ 32 ∨ count % 2 ^ 32 ≠ 0 ∧ total / (count % 2 ^ 32) = total / count)) := by
  intro metrics count total
  have counted : metrics.resolutions.toNat = count := (counts_after history).resolutions
  have summed : metrics.total.toNat = total := (counts_after history).total
  rw [← counted, ← summed]
  exact ⟨rfl, rfl, average_eq_unknown_iff, average_eq_dividesByZero_iff, rounds_average_iff⟩

def clock : ServiceType := .plain ⟨firstFreeTypeId, "Clock"⟩

/-- Resolutions of 10 and 20 milliseconds take 15 on average: what came before the reset and what
failed does not count. -/
theorem average_after_failure :
    let history := [.told (.resolved clock 70), .reset, .told (.resolved clock 10000000),
      .told (.failed clock .scopeDisposed), .told (.resolved clock 20000000)]
    (durations history).length % 2 ^ 64 ≠ 0 ∧ Rounds (after history).average 30000000 2 :=
  ⟨by decide, ((average_after _).2.2.2.2 (by decide)).mpr (.inl (by decide))⟩

def alike (count nanoseconds : Nat) : List Incident :=
  List.replicate count (.told (.resolved clock nanoseconds))

theorem durations_alike (count nanoseconds : Nat) :
    durations (alike count nanoseconds) = List.replicate count nanoseconds := by
  induction count with
  | zero => rfl
  | succ count ih =>
    rw [List.replicate_succ', ← ih]
    simp [durations, recent, hear, alike, List.replicate_succ', Notice.duration?]

theorem resolutions_after_alike (count nanoseconds : Nat) :
    (after (alike count nanoseconds)).resolutions.toNat = count % 2 ^ 64 := by
  have counts := (counts_after (alike count nanoseconds)).resolutions
  rwa [← durations, durations_alike, List.length_replicate] at counts

theorem total_after_alike (count nanoseconds : Nat) :
    (after (alike count nanoseconds)).total.toNat = count * nanoseconds % 2 ^ 64 := by
  have counts := (counts_after (alike count nanoseconds)).total
  rwa [← durations, durations_alike, List.sum_replicate_nat] at counts

/-- After 2^32 resolutions of a nanosecond there is no average, and after one more it is not one
nanosecond. -/
theorem average_overflows :
    (after (alike (2 ^ 32) 1)).resolutions.toNat = 2 ^ 32 ∧
    (after (alike (2 ^ 32) 1)).average = .dividesByZero ∧
    (after (alike (2 ^ 32 + 1) 1)).resolutions.toNat = 2 ^ 32 + 1 ∧
    (after (alike (2 ^ 32 + 1) 1)).total.toNat = 2 ^ 32 + 1 ∧
    ¬ Rounds (after (alike (2 ^ 32 + 1) 1)).average (2 ^ 32 + 1) (2 ^ 32 + 1) := by
  have full := resolutions_after_alike (2 ^ 32) 1
  have more := resolutions_after_alike (2 ^ 32 + 1) 1
  have total := total_after_alike (2 ^ 32 + 1) 1
  refine ⟨full, average_eq_dividesByZero_iff.mpr ?_, more, total, ?_⟩
  · rw [full]
    decide
  · rintro ⟨mean, found, right⟩
    have wrong := toNat_of_average found
    rw [more, total, right] at wrong
    revert wrong
    decide

end Metrics
end ServiceContainer
