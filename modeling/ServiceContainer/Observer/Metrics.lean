/-! Counters of resolutions. All of them are 64 bits wide and wrap. -/
namespace ServiceContainer

structure Metrics where
  resolutions : UInt64 := 0
  failures : UInt64 := 0
  /-- Nanoseconds of all counted resolutions. -/
  total : UInt64 := 0
  built : UInt64 := 0
  deriving DecidableEq, Repr, Inhabited

inductive Average where
  | unknown
  | mean (nanoseconds : UInt64)
  /-- The count has no low 32 bits to divide by. -/
  | dividesByZero
  deriving DecidableEq, Repr

namespace Metrics

def countResolved (metrics : Metrics) (nanoseconds : Nat) : Metrics :=
  { metrics with
    resolutions := metrics.resolutions + 1
    total := metrics.total + UInt64.ofNat nanoseconds }

def countFailed (metrics : Metrics) : Metrics :=
  { metrics with failures := metrics.failures + 1 }

def countBuilt (metrics : Metrics) : Metrics :=
  { metrics with built := metrics.built + 1 }

def reset (_ : Metrics) : Metrics := {}

/-- The total divided by the low 32 bits of the count. -/
def average (metrics : Metrics) : Average :=
  if metrics.resolutions == 0 then .unknown
  else
    let count := metrics.resolutions.toUInt32
    if count == 0 then .dividesByZero else .mean (metrics.total / count.toUInt64)

end Metrics
end ServiceContainer
