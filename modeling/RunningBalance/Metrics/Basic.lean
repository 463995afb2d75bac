/-!
# Metrics of reconciliation

Counters of 64 bits that wrap around, and a histogram of how long reconciliations take. A successful
pass counts itself, the chain transfers it dropped and its duration; an aborted pass only counts
itself.
-/

set_option autoImplicit false
set_option relaxedAutoImplicit false

namespace RunningBalance

/-- Durations in seconds by the first bound that they do not exceed. -/
structure Histogram where
  /-- The number of durations up to each bound and above the one before. -/
  counts : List UInt64
  sum : Float
  observations : UInt64

namespace Histogram

/-- The bounds in seconds, in ascending order. -/
def bounds : List Float :=
  [0.0001, 0.0005, 0.001, 0.005, 0.01, 0.05, 0.1, 0.5]

def empty : Histogram where
  counts := bounds.map fun _ ↦ 0
  sum := 0
  observations := 0

/-- Counts a duration at the first bound that it does not exceed, if any. -/
def countAt (seconds : Float) : List Float → List UInt64 → List UInt64
  | bound :: bounds, count :: counts =>
    if seconds ≤ bound then (count + 1) :: counts else count :: countAt seconds bounds counts
  | _, counts => counts

def observe (histogram : Histogram) (seconds : Float) : Histogram where
  counts := countAt seconds bounds histogram.counts
  sum := histogram.sum + seconds
  observations := histogram.observations + 1

/-- The counts up to each bound, those of the lower bounds included. -/
def cumulative (soFar : UInt64) : List UInt64 → List UInt64
  | [] => []
  | count :: counts => (soFar + count) :: cumulative (soFar + count) counts

end Histogram

structure Metrics where
  /-- Successful passes. -/
  reconciliations : UInt64
  /-- Aborted passes. -/
  failures : UInt64
  /-- Chain transfers before the first transfer-in. -/
  dropped : UInt64
  durations : Histogram

namespace Metrics

def empty : Metrics where
  reconciliations := 0
  failures := 0
  dropped := 0
  durations := .empty

/-- Counts a successful pass that dropped so many transfers and took so long. -/
def record (metrics : Metrics) (dropped : Nat) (seconds : Float) : Metrics :=
  { metrics with
    reconciliations := metrics.reconciliations + 1
    dropped := metrics.dropped + UInt64.ofNat dropped
    durations := metrics.durations.observe seconds }

/-- Counts an aborted pass. -/
def recordFailure (metrics : Metrics) : Metrics :=
  { metrics with failures := metrics.failures + 1 }

end Metrics

end RunningBalance
