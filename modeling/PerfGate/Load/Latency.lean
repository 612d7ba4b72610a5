import PerfGate.Decimal.Nearest
import PerfGate.Json

/-!
# Latency statistics

Percentiles by nearest rank over samples in nanoseconds, and the `Summary` of one run. A summary of
samples sorts them first, so it does not depend on the order in which they were taken.
-/

namespace PerfGate.Latency

/-- The index of the nearest rank for a percentage of `k` ascending samples: `⌊k * p / 100⌋`, but at
most the last one. A percentage below zero, or one that is no number, selects the first sample. -/
def rank (k : Nat) (p : Float) : Nat :=
  min (Decimal.ofNat k * p / 100).toUInt64.toNat (k - 1)

/-- The sample at the nearest rank of ascending samples. Without samples the answer is zero. -/
def percentile (sorted : List Nat) (p : Float) : Nat :=
  (sorted[rank sorted.length p]?).getD 0

/-- The latencies of one run, in nanoseconds. -/
structure Summary where
  p50 : Nat
  p90 : Nat
  p95 : Nat
  p99 : Nat
  least : Nat
  greatest : Nat
  deriving DecidableEq, Repr

namespace Summary

/-- The summary of ascending samples; all zero if there are none. -/
def ofSorted (sorted : List Nat) : Summary :=
  { p50 := percentile sorted 50
    p90 := percentile sorted 90
    p95 := percentile sorted 95
    p99 := percentile sorted 99
    least := sorted.head?.getD 0
    greatest := sorted.getLast?.getD 0 }

/-- The summary of samples in any order. -/
def ofSamples (samples : List Nat) : Summary :=
  ofSorted samples.mergeSort

end Summary

/-- Nanoseconds as milliseconds. -/
def toMillis (ns : Nat) : Float :=
  Decimal.ofNat ns / 1000000

end PerfGate.Latency
