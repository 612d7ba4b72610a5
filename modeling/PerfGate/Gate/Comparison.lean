import PerfGate.Decimal.Binary
import PerfGate.Gate.Policy
import PerfGate.Measurement.Store

/-!
# Comparing measurements with a baseline

`compare` sorts the names of two stores into those that got slower, faster or neither beyond their
thresholds, those that are new and those that are missing. A name with a value of zero or below on
either side is in none of them. `Entry.verdict` is the decision about one name.
-/

namespace PerfGate

/-- A name that is in both stores, with the change between them. -/
structure Entry where
  name : String
  baseline : Float
  current : Float
  /-- The change in percent of the baseline; positive is slower. -/
  delta : Float
  /-- The threshold that applies to the name, in percent. -/
  threshold : Float

/-- What the change of a name amounts to. -/
inductive Verdict where
  | regression
  | improvement
  | unchanged
  deriving DecidableEq, Repr

namespace Entry

/-- The entry of a name with its two values. -/
def new (name : String) (baseline current threshold : Float) : Entry :=
  { name, baseline, current, delta := (current - baseline) / baseline * 100, threshold }

/-- The change is a regression or an improvement only beyond the threshold. -/
def verdict (e : Entry) : Verdict :=
  if e.threshold < e.delta then .regression
  else if e.delta < -e.threshold then .improvement
  else .unchanged

/-- The entry as a record. -/
def toJson (e : Entry) : Json :=
  .record
    [("name", .text e.name),
     ("baseline_value", .number e.baseline),
     ("current_value", .number e.current),
     ("delta_pct", .number e.delta),
     ("effective_threshold_pct", .number e.threshold)]

/-- The order of regressions: the greatest change first, names deciding between equal changes. -/
def worstFirst (a b : Entry) : Bool :=
  let (x, y) := (Decimal.totalKey a.delta, Decimal.totalKey b.delta)
  y < x || (x == y && a.name ≤ b.name)

/-- The order of improvements: the least change first, names deciding between equal changes. -/
def bestFirst (a b : Entry) : Bool :=
  let (x, y) := (Decimal.totalKey a.delta, Decimal.totalKey b.delta)
  x < y || (x == y && a.name ≤ b.name)

end Entry

/-- The outcome of a comparison. -/
structure Comparison where
  /-- Beyond the threshold upwards, worst first. -/
  regressions : List Entry
  /-- Beyond the threshold downwards, best first. -/
  improvements : List Entry
  /-- Within the threshold, by name. -/
  unchanged : List Entry
  /-- In the current store only, by name. -/
  new : List String
  /-- In the baseline only, by name. -/
  missing : List String
  /-- The default threshold, in percent. -/
  threshold : Float

namespace Comparison

/-- The entry of a name that can be compared: it is in the baseline and both values are positive. -/
def entry? (baseline : Store) (policy : Policy) (name : String) (current : Float) : Option Entry :=
  match baseline.get? name with
  | some value =>
    if value ≤ 0 || current ≤ 0 then none
    else some (.new name value current (policy.effective name))
  | none => none

/-- The entries of all names that can be compared, by name. -/
def entries (baseline current : Store) (policy : Policy) : List Entry :=
  current.toList.filterMap fun m => entry? baseline policy m.1 m.2

/-- Some benchmark regressed. -/
def hasRegressions (c : Comparison) : Bool :=
  !c.regressions.isEmpty

/-- The number of benchmarks that were compared. -/
def comparedCount (c : Comparison) : Nat :=
  c.regressions.length + c.improvements.length + c.unchanged.length

/-- The comparison as a record. -/
def toJson (c : Comparison) : Json :=
  .record
    [("regressions", .list (c.regressions.map Entry.toJson)),
     ("improvements", .list (c.improvements.map Entry.toJson)),
     ("unchanged", .list (c.unchanged.map Entry.toJson)),
     ("new", .list (c.new.map .text)),
     ("missing", .list (c.missing.map .text)),
     ("default_threshold_pct", .number c.threshold)]

end Comparison

/-- Compares the current measurements with a baseline under a policy. -/
def compareStores (baseline current : Store) (policy : Policy) : Comparison :=
  let entries := Comparison.entries baseline current policy
  { regressions := (entries.filter (·.verdict == .regression)).mergeSort Entry.worstFirst
    improvements := (entries.filter (·.verdict == .improvement)).mergeSort Entry.bestFirst
    unchanged := entries.filter (·.verdict == .unchanged)
    new := current.names.filter (!baseline.contains ·)
    missing := baseline.names.filter (!current.contains ·)
    threshold := policy.default }

end PerfGate
