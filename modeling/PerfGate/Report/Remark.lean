import PerfGate.Gate.Comparison
import PerfGate.Measurement.Aggregation
import PerfGate.Report.Units

/-!
# Remarks for a build server

Lines of the form `::level::message`, which a build server shows beside the build. Regressions are
errors; what is only worth a look is a warning or a notice.
-/

namespace PerfGate

/-- How much a remark matters. -/
inductive Level where
  | error
  | warning
  | notice
  deriving DecidableEq, Repr

/-- The word for the level. -/
def Level.word : Level → String
  | error => "error"
  | warning => "warning"
  | notice => "notice"

/-- A message with its level. -/
structure Remark where
  level : Level
  message : String
  deriving DecidableEq, Repr

namespace Remark

/-- The line that is printed. -/
def line (r : Remark) : String :=
  "::" ++ r.level.word ++ "::" ++ r.message

/-- The remark on a failure. -/
def ofFailure (message : String) : Remark :=
  ⟨.error, message⟩

/-- The last remark on a comparison, which sums it up. -/
def summary (c : Comparison) : List Remark :=
  let threshold := Report.percentage c.threshold
  if c.hasRegressions then
    [⟨.error, s!"{c.regressions.length} benchmark(s) regressed beyond {threshold} threshold"⟩]
  else if c.improvements.isEmpty then []
  else [⟨.notice, s!"{c.improvements.length} benchmark(s) improved beyond {threshold}"⟩]

/-- The remarks on a comparison. -/
def ofComparison (c : Comparison) : List Remark :=
  (c.regressions.map fun e =>
      ⟨.error, e.name ++ " regressed by " ++ Decimal.fixed 1 e.delta ++ "%"⟩) ++
    (c.new.map fun name =>
      ⟨.notice, s!"New benchmark '{name}' - no baseline for comparison"⟩) ++
    (c.missing.map fun name =>
      ⟨.warning, s!"Benchmark '{name}' missing from current results"⟩) ++
    summary c

/-- The remark on a diagnostic of the result file at a path, if it deserves one. -/
def ofDiagnostic? (path : String) : Diagnostic → Option Remark
  | .truncated maxLines => some ⟨.warning, s!"Truncated {path} after {maxLines} lines"⟩
  | .negativeValue line _ _ =>
    some ⟨.warning, s!"Negative benchmark value in {path} line {line}"⟩
  | _ => none

/-- The remarks on the diagnostics of a result file. -/
def ofDiagnostics (path : String) (diagnostics : List Diagnostic) : List Remark :=
  diagnostics.filterMap (ofDiagnostic? path)

/-- The remarks on an aggregation. -/
def ofAggregation (a : Aggregation) : List Remark :=
  (a.skipped.map fun s => ⟨.warning, "Could not load benchmarks from " ++ s.path⟩) ++
    if a.singleRun then
      [⟨.warning, "Only 1 benchmark run provided - recommend 3+ runs for stability"⟩]
    else []

end Remark

end PerfGate
