import PerfGate.Gate.Comparison
import PerfGate.Load.Run
import PerfGate.Report.Units
import PerfGate.Text.Column

/-!
# Reports for a terminal

A comparison as counts, tables and a verdict, and load results as the rows of a table.
-/

namespace PerfGate.Report

open Text (padLeft padRight rule)

/-- The heading of a table of entries. -/
def entryHeading : String :=
  padRight 40 "Benchmark" ++ " " ++ padLeft 12 "Baseline" ++ " " ++ padLeft 12 "Current" ++ " " ++
    padLeft 10 "Delta"

/-- The row of an entry; its threshold is shown if it is not the default one. -/
def entryRow (standard : Float) (e : Entry) : String :=
  padRight 40 e.name ++ " " ++ padLeft 12 (duration e.baseline) ++ " " ++
    padLeft 12 (duration e.current) ++ " " ++ padLeft 9 (Decimal.signedFixed 1 e.delta) ++ "%" ++
    if e.threshold == standard then "" else "  (threshold " ++ percentage e.threshold ++ ")"

/-- A title between two ruled lines. -/
def banner (line : Char) (title : String) : List String :=
  [rule 70 line, title, rule 70 line]

/-- A section of the report that holds entries; left out if there are none. -/
def entrySection (line : Char) (title : String) (standard : Float) (entries : List Entry) :
    List String :=
  if entries.isEmpty then []
  else
    banner line title ++ [entryHeading, rule 76 '-'] ++ entries.map (entryRow standard) ++ [""]

/-- A section of the report that holds names; left out if there are none. -/
def nameSection (title : String) (names : List String) : List String :=
  if names.isEmpty then [] else banner '-' title ++ names.map ("  " ++ ·) ++ [""]

/-- The line of a count that is shown only if there is something to count. -/
def countLine (label : String) (names : List String) : List String :=
  if names.isEmpty then [] else [label ++ toString names.length]

/-- The lines of a comparison report. -/
def comparisonLines (c : Comparison) : List String :=
  "" :: banner '=' s!"BENCHMARK COMPARISON REPORT (threshold: {percentage c.threshold})" ++
    [s!"Total benchmarks compared: {c.comparedCount}",
     s!"  Regressions:  {c.regressions.length}",
     s!"  Improvements: {c.improvements.length}",
     s!"  Unchanged:    {c.unchanged.length}"] ++
    countLine "  New:          " c.new ++
    countLine "  Missing:      " c.missing ++
    [""] ++
    entrySection '!' "REGRESSIONS DETECTED (performance got worse)" c.threshold c.regressions ++
    entrySection '-' "IMPROVEMENTS (performance got better)" c.threshold c.improvements ++
    nameSection "NEW BENCHMARKS (no baseline for comparison)" c.new ++
    nameSection "MISSING BENCHMARKS (in baseline but not in current)" c.missing

/-- The text of a comparison report. -/
def comparison (c : Comparison) : String :=
  String.join ((comparisonLines c).map (· ++ "\n"))

/-- The verdict on a comparison. -/
def verdict (c : Comparison) : String :=
  let threshold := percentage c.threshold
  if c.hasRegressions then
    s!"FAILED: {c.regressions.length} regression(s) exceed {threshold} threshold"
  else s!"PASSED: No regressions beyond {threshold} threshold"

/-- Cells of a row, side by side. -/
def tableRow (cells : List String) : String :=
  String.intercalate " | " cells

/-- The heading of the table of load results, with the line below it. -/
def resultHeading : String :=
  tableRow
    [padRight 20 "Scenario", padLeft 7 "Clients", padLeft 8 "Requests", padLeft 10 "RPS",
     padLeft 8 "p50", padLeft 8 "p90", padLeft 8 "p95", padLeft 8 "p99", padLeft 6 "Errors"] ++
    "\n" ++ rule 105 '-'

/-- A latency in a row of load results. -/
def latencyCell (ns : Nat) : String :=
  padLeft 7 (Decimal.fixed 2 (Latency.toMillis ns)) ++ "ms"

/-- The row of a load result. -/
def resultRow (scenario : String) (clients : Nat) (r : Load.Result) : String :=
  tableRow
    [padRight 20 scenario, padLeft 7 (toString clients), padLeft 8 (toString r.sampleCount),
     padLeft 10 (Decimal.fixed 1 r.throughput), latencyCell r.latency.p50,
     latencyCell r.latency.p90, latencyCell r.latency.p95, latencyCell r.latency.p99,
     padLeft 6 (toString r.errorCount)]

end PerfGate.Report
