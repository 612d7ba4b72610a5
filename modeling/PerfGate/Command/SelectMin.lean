import PerfGate.Command.Outcome
import PerfGate.Measurement.Aggregation

/-!
# The command `select-min`

Reduces the result files of several runs to one that holds the least value of every benchmark.
-/

namespace PerfGate.Command

/-- What is to be reduced, and where the result goes. -/
structure SelectMinOptions where
  files : List String
  output : String
  /-- The title in the header of the output. -/
  title : String
  /-- Remarks for a build server are asked for. -/
  remarks : Bool

variable {m : Type → Type} [Monad m]

/-- Writes a reduction to the output file. -/
def writeMinimum (host : Host m) (o : SelectMinOptions) (a : Aggregation) : m Ending := do
  host.remark o.remarks (Remark.ofAggregation a)
  host.printLines
    [s!"Selected minimum across {a.runCount} runs for {a.store.size} benchmarks"]
  let header : ResultFile.Header := ⟨o.title, a.runCount, ← host.now⟩
  match ← host.write o.output (ResultFile.render a.store header) with
  | .error e => pure (.error (.failed (ResultFile.unwritable o.output e)))
  | .ok () =>
    host.printLines ["Results written to " ++ o.output]
    pure (.ok .passed)

/-- Reduces the files and writes the result. -/
def reduceFiles (host : Host m) (maxLines : Nat) (o : SelectMinOptions) : m Ending := do
  let sources ← o.files.mapM host.source
  match ← host.absorb (Aggregation.ofSources maxLines sources) with
  | .error e => pure (.error (.failed e))
  | .ok a => writeMinimum host o a

/-- The command. -/
def selectMin (host : Host m) (maxLines : Nat) (o : SelectMinOptions) : m Ending := do
  remarkFailure host o.remarks (← reduceFiles host maxLines o)

end PerfGate.Command
