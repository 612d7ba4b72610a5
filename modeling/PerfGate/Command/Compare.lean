import PerfGate.Command.Outcome
import PerfGate.Gate.Comparison
import PerfGate.Report.Console

/-!
# The command `compare`

Compares a result file with a baseline and reports what changed. The configuration is checked before
any file is opened.
-/

namespace PerfGate.Command

/-- How a comparison is reported. -/
inductive ReportFormat where
  | console
  | json
  deriving DecidableEq, Repr

/-- The format with a name. -/
def ReportFormat.parse (name : String) : Except CommandError ReportFormat :=
  match lowerCase name with
  | "console" | "text" => .ok .console
  | "json" => .ok .json
  | other => .error (.invalidInput s!"unknown format '{other}' (expected console or json)")

/-- What is to be compared, and how. -/
structure CompareOptions where
  baseline : String
  current : String
  /-- The default threshold, in percent. -/
  threshold : Float
  relaxedThreshold : Option Float
  /-- The names to which the relaxed threshold applies, separated by commas. -/
  relaxedNames : Option String
  /-- Remarks for a build server are asked for. -/
  remarks : Bool
  format : ReportFormat

namespace CompareOptions

/-- The policy that the options ask for. -/
def policy (o : CompareOptions) : Logged (Except Failure Policy) :=
  let names := o.relaxedNames.mapM Policy.parseNames
  match names, Policy.new o.threshold with
  | .error e, _ => pure (.error e)
  | .ok _, .error e => pure (.error e)
  | .ok names, .ok policy => policy.relax o.relaxedThreshold names

end CompareOptions

variable {m : Type → Type} [Monad m]

/-- Reads a result file and remarks on it. -/
def loadResults (host : Host m) (maxLines : Nat) (remarks : Bool) (path : String) :
    m (Except Failure Store) := do
  let source ← host.source path
  match ← host.absorb (ResultFile.Reading.ofNonEmptySource maxLines source) with
  | .error e => pure (.error e)
  | .ok r =>
    host.remark remarks (Remark.ofDiagnostics path r.diagnostics.toList)
    pure (.ok r.store)

/-- Writes the report of a comparison. -/
def printComparison (host : Host m) (o : CompareOptions) (c : Comparison) : m Unit := do
  match o.format with
  | .console =>
    host.print (Report.comparison c)
    host.remark o.remarks (Remark.ofComparison c)
    host.printLines ["", Report.verdict c]
  | .json => host.printLines [c.toJson.render]

/-- Compares the files and reports. -/
def compareFiles (host : Host m) (maxLines : Nat) (o : CompareOptions) : m Ending := do
  match ← host.absorb o.policy with
  | .error e => pure (.error (.failed e))
  | .ok policy =>
    match ← loadResults host maxLines o.remarks o.baseline with
    | .error e => pure (.error (.failed e))
    | .ok baseline =>
      match ← loadResults host maxLines o.remarks o.current with
      | .error e => pure (.error (.failed e))
      | .ok current =>
        let c := compareStores baseline current policy
        printComparison host o c
        pure (.ok (if c.hasRegressions then .regressed else .passed))

/-- The command. -/
def compare (host : Host m) (maxLines : Nat) (o : CompareOptions) : m Ending := do
  remarkFailure host o.remarks (← compareFiles host maxLines o)

end PerfGate.Command
