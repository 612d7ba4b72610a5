import PerfGate.Command.Outcome
import PerfGate.Report.Console
import PerfGate.Report.Csv
import PerfGate.Report.Sweep
import PerfGate.XmlRpc.Client
import PerfGate.XmlRpc.Payload

/-!
# The command `rps`

Measures how many calls a server answers and how fast, for two workloads at several levels of
concurrency. The server must answer one call before any load is put on it. Rows of a table are
written as the levels end; a JSON document is written at the end.
-/

namespace PerfGate.Command

open Load (Stage)
open XmlRpc (Endpoint Value)

/-- How load results are reported. -/
inductive ExportFormat where
  | table
  | csv
  | json
  deriving DecidableEq, Repr

/-- The format with a name. -/
def ExportFormat.parse (name : String) : Except Failure ExportFormat :=
  match lowerCase name with
  | "table" => .ok .table
  | "csv" => .ok .csv
  | "json" => .ok .json
  | other =>
    .error (.invalidConfig "output" s!"unknown format '{other}' (expected table, csv or json)")

/-- Which workloads are run. -/
inductive ScenarioChoice where
  | small
  | large
  | both
  deriving DecidableEq, Repr

/-- The choice with a name. -/
def ScenarioChoice.parse (name : String) : Except CommandError ScenarioChoice :=
  match lowerCase name with
  | "small" => .ok .small
  | "large" => .ok .large
  | "both" => .ok .both
  | other => .error (.invalidInput s!"unknown scenario '{other}' (expected small, large or both)")

/-- What load is put on which server. -/
structure RpsOptions where
  host : String
  port : Nat
  path : String
  /-- Measured calls at each level. -/
  requests : Nat
  /-- The concurrency levels, separated by commas. -/
  clients : String
  /-- Warmup calls at each level. -/
  warmup : Nat
  scenario : ScenarioChoice
  /-- Measured calls at each level with the large payload. -/
  largeRequests : Option Nat
  /-- The time allowed for a call, in seconds. -/
  timeoutSecs : Nat
  output : ExportFormat
  /-- No banner is to be written. -/
  quiet : Bool

namespace RpsOptions

/-- The most calls with the large payload unless more are asked for. -/
def largeRequestsCap : Nat := 1000

/-- The server. -/
def endpoint (o : RpsOptions) : Endpoint :=
  ⟨o.host, o.port, o.path, 1000 * o.timeoutSecs⟩

/-- Measured calls at each level with the large payload: as asked for, unless that is zero. -/
def largeRequestCount (o : RpsOptions) : Nat :=
  match o.largeRequests with
  | some (n + 1) => n + 1
  | _ => min o.requests largeRequestsCap

/-- The workloads to run. -/
def scenarios (o : RpsOptions) : List (Load.Scenario Value) :=
  let small := XmlRpc.smallScenario o.requests
  let large := XmlRpc.largeScenario o.largeRequestCount
  match o.scenario with
  | .small => [small]
  | .large => [large]
  | .both => [small, large]

/-- The lines above the results. -/
def heading (o : RpsOptions) : List String :=
  match o.output with
  | .table =>
    (if o.quiet then []
     else
      ["", "=== RPS Benchmark Results ===", "Server: " ++ o.endpoint.authority,
       s!"Warmup: {o.warmup} requests per client count", ""]) ++ [Report.resultHeading]
  | .csv => [Report.csvHeading]
  | .json => []

/-- The line of a result. -/
def resultLines (o : RpsOptions) (scenario : String) (clients : Nat) (r : Load.Result) :
    List String :=
  match o.output with
  | .table => [Report.resultRow scenario clients r]
  | .csv => [Report.csvRow scenario clients r]
  | .json => []

/-- The lines below the results. -/
def closing (o : RpsOptions) (results : List (String × Load.Results)) : List String :=
  match o.output with
  | .table => [""]
  | .csv => []
  | .json => [(Report.sweepJson o.endpoint.authority results).render]

end RpsOptions

/-- A call that the server should answer before it is put under load. -/
def firstCall : Load.Request Value :=
  ⟨XmlRpc.echoMethod, .text "test"⟩

variable {m : Type → Type} [Monad m]

/-- Runs workloads one after the other, up to the first that cannot be run. -/
def runScenarios (host : Host m) (stage : Stage m Value Value) (o : RpsOptions)
    (levels : List Nat) :
    List (Load.Scenario Value) → m (Except Failure (List (String × Load.Results)))
  | [] => pure (.ok [])
  | scenario :: rest => do
    let handOn := fun clients r => host.printLines (o.resultLines scenario.name clients r)
    match ← Load.runScenario stage scenario levels o.warmup handOn with
    | .error e => pure (.error e)
    | .ok results =>
      match ← runScenarios host stage o levels rest with
      | .error e => pure (.error e)
      | .ok more => pure (.ok ((scenario.name, results) :: more))

/-- Runs the workloads on a server that answered, and reports. -/
def measureServer (host : Host m) (stage : Stage m Value Value) (o : RpsOptions)
    (levels : List Nat) : m Ending := do
  host.printLines o.heading
  match ← runScenarios host stage o levels o.scenarios with
  | .error e => pure (.error (.failed e))
  | .ok results =>
    host.printLines (o.closing results)
    pure (.ok .passed)

/-- The command, given the stage on which calls to a server are made. -/
def rps (host : Host m) (stageFor : Endpoint → Stage m Value Value) (o : RpsOptions) :
    m Ending := do
  match Load.parseLevels o.clients with
  | .error e => pure (.error (.failed e))
  | .ok levels =>
    if o.timeoutSecs = 0 then pure (.error (.invalidInput "--timeout-secs must be positive"))
    else
      let stage := stageFor o.endpoint
      match (← stage.run (Load.callOnNew firstCall)).1 with
      | .error e => pure (.error (.serverUnavailable o.endpoint.url o.port e.message))
      | .ok _ => measureServer host stage o levels

end PerfGate.Command
