import Std.Data.ExtTreeMap
import PerfGate.Load.Config
import PerfGate.Load.Latency
import PerfGate.Load.Stage

/-!
# Load runs

`callWithReconnect` makes one call on a connection that is kept from call to call, and tries once
more on a new one when the connection is at fault. `worker` is what each worker of a run does.
`runBenchmark` is a whole run: it looks whether the target is there, warms up, and then measures;
`runScenario` makes one run per concurrency level.
-/

namespace PerfGate.Load

open Std

variable {π ρ : Type}

/-- The call failed, and might succeed on another connection. -/
def lostConnection (result : Except CallError ρ) : Bool :=
  match result with
  | .error e => e.isTransport
  | .ok _ => false

/-- Opens a connection and calls on it. The connection is kept unless it was lost. -/
def callOnNew (request : Request π) : Procedure π ρ (Except CallError ρ × Option Nat) :=
  .connect fun opened =>
    match opened with
    | .error e => .finish (.error e, none)
    | .ok conn =>
      .call conn request fun result =>
        .finish (result, if lostConnection result then none else some conn)

/-- The first attempt at a call: on the connection at hand, or on a new one if there is none. -/
def callOnce (slot : Option Nat) (request : Request π) :
    Procedure π ρ (Except CallError ρ × Option Nat) :=
  match slot with
  | none => callOnNew request
  | some conn => .call conn request fun result => .finish (result, some conn)

/-- Calls on the connection at hand, or on a new one if there is none, and once more on a new one if
the connection was lost. Ends with the result and the connection to use for the next call. -/
def callWithReconnect (slot : Option Nat) (request : Request π) :
    Procedure π ρ (Except CallError ρ × Option Nat) :=
  (callOnce slot request).bind fun first =>
    if lostConnection first.1 then callOnNew request else .finish first

/-- How many errors of a run are reported one by one. -/
def reportedErrors : Nat := 3

/-- The requests of a worker, one after the other. In the measured phase the latency of every
successful call is a sample, and all samples are handed in at the end. -/
def requests (measured : Bool) (request : Request π) :
    Nat → Option Nat → List Nat → Procedure π ρ Unit
  | 0, _, samples => if measured then .deposit samples.reverse (.finish ()) else .finish ()
  | n + 1, slot, samples =>
    .readClock fun start =>
      (callWithReconnect slot request).bind fun (result, slot) =>
        match result with
        | .ok _ =>
          .readClock fun stop => requests measured request n slot ((stop - start) :: samples)
        | .error e =>
          .countError fun seen =>
            let more := requests measured request n slot samples
            if measured && seen ≤ reportedErrors then .warn ("Error: " ++ e.message) more else more

/-- What a worker does: it opens a connection, and then makes its requests whether that succeeded or
not. -/
def worker (measured : Bool) (request : Request π) (count : Nat) : Procedure π ρ Unit :=
  .connect fun opened => requests measured request count opened.toOption []

/-- The outcome of a run. -/
structure Result where
  concurrency : Nat
  attempted : Nat
  /-- Successful requests per second. -/
  throughput : Float
  /-- Successful requests. -/
  sampleCount : Nat
  /-- The duration of the measured phase, in seconds. -/
  elapsed : Float
  latency : Latency.Summary
  /-- Failed requests. -/
  errorCount : Nat

/-- The result as a record. -/
def Result.toJson (r : Result) : Json :=
  .record
    [("concurrency", .count r.concurrency),
     ("requests_attempted", .count r.attempted),
     ("throughput_per_sec", .number r.throughput),
     ("sample_count", .count r.sampleCount),
     ("elapsed_sec", .number r.elapsed),
     ("p50_ns", .count r.latency.p50),
     ("p90_ns", .count r.latency.p90),
     ("p95_ns", .count r.latency.p95),
     ("p99_ns", .count r.latency.p99),
     ("min_ns", .count r.latency.least),
     ("max_ns", .count r.latency.greatest),
     ("error_count", .count r.errorCount)]

/-- Nanoseconds as seconds. -/
def toSeconds (ns : Nat) : Float :=
  Decimal.ofNat (ns / 1000000000) + Decimal.ofNat (ns % 1000000000) / 1000000000

/-- Successful requests per second; zero if there were none or no time passed. -/
def throughput (samples : Nat) (elapsed : Float) : Float :=
  if samples = 0 ∨ elapsed ≤ 0 then 0 else Decimal.ofNat samples / elapsed

/-- The result of a run whose measured phase is over. -/
def Result.ofPhase (config : Config) (phase : Phase) : Result :=
  let elapsed := toSeconds phase.elapsed
  { concurrency := config.concurrency
    attempted := config.requests
    throughput := Load.throughput phase.samples.length elapsed
    sampleCount := phase.samples.length
    elapsed
    latency := Latency.Summary.ofSamples phase.samples
    errorCount := phase.errors }

variable {m : Type → Type} [Monad m]

/-- The warmup phase. What comes of it is forgotten. -/
def warmUp (stage : Stage m π ρ) (request : Request π) (config : Config) : m Unit := do
  let share := config.warmupPerWorker
  if share ≠ 0 then
    let _ ← stage.together (List.replicate config.concurrency (worker false request share))

/-- The measured phase. -/
def measure (stage : Stage m π ρ) (request : Request π) (config : Config) : m Result := do
  let shares := distribute config.requests config.concurrency
  let phase ← stage.together (shares.map (worker true request))
  pure (.ofPhase config phase)

/-- A whole run. It fails if the configuration is invalid or the target cannot be reached; failed
requests are only counted. -/
def runBenchmark (stage : Stage m π ρ) (request : Request π) (config : Config) :
    m (Except Failure Result) := do
  match config.validate with
  | .error e => pure (.error e)
  | .ok () =>
    match ← stage.run (.probe .finish) with
    | .error e => pure (.error (.unreachable (stage.description ++ ": " ++ e.message)))
    | .ok () =>
      warmUp stage request config
      let result ← measure stage request config
      pure (.ok result)

/-- The results of a sweep by their concurrency level; of a level that was run twice, the last. -/
abbrev Results := ExtTreeMap Nat Result

/-- Runs the levels one after the other, up to the first that cannot be run, and hands on each
result as it comes in. -/
def runLevels (stage : Stage m π ρ) (request : Request π) (handOn : Nat → Result → m Unit)
    (results : Results) : List Config → m (Except Failure Results)
  | [] => pure (.ok results)
  | config :: configs => do
    match ← runBenchmark stage request config with
    | .error e => pure (.error e)
    | .ok result =>
      handOn config.concurrency result
      runLevels stage request handOn (results.insert config.concurrency result) configs

/-- A workload of a sweep. -/
structure Scenario (π : Type) where
  name : String
  request : Request π
  /-- The measured requests at each level. -/
  total : Nat

/-- Runs a workload at every level, after all levels were found valid. -/
def runScenario (stage : Stage m π ρ) (scenario : Scenario π) (levels : List Nat) (warmup : Nat)
    (handOn : Nat → Result → m Unit) : m (Except Failure Results) := do
  if levels.isEmpty then pure (.error noLevels)
  else
    let configs := levels.map fun level => (⟨scenario.total, level, warmup⟩ : Config)
    match configs.forM Config.validate with
    | .error e => pure (.error e)
    | .ok () => runLevels stage scenario.request handOn ∅ configs

end PerfGate.Load
