import PerfGate.Decimal.Literal
import PerfGate.Failure
import PerfGate.Text.Blank

/-!
# Load configurations

How many requests a run makes, from how many workers, after how much warmup; the plan that splits
the requests over the workers, and the list of concurrency levels of a sweep.
-/

namespace PerfGate.Load

/-- The size of one run. -/
structure Config where
  /-- Measured requests, over all workers. -/
  requests : Nat
  /-- The number of parallel workers. -/
  concurrency : Nat
  /-- Requests that are made before measuring, over all workers. -/
  warmup : Nat
  deriving DecidableEq, Repr

namespace Config

/-- The configuration when nothing is asked for. -/
def standard : Config := ⟨10000, 1, 100⟩

/-- A run needs a worker. -/
def validate (c : Config) : Except Failure Unit :=
  if c.concurrency = 0 then .error (.invalidConfig "concurrency" "at least one worker is required")
  else .ok ()

/-- The warmup requests of each worker: an equal share, but at least one if there is any warmup. -/
def warmupPerWorker (c : Config) : Nat :=
  if c.warmup = 0 ∨ c.concurrency = 0 then 0 else max (c.warmup / c.concurrency) 1

end Config

/-- The shares of the workers in the requests: as equal as possible, the larger ones first. -/
def distribute (total workers : Nat) : List Nat :=
  (List.range workers).map fun i => total / workers + if i < total % workers then 1 else 0

/-- The concurrency levels of a sweep when none are given. -/
def standardLevels : String := "1,2,4,8,16"

/-- The complaint about a sweep without levels. -/
def noLevels : Failure :=
  .invalidConfig "clients" "at least one concurrency level is required"

/-- One entry of a list of concurrency levels. -/
def parseLevel (entry : String) : Except Failure Nat :=
  match Decimal.readNat UInt64.size entry with
  | some n =>
    if n = 0 then .error (.invalidConfig "clients" s!"'{entry}' is not a positive integer")
    else .ok n
  | none => .error (.invalidConfig "clients" s!"'{entry}' is not a positive integer")

/-- The concurrency levels of a list separated by commas, in which blank entries do not count. -/
def parseLevels (raw : String) : Except Failure (List Nat) := do
  let entries := (raw.toList.splitOn ',').map Text.trimChars
  let levels ← (entries.filter (!·.isEmpty)).mapM fun entry => parseLevel (String.ofList entry)
  if levels.isEmpty then .error noLevels else pure levels

end PerfGate.Load
