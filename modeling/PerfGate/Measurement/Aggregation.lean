import PerfGate.ResultFile.Reading

/-!
# The minimum of several runs

Repeated runs of one suite are reduced to one store that holds, for every name, the least value that
any run has for it. Runs are read from result files; a file that yields nothing is skipped with the
reason.
-/

namespace PerfGate

/-- The store with a value for a name, unless it already has one that is at most as large. -/
def Store.lower (s : Store) (name : String) (value : Float) : Store :=
  match s.get? name with
  | some current => if current ≤ value then s else s.insert name value
  | none => s.insert name value

/-- The least value of every name over the runs. Of equal values the first is kept. -/
def Store.minimum (runs : List Store) : Store :=
  runs.foldl (fun least run => run.toList.foldl (fun s m => s.lower m.1 m.2) least) Store.empty

/-- A file that contributed no run. -/
structure SkippedFile where
  path : String
  reason : String
  deriving DecidableEq, Repr

/-- Several runs reduced to one store. -/
structure Aggregation where
  store : Store
  /-- The number of runs that contributed. -/
  runCount : Nat
  /-- The names whose least value is negative. -/
  negativeNames : List String
  /-- There was one run only, so nothing was reduced. -/
  singleRun : Bool
  skipped : List SkippedFile

namespace Aggregation

/-- How many negative names a warning spells out. -/
def namesShown : Nat := 3

/-- A warning about negative values, if there are any. -/
def negativeWarning? (a : Aggregation) : Option String :=
  let count := a.negativeNames.length
  if count = 0 then none
  else
    let shown := String.intercalate ", " (a.negativeNames.take namesShown)
    let more := if namesShown < count then "..." else ""
    some s!"{count} benchmark(s) have negative values: {shown}{more}"

/-- The reduction of runs, without a word about it. -/
def reduce (runs : List Store) : Aggregation :=
  let store := Store.minimum runs
  { store
    runCount := runs.length
    negativeNames := store.negativeNames
    singleRun := runs.length == 1
    skipped := [] }

/-- The reduction of runs, with warnings about negative values and about a single run. -/
def ofRuns (runs : List Store) : Logged Aggregation := do
  let a := reduce runs
  Logged.warnAll a.negativeWarning?.toList
  if a.singleRun then Logged.warn "Only 1 run provided - minimum selection has no effect"
  pure a

/-- The run in a file, or why the file is skipped. -/
def runOfSource (maxLines : Nat) (source : ResultFile.Source) :
    Logged (Except SkippedFile Store) := do
  let reason (text : String) : Logged (Except SkippedFile Store) := do
    Logged.warn ("Could not load benchmarks: " ++ text)
    pure (.error ⟨source.path, text⟩)
  match ← ResultFile.Reading.ofSource maxLines source with
  | .ok r =>
    if r.store.isEmpty then reason "file is empty or contains no valid data"
    else pure (.ok r.store)
  | .error e => reason e.message

/-- The reduction of the runs in files. It fails if no file yields a run. -/
def ofSources (maxLines : Nat) (sources : List ResultFile.Source) :
    Logged (Except Failure Aggregation) := do
  let results ← sources.mapM (runOfSource maxLines)
  let runs := results.filterMap Except.toOption
  let skipped := results.filterMap fun r =>
    match r with
    | .ok _ => none
    | .error s => some s
  if runs.isEmpty then pure (.error .noValidInput)
  else
    let a ← ofRuns runs
    pure (.ok { a with skipped })

/-- The reduction as a record. -/
def toJson (a : Aggregation) : Json :=
  .record
    [("store", a.store.toJson),
     ("run_count", .count a.runCount),
     ("negative_names", .list (a.negativeNames.map .text)),
     ("single_run", .boolean a.singleRun),
     ("skipped", .list (a.skipped.map fun s =>
       .record [("path", .text s.path), ("reason", .text s.reason)]))]

end Aggregation

end PerfGate
