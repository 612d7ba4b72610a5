import PerfGate.Load.Target

/-!
# Procedures of workers

A `Procedure` is what one worker does, as a tree of atomic steps: each step acts on the `Arena`, the
state that all workers share, and what comes next depends on the answer. `run` performs a procedure
to its end; `interleave` performs several at once, in the order that a schedule gives, so that every
way of running the workers side by side is some schedule.
-/

namespace PerfGate.Load

/-- The steps of a worker that ends with an `α`. -/
inductive Procedure (π ρ α : Type) where
  | finish (a : α)
  /-- Opens a connection; the answer is its number. -/
  | connect (next : Except CallError Nat → Procedure π ρ α)
  /-- Looks whether the target can be reached. -/
  | probe (next : Except CallError Unit → Procedure π ρ α)
  /-- Calls on a connection. -/
  | call (conn : Nat) (request : Request π) (next : Except CallError ρ → Procedure π ρ α)
  /-- Reads the clock, in nanoseconds. -/
  | readClock (next : Nat → Procedure π ρ α)
  /-- Counts an error; the answer is the new count. -/
  | countError (next : Nat → Procedure π ρ α)
  /-- Gives a warning. -/
  | warn (message : String) (next : Procedure π ρ α)
  /-- Hands in latency samples. -/
  | deposit (samples : List Nat) (next : Procedure π ρ α)

/-- What was asked of the target, and its answer. -/
inductive Event (π ρ : Type) where
  | connected (result : Except CallError Nat)
  | probed (result : Except CallError Unit)
  | called (conn : Nat) (request : Request π) (result : Except CallError ρ)

/-- The order in which workers make their steps: the number of the worker for each step. -/
abbrev Schedule := List Nat

/-- What the workers share. -/
structure Arena (σ π ρ : Type) where
  /-- The state of the target. -/
  target : σ
  /-- The number of connections that were opened. -/
  opened : Nat
  /-- How often the clock was read. -/
  ticks : Nat
  /-- The errors counted. -/
  errors : Nat
  /-- The samples handed in. -/
  samples : List Nat
  /-- The warnings given, in order. -/
  warnings : List String
  /-- What was asked of the target, the latest first. -/
  history : List (Event π ρ)
  /-- The orders in which workers that are started together make their steps, one for each such
  start to come. -/
  schedules : List Schedule

/-- The time at each reading of the clock, in nanoseconds. -/
abbrev Clock := Nat → Nat

namespace Arena

variable {σ π ρ : Type}

/-- The arena around a target before anything happened. -/
def start (target : σ) (schedules : List Schedule) : Arena σ π ρ :=
  { target, opened := 0, ticks := 0, errors := 0, samples := [], warnings := [], history := [],
    schedules }

/-- Opens a connection. -/
def connect (t : Target σ π ρ) (s : Arena σ π ρ) : Except CallError Nat × Arena σ π ρ :=
  let (answer, target) := t.connect s.target
  match answer with
  | .ok () =>
    let result := .ok s.opened
    (result, { s with target, opened := s.opened + 1, history := .connected result :: s.history })
  | .error e =>
    (.error e, { s with target, history := .connected (.error e) :: s.history })

/-- Looks whether the target can be reached. -/
def probe (t : Target σ π ρ) (s : Arena σ π ρ) : Except CallError Unit × Arena σ π ρ :=
  match t.probe with
  | some look =>
    let (result, target) := look s.target
    (result, { s with target, history := .probed result :: s.history })
  | none =>
    let (result, s) := s.connect t
    (result.map fun _ => (), s)

/-- Calls on a connection. -/
def call (t : Target σ π ρ) (conn : Nat) (request : Request π) (s : Arena σ π ρ) :
    Except CallError ρ × Arena σ π ρ :=
  let (result, target) := t.call conn request s.target
  (result, { s with target, history := .called conn request result :: s.history })

/-- Reads the clock. -/
def readClock (clock : Clock) (s : Arena σ π ρ) : Nat × Arena σ π ρ :=
  (clock s.ticks, { s with ticks := s.ticks + 1 })

/-- Counts an error. -/
def countError (s : Arena σ π ρ) : Nat × Arena σ π ρ :=
  (s.errors + 1, { s with errors := s.errors + 1 })

/-- Gives a warning. -/
def warn (message : String) (s : Arena σ π ρ) : Arena σ π ρ :=
  { s with warnings := s.warnings ++ [message] }

/-- Hands in samples. -/
def deposit (samples : List Nat) (s : Arena σ π ρ) : Arena σ π ρ :=
  { s with samples := s.samples ++ samples }

end Arena

namespace Procedure

variable {σ π ρ α β : Type}

/-- One procedure, then another that depends on how the first ended. -/
def bind : Procedure π ρ α → (α → Procedure π ρ β) → Procedure π ρ β
  | finish a, f => f a
  | connect next, f => connect fun r => (next r).bind f
  | probe next, f => probe fun r => (next r).bind f
  | call conn request next, f => call conn request fun r => (next r).bind f
  | readClock next, f => readClock fun t => (next t).bind f
  | countError next, f => countError fun n => (next n).bind f
  | warn message next, f => warn message (next.bind f)
  | deposit samples next, f => deposit samples (next.bind f)

/-- Performs the first step. -/
def step (t : Target σ π ρ) (clock : Clock) (p : Procedure π ρ α) (s : Arena σ π ρ) :
    Procedure π ρ α × Arena σ π ρ :=
  match p with
  | finish a => (finish a, s)
  | connect next => let (r, s) := s.connect t; (next r, s)
  | probe next => let (r, s) := s.probe t; (next r, s)
  | call conn request next => let (r, s) := s.call t conn request; (next r, s)
  | readClock next => let (n, s) := s.readClock clock; (next n, s)
  | countError next => let (n, s) := s.countError; (next n, s)
  | warn message next => (next, s.warn message)
  | deposit samples next => (next, s.deposit samples)

/-- Performs all steps. -/
def run (t : Target σ π ρ) (clock : Clock) : Procedure π ρ α → Arena σ π ρ → α × Arena σ π ρ
  | finish a, s => (a, s)
  | connect next, s => let (r, s) := s.connect t; (next r).run t clock s
  | probe next, s => let (r, s) := s.probe t; (next r).run t clock s
  | call conn request next, s => let (r, s) := s.call t conn request; (next r).run t clock s
  | readClock next, s => let (n, s) := s.readClock clock; (next n).run t clock s
  | countError next, s => let (n, s) := s.countError; (next n).run t clock s
  | warn message next, s => next.run t clock (s.warn message)
  | deposit samples next, s => next.run t clock (s.deposit samples)

/-- Performs the procedures of several workers to their ends. The steps are made in the order of the
schedule; a number that belongs to no worker, or to one that has finished, makes no step; what is
left when the schedule is used up is done worker by worker. -/
def interleave (t : Target σ π ρ) (clock : Clock) :
    Schedule → List (Procedure π ρ Unit) → Arena σ π ρ → Arena σ π ρ
  | [], workers, s => workers.foldl (fun s worker => (worker.run t clock s).2) s
  | i :: schedule, workers, s =>
    match workers[i]? with
    | some worker =>
      let (worker, s) := worker.step t clock s
      interleave t clock schedule (workers.set i worker) s
    | none => interleave t clock schedule workers s

end Procedure

end PerfGate.Load
