import Mathlib.Tactic.Lemma
import PerfGate.Load.Run

/-!
# Calls that keep their connection

A call whose first attempt does not lose its connection is over after this attempt: the connection
is kept, and nothing is sent again (`run_callWithReconnect`). A worker counts it once, as a sample
or as an error (`run_requests_succ`).
-/

namespace PerfGate.Load

variable {σ π ρ α β : Type} {t : Target σ π ρ} {clock : Clock}

/-- Procedures one after the other are performed one after the other. -/
lemma Procedure.run_bind (p : Procedure π ρ α) (f : α → Procedure π ρ β) (s : Arena σ π ρ) :
    (p.bind f).run t clock s = (f (p.run t clock s).1).run t clock (p.run t clock s).2 := by
  induction p generalizing s with
  | finish a => rfl
  | connect next ih => exact ih _ _
  | probe next ih => exact ih _ _
  | call conn request next ih => exact ih _ _
  | readClock next ih => exact ih _ _
  | countError next ih => exact ih _ _
  | warn message next ih => exact ih _
  | deposit samples next ih => exact ih _

/-- The connection for the next call is there: it is at hand, or it can be opened. -/
inductive Ready (t : Target σ π ρ) (s : Arena σ π ρ) : Option Nat → Nat → Arena σ π ρ → Prop
  | held (conn : Nat) : Ready t s (some conn) conn s
  | opened {conn : Nat} {s' : Arena σ π ρ} (connect : s.connect t = (.ok conn, s')) :
      Ready t s none conn s'

/-- A worker counts the result of a call: a sample more among those that it holds, or an error
more. -/
inductive Counts (samples : List Nat) (errors : Nat) : Except CallError ρ → List Nat → Nat → Prop
  | sample (r : ρ) (latency : Nat) : Counts samples errors (.ok r) (latency :: samples) errors
  | error (e : CallError) : Counts samples errors (.error e) samples (errors + 1)

/-- Every call is counted once. -/
lemma Counts.total {samples samples' : List Nat} {errors errors' : Nat}
    {result : Except CallError ρ} (h : Counts samples errors result samples' errors') :
    samples'.length + errors' = samples.length + errors + 1 := by
  cases h with
  | sample r latency =>
    rw [List.length_cons]
    omega
  | error e => omega

variable {request : Request π} {slot : Option Nat} {conn : Nat} {s s' s'' : Arena σ π ρ}
  {result : Except CallError ρ}

/-- A call is made once if its connection is not lost. -/
lemma run_callWithReconnect (clock : Clock) (ready : Ready t s slot conn s')
    (call : s'.call t conn request = (result, s'')) (fine : lostConnection result = false) :
    (callWithReconnect slot request).run t clock s = ((result, some conn), s'') := by
  -- the first attempt is the call itself; what follows it depends on `lostConnection` only
  have first : (callOnce slot request).run t clock s = ((result, some conn), s'') := by
    cases ready with
    | held =>
      change ((((s.call t conn request).1, some conn), (s.call t conn request).2)) = _
      rw [call]
    | opened connect =>
      have called : (Procedure.call conn request fun r =>
          Procedure.finish (r, if lostConnection r then none else some conn)).run t clock s' =
            ((result, some conn), s'') := by
        change (((s'.call t conn request).1,
          if lostConnection (s'.call t conn request).1 then none else some conn),
          (s'.call t conn request).2) = _
        rw [call]
        simp only [fine, Bool.false_eq_true, if_false]
      rw [callOnce, callOnNew, Procedure.run, connect]
      exact called
  rw [callWithReconnect, Procedure.run_bind, first]
  simp only [fine, Bool.false_eq_true, if_false]
  rfl

/-- A report changes the warnings only. -/
lemma run_report (t : Target σ π ρ) (clock : Clock) (reported : Bool) (message : String)
    (p : Procedure π ρ Unit) (s : Arena σ π ρ) :
    ∃ warnings, (if reported then .warn message p else p : Procedure π ρ Unit).run t clock s =
      p.run t clock { s with warnings } := by
  cases reported with
  | true => exact ⟨s.warnings ++ [message], rfl⟩
  | false => exact ⟨s.warnings, rfl⟩

/-- What counting leaves as it was. -/
structure Arena.Same (s s' : Arena σ π ρ) : Prop where
  target : s'.target = s.target
  opened : s'.opened = s.opened
  samples : s'.samples = s.samples

/-- A worker counts such a call once, and goes on with its connection. -/
lemma run_requests_succ (measured : Bool) (n : Nat) (samples : List Nat)
    (ready : Ready t { s with ticks := s.ticks + 1 } slot conn s')
    (call : s'.call t conn request = (result, s'')) (fine : lostConnection result = false) :
    ∃ samples' after, Counts samples s''.errors result samples' after.errors ∧ s''.Same after ∧
      (requests measured request (n + 1) slot samples).run t clock s =
        (requests measured request n (some conn) samples').run t clock after := by
  have called := run_callWithReconnect clock ready call fine
  rw [requests, Procedure.run, Arena.readClock]
  simp only
  rw [Procedure.run_bind, called]
  cases result with
  | ok r => exact ⟨_, { s'' with ticks := s''.ticks + 1 }, .sample r _, ⟨rfl, rfl, rfl⟩, rfl⟩
  | error e =>
    obtain ⟨warnings, reported⟩ := run_report t clock
      (measured && s''.errors + 1 ≤ reportedErrors) ("Error: " ++ e.message)
      (requests measured request n (some conn) samples) { s'' with errors := s''.errors + 1 }
    exact ⟨_, { s'' with errors := s''.errors + 1, warnings }, .error e, ⟨rfl, rfl, rfl⟩, reported⟩

end PerfGate.Load
