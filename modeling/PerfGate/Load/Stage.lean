import PerfGate.Load.Procedure

/-!
# Stages

A `Stage` performs procedures in some monad: one of them, or those of several workers side by side.
Runs are written over a stage, so that the same run can be performed on a live system and on a
`Target`. `Stage.ofTarget` is the stage around a target: it performs workers in the order that the
next schedule of its arena gives.
-/

namespace PerfGate.Load

/-- What came of workers that ran side by side. -/
structure Phase where
  /-- The samples that they handed in, in nanoseconds. -/
  samples : List Nat
  /-- The errors that they counted. -/
  errors : Nat
  /-- The time that all of them took, in nanoseconds. -/
  elapsed : Nat

/-- Something that performs procedures. -/
structure Stage (m : Type → Type) (π ρ : Type) where
  /-- What the procedures act on, for messages. -/
  description : String
  /-- Performs one procedure. -/
  run {α : Type} : Procedure π ρ α → m α
  /-- Performs the procedures of several workers side by side, counting from zero. -/
  together : List (Procedure π ρ Unit) → m Phase

/-- Performs the procedures of workers in the order of the next schedule. -/
def Arena.together {σ π ρ : Type} (t : Target σ π ρ) (clock : Clock)
    (workers : List (Procedure π ρ Unit)) (s : Arena σ π ρ) : Phase × Arena σ π ρ :=
  let schedule := s.schedules.headD []
  let s := { s with errors := 0, samples := [], schedules := s.schedules.drop 1 }
  let (start, s) := s.readClock clock
  let s := Procedure.interleave t clock schedule workers s
  let (stop, s) := s.readClock clock
  (⟨s.samples, s.errors, stop - start⟩, s)

/-- The stage around a target. -/
def Stage.ofTarget {n : Type → Type} [Monad n] {σ π ρ : Type} (t : Target σ π ρ) (clock : Clock) :
    Stage (StateT (Arena σ π ρ) n) π ρ where
  description := t.description
  run procedure := modifyGet (procedure.run t clock)
  together workers := modifyGet (Arena.together t clock workers)

end PerfGate.Load
