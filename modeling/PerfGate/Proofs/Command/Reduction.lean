import PerfGate.Proofs.Command.SelectMin
import PerfGate.Proofs.Measurement.Runs

/-!
# What the command `select-min` leaves behind

The command fails and leaves every file as it was if nothing is measured in its input files. Else
it puts the minimum of the usable ones into its output file, and only there, or fails because that
file cannot be written (`selectMin_reduces`). Input files that are not usable are skipped, and the
minimum is what it would be without them. All inputs are read before the output is written, so the
output file may be one of them.
-/

namespace PerfGate.Command

open Aggregation (Reduces usable)
open FileSystem (Rewrites)
open ResultFile (FileMeasures Unusable render unusable_iff)

/-- The files in which something is measured are reduced to this, and so are any others that only
differ from them in files that are not usable. -/
structure Minimum (files : FileSystem) (maxLines : Nat) (paths : List String) (a : Aggregation) :
    Prop where
  value : (Aggregation.ofSources maxLines (paths.map (.ofPath files))).value = .ok a
  reduces : Reduces files maxLines paths a
  others : ∀ others, usable files maxLines others = usable files maxLines paths →
    ∃ a', (Aggregation.ofSources maxLines (others.map (.ofPath files))).value = .ok a' ∧
      a'.store = a.store ∧ a'.runCount = a.runCount

/-- In every world the command ends in one of three ways. If nothing is measured in the input files,
it fails and changes no file. Otherwise it either writes their minimum to the output file and
changes no other one, or it fails because that file cannot be written and changes none. -/
theorem selectMin_reduces (w : World) (maxLines : Nat) (o : SelectMinOptions) :
    ∃ ending w', (selectMin Host.ofWorld maxLines o).run w = (ending, w') ∧
      ((∀ path ∈ o.files, ∀ name value, ¬ FileMeasures w.files maxLines path name value) →
        ending = .error (.failed .noValidInput) ∧ w'.files = w.files) ∧
      ((∃ path ∈ o.files, ∃ name value, FileMeasures w.files maxLines path name value) →
        ∃ a, Minimum w.files maxLines o.files a ∧
          match w.files.write o.output (render a.store ⟨o.title, a.runCount, w.time⟩) with
          | .ok files => ending = .ok .passed ∧ w'.files = files ∧
              Rewrites w.files files o.output (render a.store ⟨o.title, a.runCount, w.time⟩)
          | .error e => ending = .error (.failed (.unwritable o.output e.message)) ∧
              w'.files = w.files) := by
  by_cases some : ∃ path ∈ o.files, ∃ name value, FileMeasures w.files maxLines path name value
  · have one := some
    obtain ⟨path, mem, name, value, measures⟩ := one
    have used : ¬ Unusable w.files maxLines path :=
      fun fault => unusable_iff.1 fault name value measures
    obtain ⟨a, reduced, reduces⟩ := Aggregation.ofSources_of_usable mem used
    have minimum : Minimum w.files maxLines o.files a :=
      ⟨reduced, reduces, fun _ same => Aggregation.ofSources_of_same_usable same reduced⟩
    obtain ⟨output, warnings, run⟩ := run_selectMin_of_ok reduced
    refine ⟨_, _, run, fun none => absurd measures (none path mem name value), fun _ => ?_⟩
    refine ⟨a, minimum, ?_⟩
    cases written : w.files.write o.output (render a.store ⟨o.title, a.runCount, w.time⟩) with
    | error e => exact ⟨rfl, rfl⟩
    | ok files => exact ⟨rfl, rfl, FileSystem.rewrites_of_write written⟩
  · have none : ∀ path ∈ o.files, Unusable w.files maxLines path := fun path mem =>
      unusable_iff.2 fun name value measures => some ⟨path, mem, name, value, measures⟩
    obtain ⟨output, warnings, run⟩ :=
      run_selectMin_of_error (Aggregation.ofSources_of_unusable none)
    exact ⟨_, _, run, fun _ => ⟨rfl, rfl⟩, fun h => absurd h some⟩

end PerfGate.Command
