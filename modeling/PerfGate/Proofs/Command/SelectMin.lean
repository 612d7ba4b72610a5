import PerfGate.Command.SelectMin
import PerfGate.Proofs.Command.Verdict
import PerfGate.Proofs.ResultFile.Reachable

/-!
# What the command `select-min` writes

The command fails and leaves the files alone, or it writes the minimum of its input files and
changes nothing else (`attains_selectMin`). What it wrote can be read, but the lines of the header
count: under the cap that was in force, as many names are read as there is room for behind the
header (`selectMin_output`).
-/

namespace PerfGate.Command

open ResultFile (Timestamp Reading headerLength render)

/-! ## Running the command -/

/-- In every world with these files the computation gives a value and leaves files of which the
statement holds. -/
def Attains {α : Type} (files : FileSystem) (x : StateM World α) (P : α → FileSystem → Prop) :
    Prop :=
  ∀ w, w.files = files → P (x.run w).1 (x.run w).2.files

/-- How the command ends, and with which files: the inputs yield nothing, or the output cannot be
written, or the minimum is written to it. -/
inductive Selects (files : FileSystem) (maxLines : Nat) (o : SelectMinOptions) :
    Ending → FileSystem → Prop
  | noInput {e : Failure}
      (h : (Aggregation.ofSources maxLines (o.files.map (.ofPath files))).value = .error e) :
      Selects files maxLines o (.error (.failed e)) files
  | unwritable {a : Aggregation} {time : Timestamp} {e : PathError}
      (h : (Aggregation.ofSources maxLines (o.files.map (.ofPath files))).value = .ok a)
      (failed : files.write o.output (render a.store ⟨o.title, a.runCount, time⟩) = .error e) :
      Selects files maxLines o (.error (.failed (ResultFile.unwritable o.output e))) files
  | written {a : Aggregation} {time : Timestamp} {files' : FileSystem}
      (h : (Aggregation.ofSources maxLines (o.files.map (.ofPath files))).value = .ok a)
      (done : files.write o.output (render a.store ⟨o.title, a.runCount, time⟩) = .ok files') :
      Selects files maxLines o (.ok .passed) files'

variable {files : FileSystem} {maxLines : Nat} {o : SelectMinOptions}

/-- What a reduction is written to, and what the command leaves behind. -/
lemma run_writeMinimum (o : SelectMinOptions) (a : Aggregation) (w : World) :
    ∃ output, (writeMinimum Host.ofWorld o a).run w =
      match w.files.write o.output (render a.store ⟨o.title, a.runCount, w.time⟩) with
      | .ok files => (.ok .passed, { w with files, output })
      | .error e => (.error (.failed (ResultFile.unwritable o.output e)), { w with output }) := by
  obtain ⟨output, remarked⟩ := run_remark o.remarks (Remark.ofAggregation a) w
  unfold writeMinimum
  simp only [run_bind, remarked, run_printLines, run_now, run_write]
  cases w.files.write o.output (render a.store ⟨o.title, a.runCount, w.time⟩) with
  | error e => exact ⟨_, rfl⟩
  | ok files => exact ⟨_, rfl⟩

/-- The command fails if there is nothing to write. -/
lemma run_selectMin_of_error {w : World} {e : Failure}
    (h : (Aggregation.ofSources maxLines (o.files.map (.ofPath w.files))).value = .error e) :
    ∃ output warnings, (selectMin Host.ofWorld maxLines o).run w =
      (.error (.failed e), { w with output, warnings }) := by
  unfold selectMin reduceFiles
  simp only [run_bind, run_sources, run_absorb, h]
  obtain ⟨output, remarked⟩ := run_remarkFailure o.remarks (.error (.failed e)) { w with
    warnings := w.warnings ++
      (Aggregation.ofSources maxLines (o.files.map (.ofPath w.files))).warnings }
  exact ⟨output, _, remarked⟩

/-- Otherwise it writes the reduction, and it fails if that fails. -/
lemma run_selectMin_of_ok {w : World} {a : Aggregation}
    (h : (Aggregation.ofSources maxLines (o.files.map (.ofPath w.files))).value = .ok a) :
    ∃ output warnings, (selectMin Host.ofWorld maxLines o).run w =
      match w.files.write o.output (render a.store ⟨o.title, a.runCount, w.time⟩) with
      | .ok files => (.ok .passed, { w with files, output, warnings })
      | .error e =>
        (.error (.failed (ResultFile.unwritable o.output e)), { w with output, warnings }) := by
  unfold selectMin reduceFiles
  simp only [run_bind, run_sources, run_absorb, h]
  obtain ⟨output, written⟩ := run_writeMinimum o a { w with
    warnings := w.warnings ++
      (Aggregation.ofSources maxLines (o.files.map (.ofPath w.files))).warnings }
  rw [written]
  cases w.files.write o.output (render a.store ⟨o.title, a.runCount, w.time⟩) with
  | error e =>
    obtain ⟨output', remarked⟩ := run_remarkFailure o.remarks _ _
    exact ⟨output', _, remarked⟩
  | ok files => exact ⟨_, _, rfl⟩

/-- The command ends in one of these ways. -/
theorem attains_selectMin (files : FileSystem) (maxLines : Nat) (o : SelectMinOptions) :
    Attains files (selectMin Host.ofWorld maxLines o) (Selects files maxLines o) := by
  rintro w rfl
  cases h : (Aggregation.ofSources maxLines (o.files.map (.ofPath w.files))).value with
  | error e =>
    obtain ⟨output, warnings, run⟩ := run_selectMin_of_error h
    rw [run]
    exact .noInput h
  | ok a =>
    obtain ⟨output, warnings, run⟩ := run_selectMin_of_ok h
    rw [run]
    cases written : w.files.write o.output (render a.store ⟨o.title, a.runCount, w.time⟩) with
    | error e => exact .unwritable h written
    | ok files' => exact .written h written

/-! ## Reading the output -/

/-- Of the names of the minimum as many are read as the cap has room for behind the header. -/
lemma Selects.reads {outcome : Outcome} {files' : FileSystem}
    (selects : Selects files maxLines o (.ok outcome) files') (title : '\n' ∉ o.title.toList) :
    ∃ a r, (Aggregation.ofSources maxLines (o.files.map (.ofPath files))).value = .ok a ∧
      (Reading.ofSource maxLines (.ofPath files' o.output)).value = .ok r ∧
      r.store.names = a.store.names.take (maxLines - headerLength) ∧
      (r.isTruncated ↔ maxLines < headerLength + a.store.size) := by
  cases selects with
  | @written a time _ h written =>
    have writable := Aggregation.writable_of_ofSources h
    generalize made : (⟨o.title, a.runCount, time⟩ : ResultFile.Header) = header at written
    have named : '\n' ∉ header.title.toList := made ▸ title
    exact ⟨a, _, h, Reading.ofSource_of_text (FileSystem.openRead_write written),
      ResultFile.names_ofText_render writable named maxLines,
      ResultFile.isTruncated_ofText_render writable named maxLines⟩

/-- Under the cap that was in force, the output is read with exactly the names of the minimum if the
cap has room for the seven lines of the header and a line for each name. Under a lower cap the
output is cut short, and the first names are read, as many as there is room for. -/
theorem selectMin_output {w w' : World} {cap : Nat} {o : SelectMinOptions} {outcome : Outcome}
    (title : '\n' ∉ o.title.toList)
    (done : (selectMin Host.ofWorld cap o).run w = (.ok outcome, w')) :
    ∃ a r, (Aggregation.ofSources cap (o.files.map (.ofPath w.files))).value = .ok a ∧
      (Reading.ofSource cap (.ofPath w'.files o.output)).value = .ok r ∧
      (7 + a.store.size ≤ cap → r.store.names = a.store.names ∧ r.isTruncated = false) ∧
      (cap < 7 + a.store.size →
        r.store.names = a.store.names.take (cap - 7) ∧ r.isTruncated = true) := by
  have selects := attains_selectMin w.files cap o w rfl
  rw [done] at selects
  obtain ⟨a, r, reduced, read, names, truncated⟩ := selects.reads title
  refine ⟨a, r, reduced, read, fun room => ⟨?_, ?_⟩, fun short => ⟨names, truncated.2 short⟩⟩
  · rw [names, List.take_of_length_le]
    rw [Store.length_names]
    exact Nat.le_sub_of_add_le' room
  · exact Bool.eq_false_iff.2 (mt truncated.1 (Nat.not_lt.2 room))

/-! ### A run with two names -/

/-- A result file with two measurements. -/
def sampleRun : String := "x: 1\ny: 2\n"

/-- What is measured in it. -/
def sampleMeasurements : List (String × Float) :=
  [("x", Float.ofBits 0x3FF0000000000000), ("y", Float.ofBits 0x4000000000000000)]

/-- A world with this file alone. -/
def sampleWorld : World where
  files := FileSystem.empty.insert "a" (.file sampleRun.toUTF8)
  time := ⟨2024, 2, 29, 12, 0, 0⟩
  output := ""
  warnings := []

/-- The file is to be reduced, and the result written to another one. -/
def sampleOptions : SelectMinOptions := ⟨["a"], "b", "nightly", false⟩

lemma splitOn_sample : "a".splitOn "/" = ["a"] ∧ "b".splitOn "/" = ["b"] := by
  constructor
  all_goals
    rw [String.splitOn, if_neg (by decide), String.splitOnAux, if_neg (by decide),
      if_neg (by decide), String.splitOnAux, if_pos (by decide)]
    decide

lemma openRead_sample : sampleWorld.files.openRead "a" = .ok (.bytes sampleRun.toUTF8) := by
  have put : sampleWorld.files.get? "a" = some (.file sampleRun.toUTF8) := by
    rw [sampleWorld, FileSystem.get?_insert, if_pos rfl]
  have resolved : sampleWorld.files.resolve "a" = .ok (.file "a" sampleRun.toUTF8) := by
    rw [FileSystem.resolve_of_step (by decide) rfl splitOn_sample.1 (by decide) (by decide), put]
  exact FileSystem.openRead_of_resolve resolved

lemma write_sample (text : String) :
    sampleWorld.files.write "b" text = .ok (sampleWorld.files.insert "b" (.file text.toUTF8)) := by
  have free : sampleWorld.files.get? "b" = none := by
    rw [sampleWorld, FileSystem.get?_insert, if_neg (by decide)]
    rfl
  have resolved : sampleWorld.files.resolve "b" = .ok (.vacant "b") := by
    rw [FileSystem.resolve_of_step (by decide) rfl splitOn_sample.2 (by decide) (by decide), free]
  rw [FileSystem.write, resolved]
  rfl

/-- The lines of the file. -/
def sampleLines : List (List Char) := ["x: 1".toList, "y: 2".toList]

lemma measures_sample :
    List.Forall₂ (fun line m => ResultFile.Measures line m.1 m.2) sampleLines
      sampleMeasurements := by
  refine .cons ?_ (.cons ?_ .nil)
  · exact ⟨['x'], [' ', '1'], by decide, by decide, by decide, by decide, by decide,
      by decide +kernel, by decide⟩
  · exact ⟨['y'], [' ', '2'], by decide, by decide, by decide, by decide, by decide,
      by decide +kernel, by decide⟩

lemma ofText_sample (cap : Nat) (room : 2 ≤ cap) :
    (Reading.ofText cap sampleRun).store = .ofList sampleMeasurements := by
  have lines : Text.lines sampleRun = sampleLines := by rfl
  have all : sampleLines.take cap = sampleLines := List.take_of_length_le room
  have uncut : ¬ cap < sampleLines.length := Nat.not_lt.2 room
  have added := Reading.addFrom_measurements measures_sample (by decide) (r := .start)
    (fun m _ => Store.get?_empty m.1) 1
  rw [Reading.ofText, Reading.ofLines, lines, all, if_neg uncut]
  exact added.1

lemma toList_sample : (Store.ofList sampleMeasurements).toList = sampleMeasurements := by
  have ordered : sampleMeasurements.Pairwise Store.Before :=
    List.pairwise_pair.2 (show "x" < "y" by decide)
  exact Store.toList_ofList ordered

lemma names_sample : (Store.ofList sampleMeasurements).names = ["x", "y"] := by
  rw [← Store.map_fst_toList, toList_sample]
  rfl

lemma ofSources_sample (cap : Nat) (room : 2 ≤ cap) :
    ∃ a, (Aggregation.ofSources cap
        (sampleOptions.files.map (.ofPath sampleWorld.files))).value = .ok a ∧
      a.store = .ofList sampleMeasurements := by
  have text := ofText_sample cap room
  have some : (Reading.ofText cap sampleRun).store.isEmpty = false := by
    rw [text, ← Store.isEmpty_names, names_sample]
    rfl
  have run := Aggregation.runOfSource_of_text openRead_sample some
  rw [text] at run
  exact Aggregation.ofSources_singleton run

/-- The command succeeds. -/
lemma selectMin_sample (cap : Nat) (room : 2 ≤ cap) :
    ∃ w', (selectMin Host.ofWorld cap sampleOptions).run sampleWorld = (.ok .passed, w') := by
  obtain ⟨a, value, -⟩ := ofSources_sample cap room
  have selects := attains_selectMin sampleWorld.files cap sampleOptions sampleWorld rfl
  generalize (selectMin Host.ofWorld cap sampleOptions).run sampleWorld = result at selects
  obtain ⟨ending, w'⟩ := result
  simp only at selects
  generalize is : w'.files = files' at selects
  cases selects with
  | noInput h =>
    rw [value] at h
    cases h
  | unwritable _ failed =>
    cases (write_sample _).symm.trans failed
  | written => exact ⟨w', rfl⟩

theorem selectMin_output_sample :
    '\n' ∉ sampleOptions.title.toList ∧
      ∃ w', (selectMin Host.ofWorld 9 sampleOptions).run sampleWorld = (.ok .passed, w') ∧
        ∃ r, (Reading.ofSource 9 (.ofPath w'.files "b")).value = .ok r ∧
          r.store.names = ["x", "y"] ∧ r.isTruncated = false := by
  have title : '\n' ∉ sampleOptions.title.toList := by decide
  obtain ⟨w', done⟩ := selectMin_sample 9 (by decide)
  obtain ⟨a, value, store⟩ := ofSources_sample 9 (by decide)
  obtain ⟨a', r, reduced, read, whole, -⟩ := selectMin_output title done
  cases value.symm.trans reduced
  have room : 7 + a.store.size ≤ 9 := by
    rw [store, ← Store.length_names, names_sample]
    decide
  obtain ⟨names, uncut⟩ := whole room
  refine ⟨title, w', done, r, read, ?_, uncut⟩
  rw [names, store, names_sample]

/-- Under a cap of eight lines, which is enough for the input, the second name gets lost. -/
theorem selectMin_output_cut_short :
    '\n' ∉ sampleOptions.title.toList ∧
      ∃ w', (selectMin Host.ofWorld 8 sampleOptions).run sampleWorld = (.ok .passed, w') ∧
        ∃ a r, (Aggregation.ofSources 8
            (sampleOptions.files.map (.ofPath sampleWorld.files))).value = .ok a ∧
          (Reading.ofSource 8 (.ofPath w'.files sampleOptions.output)).value = .ok r ∧
          a.store.names = ["x", "y"] ∧ r.store.names = ["x"] ∧ r.isTruncated = true := by
  have title : '\n' ∉ sampleOptions.title.toList := by decide
  obtain ⟨w', done⟩ := selectMin_sample 8 (by decide)
  obtain ⟨a, value, store⟩ := ofSources_sample 8 (by decide)
  have selects := attains_selectMin sampleWorld.files 8 sampleOptions sampleWorld rfl
  rw [done] at selects
  obtain ⟨a', r, reduced, read, names, truncated⟩ := selects.reads title
  cases value.symm.trans reduced
  have all : a.store.names = ["x", "y"] := by
    rw [store, names_sample]
  refine ⟨title, w', done, a, r, value, read, all, ?_, truncated.2 ?_⟩
  · rw [names, all]
    rfl
  · rw [← Store.length_names, all]
    decide

end PerfGate.Command
