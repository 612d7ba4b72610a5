import PerfGate.Proofs.ResultFile.Diagnosed
import PerfGate.Proofs.ResultFile.Reachable

/-!
# Runs that are taken from files

A file is unusable, or it gives a run that holds exactly its last measurements (`RunAt`). The
reduction of several files fails if all of them are unusable. Otherwise it is the minimum of the
runs of the others, in their order, and the unusable ones are listed as skipped (`Reduces`). They do
not count for the minimum: it is the same for all files with the same usable ones among them
(`ofSources_of_same_usable`).
-/

namespace PerfGate

open ResultFile (Source FileMeasures Unusable Reading)

namespace ResultFile

variable {files : FileSystem} {maxLines : Nat} {path : String}

/-- A file is unusable if and only if nothing is measured in it up to the cap. -/
theorem unusable_iff :
    Unusable files maxLines path ↔ ∀ name value, ¬ FileMeasures files maxLines path name value := by
  constructor
  · rintro fault name value ⟨lines, read, last⟩
    obtain ⟨bytes, opened, decoded⟩ := read
    cases fault with
    | unopened failed => cases failed.symm.trans opened
    | unreadable directory => cases directory.symm.trans opened
    | notText opened' mem invalid =>
      cases opened'.symm.trans opened
      have among := List.mem_map_of_mem (f := fun line : List UInt8 =>
        String.fromUTF8? ⟨line.toArray⟩) mem
      rw [decoded, invalid] at among
      obtain ⟨line, -, text⟩ := List.mem_map.1 among
      cases text
    | noMeasurement read silent =>
      cases read.unique ⟨bytes, opened, decoded⟩
      obtain ⟨line, mem, value', measured⟩ := exists_lastMeasured_iff.1 ⟨value, last⟩
      exact silent line mem name value' measured
  · intro silent
    cases opened : files.openRead path with
    | error e => exact .unopened opened
    | ok kind =>
      cases kind with
      | directory => exact .unreadable opened
      | bytes bytes =>
        rcases readsAs_or_notText opened with ⟨lines, read⟩ | ⟨line, mem, invalid⟩
        · refine .noMeasurement read fun line mem name value measured => ?_
          obtain ⟨last, is⟩ := exists_lastMeasured_iff.2 ⟨line, mem, value, measured⟩
          exact silent name last ⟨lines, read, is⟩
        · exact .notText opened mem invalid

/-- The run holds what is measured in the file at a path. -/
def RunAt (files : FileSystem) (maxLines : Nat) (path : String) (run : Store) : Prop :=
  ∀ name value, run.get? name = some value ↔ FileMeasures files maxLines path name value

lemma RunAt.unique {run run' : Store} (h : RunAt files maxLines path run)
    (h' : RunAt files maxLines path run') : run = run' :=
  Store.ext fun name => Option.ext fun value => (h name value).trans (h' name value).symm

end ResultFile

namespace Aggregation

open ResultFile (RunAt)

variable {files : FileSystem} {maxLines : Nat} {path : String} {paths others : List String}
  {source : Source} {run : Store} {a : Aggregation}

/-! ## Single files -/

/-- The run of a file is what is read from it, if that is not empty. -/
lemma runOfSource_eq_ok : (runOfSource maxLines source).value = .ok run ↔
    ∃ r, (Reading.ofNonEmptySource maxLines source).value = .ok r ∧ r.store = run := by
  rw [runOfSource, Reading.ofNonEmptySource, Logged.value_bind, Logged.value_bind]
  cases (Reading.ofSource maxLines source).value with
  | error e =>
    constructor
    · rintro ⟨⟩
    · rintro ⟨_, ⟨⟩, -⟩
  | ok r =>
    simp only
    by_cases empty : r.store.isEmpty
    · simp only [empty, if_true]
      constructor
      · rintro ⟨⟩
      · rintro ⟨_, ⟨⟩, -⟩
    · simp only [empty]
      constructor
      · rintro ⟨⟩
        exact ⟨r, rfl, rfl⟩
      · rintro ⟨_, ⟨⟩, rfl⟩
        rfl

/-- A file is skipped under its own path. -/
lemma path_of_runOfSource {s : SkippedFile} (h : (runOfSource maxLines source).value = .error s) :
    s.path = source.path := by
  rw [runOfSource, Logged.value_bind] at h
  cases read : (Reading.ofSource maxLines source).value with
  | error e =>
    rw [read] at h
    cases h
    rfl
  | ok r =>
    rw [read] at h
    simp only at h
    split at h
    · cases h
      rfl
    · cases h

lemma runOfSource_of_unusable (h : Unusable files maxLines path) :
    ∃ s, (runOfSource maxLines (.ofPath files path)).value = .error s ∧ s.path = path := by
  cases result : (runOfSource maxLines (.ofPath files path)).value with
  | error s => exact ⟨s, rfl, path_of_runOfSource result⟩
  | ok run =>
    obtain ⟨r, read, -⟩ := runOfSource_eq_ok.1 result
    obtain ⟨f, failed, -⟩ := Reading.ofNonEmptySource_of_unusable h
    cases failed.symm.trans read

lemma runOfSource_of_usable (h : ¬ Unusable files maxLines path) :
    ∃ run, (runOfSource maxLines (.ofPath files path)).value = .ok run ∧
      RunAt files maxLines path run := by
  obtain ⟨r, read, values⟩ := Reading.ofNonEmptySource_of_usable h
  exact ⟨r.store, runOfSource_eq_ok.2 ⟨r, read, rfl⟩, values⟩

/-- Whether a file is usable is seen by reading it. -/
instance : DecidablePred (Unusable files maxLines) := fun path =>
  decidable_of_iff ((runOfSource maxLines (.ofPath files path)).value matches .error _) <| by
    by_cases h : Unusable files maxLines path
    · obtain ⟨s, skipped, -⟩ := runOfSource_of_unusable h
      rw [skipped]
      exact iff_of_true rfl h
    · obtain ⟨run, given, -⟩ := runOfSource_of_usable h
      rw [given]
      exact iff_of_false nofun h

/-! ## Several files -/

/-- The usable files of a list. -/
def usable (files : FileSystem) (maxLines : Nat) (paths : List String) : List String :=
  paths.filter fun path => ¬ Unusable files maxLines path

/-- The usable files give their runs, in order. -/
lemma runsOf_ofPath (files : FileSystem) (maxLines : Nat) (paths : List String) :
    List.Forall₂ (RunAt files maxLines) (usable files maxLines paths)
      (runsOf maxLines (paths.map (.ofPath files))) := by
  induction paths with
  | nil => exact .nil
  | cons path paths ih =>
    by_cases h : Unusable files maxLines path
    · obtain ⟨s, skipped, -⟩ := runOfSource_of_unusable h
      rw [runsOf] at ih ⊢
      rw [usable, List.filter_cons_of_neg (by simpa using h), List.map_cons, List.map_cons, skipped]
      exact ih
    · obtain ⟨run, given, values⟩ := runOfSource_of_usable h
      rw [runsOf] at ih ⊢
      rw [usable, List.filter_cons_of_pos (by simpa using h), List.map_cons, List.map_cons, given]
      exact .cons values ih

/-- The other files are skipped, in order. -/
lemma skippedOf_ofPath (files : FileSystem) (maxLines : Nat) (paths : List String) :
    (skippedOf maxLines (paths.map (.ofPath files))).map SkippedFile.path =
      paths.filter (Unusable files maxLines) := by
  induction paths with
  | nil => rfl
  | cons path paths ih =>
    by_cases h : Unusable files maxLines path
    · obtain ⟨s, skipped, is⟩ := runOfSource_of_unusable h
      rw [skippedOf] at ih ⊢
      rw [List.filter_cons_of_pos (by simpa using h), List.map_cons, List.map_cons, skipped, ← ih]
      exact congrArg (· :: _) is
    · obtain ⟨run, given, -⟩ := runOfSource_of_usable h
      rw [skippedOf] at ih ⊢
      rw [List.filter_cons_of_neg (by simpa using h), List.map_cons, List.map_cons, given, ← ih]
      rfl

/-- The runs depend on the usable files only. -/
lemma runsOf_congr (same : usable files maxLines others = usable files maxLines paths) :
    runsOf maxLines (others.map (.ofPath files)) = runsOf maxLines (paths.map (.ofPath files)) := by
  have runs := runsOf_ofPath files maxLines others
  rw [same] at runs
  have unique : Relator.RightUnique (RunAt files maxLines) := fun _ _ _ => RunAt.unique
  exact unique.forall₂ runs (runsOf_ofPath files maxLines paths)

/-- How files have to be reduced. -/
structure Reduces (files : FileSystem) (maxLines : Nat) (paths : List String) (a : Aggregation) :
    Prop where
  /-- The store is the minimum of the runs of the usable files. -/
  store : ∃ runs, List.Forall₂ (RunAt files maxLines) (usable files maxLines paths) runs ∧
    a.store = Store.minimum runs
  runCount : a.runCount = (usable files maxLines paths).length
  skipped : a.skipped.map SkippedFile.path = paths.filter (Unusable files maxLines)
  total : a.runCount + a.skipped.length = paths.length

/-- The reduction of files none of which is usable fails. -/
theorem ofSources_of_unusable (h : ∀ path ∈ paths, Unusable files maxLines path) :
    (ofSources maxLines (paths.map (.ofPath files))).value = .error .noValidInput := by
  have none : usable files maxLines paths = [] := by
    rw [usable, List.filter_eq_nil_iff]
    intro path mem
    simpa using h path mem
  have runs := runsOf_ofPath files maxLines paths
  rw [none, List.forall₂_nil_left_iff] at runs
  rw [value_ofSources, runs]
  rfl

/-- The reduction of any other files is as it has to be. -/
theorem ofSources_of_usable (mem : path ∈ paths) (h : ¬ Unusable files maxLines path) :
    ∃ a, (ofSources maxLines (paths.map (.ofPath files))).value = .ok a ∧
      Reduces files maxLines paths a := by
  have runs := runsOf_ofPath files maxLines paths
  have skipped := skippedOf_ofPath files maxLines paths
  have listed : path ∈ usable files maxLines paths := List.mem_filter.2 ⟨mem, by simpa using h⟩
  have some : ¬ (runsOf maxLines (paths.map (.ofPath files))).isEmpty := by
    rw [List.isEmpty_iff]
    intro none
    rw [none, List.forall₂_nil_right_iff] at runs
    rw [runs] at listed
    cases listed
  rw [value_ofSources, if_neg some]
  refine ⟨_, rfl, ⟨_, runs, rfl⟩, runs.length_eq.symm, skipped, ?_⟩
  change (runsOf maxLines _).length + (skippedOf maxLines _).length = _
  rw [← runs.length_eq, ← List.length_map SkippedFile.path, skipped, Nat.add_comm,
    List.length_eq_length_filter_add (l := paths) (Unusable files maxLines ·)]
  simp only [usable, decide_not]

/-- Files that are not usable have no share in the store and in the number of runs. -/
theorem ofSources_of_same_usable (same : usable files maxLines others = usable files maxLines paths)
    (h : (ofSources maxLines (paths.map (.ofPath files))).value = .ok a) :
    ∃ a', (ofSources maxLines (others.map (.ofPath files))).value = .ok a' ∧
      a'.store = a.store ∧ a'.runCount = a.runCount := by
  rw [value_ofSources] at h ⊢
  rw [runsOf_congr same]
  split at h
  · cases h
  · rename_i some
    cases h
    rw [if_neg some]
    exact ⟨_, rfl, rfl, rfl⟩

end Aggregation

end PerfGate
