import PerfGate.Command.Compare
import PerfGate.Proofs.Command.Host

/-!
# What a comparison prints

`Prints` says of a computation which value it gives and which lines it prints, in every world with
some files, and that it leaves the files. The command `compare` has four courses (`Course`): its
options are refused, one of its files cannot be used, or the files are compared. On each of them it
prints what `Course.prints` says.
-/

namespace PerfGate.Command

open ResultFile (Reading)

/-- In every world with these files the computation gives the value and prints the lines, and it
leaves the files. -/
def Prints {α : Type} (files : FileSystem) (x : StateM World α) (a : α) (lines : List String) :
    Prop :=
  ∀ w, w.files = files → (x.run w).1 = a ∧ (x.run w).2.files = files ∧
    (x.run w).2.output = w.output ++ String.join (lines.map (· ++ "\n"))

/-- The lines of remarks, if remarks are asked for. -/
def remarkLines (enabled : Bool) (remarks : List Remark) : List String :=
  if enabled then remarks.map Remark.line else []

/-- The lines that repeat a failure. -/
def failureLines (enabled : Bool) : Ending → List String
  | .ok _ => []
  | .error e => remarkLines enabled [.ofFailure e.message]

/-- The lines of the report. -/
def reportLines (o : CompareOptions) (c : Comparison) : List String :=
  match o.format with
  | .console =>
    Report.comparisonLines c ++
      (remarkLines o.remarks (Remark.ofComparison c) ++ ["", Report.verdict c])
  | .json => [c.toJson.render]

section

variable {α β : Type} {files : FileSystem}

lemma Prints.pure (a : α) : Prints files (pure a) a [] :=
  fun w h => ⟨rfl, h, (String.append_empty (s := w.output)).symm⟩

lemma Prints.bind {x : StateM World α} {f : α → StateM World β} {a : α} {b : β}
    {lines lines' : List String} (first : Prints files x a lines)
    (next : Prints files (f a) b lines') : Prints files (x >>= f) b (lines ++ lines') := by
  intro w h
  obtain ⟨value, kept, output⟩ := first w h
  obtain ⟨value', kept', output'⟩ := next (x.run w).2 kept
  rw [run_bind, value]
  refine ⟨value', kept', ?_⟩
  rw [output', output, List.map_append, String.join_append, String.append_assoc]

/-- What is done first prints nothing. -/
lemma Prints.skip {x : StateM World α} {f : α → StateM World β} {a : α} {b : β}
    {lines : List String} (first : Prints files x a []) (next : Prints files (f a) b lines) :
    Prints files (x >>= f) b lines :=
  first.bind next

/-- What is done last prints nothing. -/
lemma Prints.close {x : StateM World α} {f : α → StateM World β} {a : α} {b : β}
    {lines : List String} (first : Prints files x a lines) (next : Prints files (f a) b []) :
    Prints files (x >>= f) b lines := by
  rw [← List.append_nil lines]
  exact first.bind next

lemma prints_printLines (lines : List String) :
    Prints files (Host.ofWorld.printLines lines) () lines :=
  fun _ h => ⟨rfl, h, rfl⟩

lemma prints_remark (enabled : Bool) (remarks : List Remark) :
    Prints files (Host.ofWorld.remark enabled remarks) () (remarkLines enabled remarks) := by
  cases enabled with
  | true => exact prints_printLines _
  | false => exact .pure ()

lemma prints_absorb (x : Logged α) : Prints files (Host.ofWorld.absorb x) x.value [] := by
  intro w h
  rw [run_absorb]
  exact ⟨rfl, h, (String.append_empty (s := w.output)).symm⟩

lemma prints_source (path : String) :
    Prints files (Host.ofWorld.source path) (.ofPath files path) [] := by
  rintro w rfl
  exact ⟨rfl, rfl, (String.append_empty (s := w.output)).symm⟩

lemma prints_remarkFailure (enabled : Bool) (ending : Ending) :
    Prints files (remarkFailure Host.ofWorld enabled ending) ending
      (failureLines enabled ending) := by
  cases ending with
  | ok outcome => exact .pure _
  | error e => exact (prints_remark enabled [.ofFailure e.message]).close (.pure _)

lemma prints_printComparison (o : CompareOptions) (c : Comparison) :
    Prints files (printComparison Host.ofWorld o c) () (reportLines o c) := by
  unfold printComparison reportLines
  cases o.format with
  | console =>
    exact (prints_printLines (Report.comparisonLines c)).bind
      ((prints_remark _ _).bind (prints_printLines _))
  | json => exact prints_printLines _

end

/-! ## The courses of a comparison -/

variable {files : FileSystem} {maxLines : Nat} {o : CompareOptions} {ending : Ending}
  {lines : List String}

lemma prints_loadResults_ok {path : String} {remarks : Bool} {r : Reading}
    (h : (Reading.ofNonEmptySource maxLines (.ofPath files path)).value = .ok r) :
    Prints files (loadResults Host.ofWorld maxLines remarks path) (.ok r.store)
      (remarkLines remarks (Remark.ofDiagnostics path r.diagnostics.toList)) := by
  refine (prints_source path).skip ((prints_absorb _).skip ?_)
  rw [h]
  exact (prints_remark _ _).close (.pure _)

lemma prints_loadResults_error {path : String} {remarks : Bool} {f : Failure}
    (h : (Reading.ofNonEmptySource maxLines (.ofPath files path)).value = .error f) :
    Prints files (loadResults Host.ofWorld maxLines remarks path) (.error f) [] := by
  refine (prints_source path).skip ((prints_absorb _).skip ?_)
  rw [h]
  exact .pure _

/-- How the comparison of the files goes: what it ends with, and the lines that it prints. -/
inductive Course (files : FileSystem) (maxLines : Nat) (o : CompareOptions) :
    Ending → List String → Prop
  | refused {f : Failure} (refused : o.policy.value = .error f) :
      Course files maxLines o (.error (.failed f)) []
  | noBaseline {p : Policy} {f : Failure} (accepted : o.policy.value = .ok p)
      (failed : (Reading.ofNonEmptySource maxLines (.ofPath files o.baseline)).value = .error f) :
      Course files maxLines o (.error (.failed f)) []
  | noCurrent {p : Policy} {r : Reading} {f : Failure} (accepted : o.policy.value = .ok p)
      (baseline : (Reading.ofNonEmptySource maxLines (.ofPath files o.baseline)).value = .ok r)
      (failed : (Reading.ofNonEmptySource maxLines (.ofPath files o.current)).value = .error f) :
      Course files maxLines o (.error (.failed f))
        (remarkLines o.remarks (Remark.ofDiagnostics o.baseline r.diagnostics.toList))
  | compared {p : Policy} {r r' : Reading} (accepted : o.policy.value = .ok p)
      (baseline : (Reading.ofNonEmptySource maxLines (.ofPath files o.baseline)).value = .ok r)
      (current : (Reading.ofNonEmptySource maxLines (.ofPath files o.current)).value = .ok r') :
      Course files maxLines o
        (.ok (if (compareStores r.store r'.store p).hasRegressions then .regressed else .passed))
        (remarkLines o.remarks (Remark.ofDiagnostics o.baseline r.diagnostics.toList) ++
          (remarkLines o.remarks (Remark.ofDiagnostics o.current r'.diagnostics.toList) ++
            reportLines o (compareStores r.store r'.store p)))

/-- The comparison takes one of the courses. -/
lemma exists_course (files : FileSystem) (maxLines : Nat) (o : CompareOptions) :
    ∃ ending lines, Course files maxLines o ending lines := by
  cases accepted : o.policy.value with
  | error f => exact ⟨_, _, .refused accepted⟩
  | ok p =>
    cases baseline : (Reading.ofNonEmptySource maxLines (.ofPath files o.baseline)).value with
    | error f => exact ⟨_, _, .noBaseline accepted baseline⟩
    | ok r =>
      cases current : (Reading.ofNonEmptySource maxLines (.ofPath files o.current)).value with
      | error f => exact ⟨_, _, .noCurrent accepted baseline current⟩
      | ok r' => exact ⟨_, _, .compared accepted baseline current⟩

lemma Course.prints (h : Course files maxLines o ending lines) :
    Prints files (compareFiles Host.ofWorld maxLines o) ending lines := by
  cases h with
  | refused refused =>
    refine (prints_absorb _).skip ?_
    rw [refused]
    exact .pure _
  | noBaseline accepted failed =>
    refine (prints_absorb _).skip ?_
    rw [accepted]
    exact (prints_loadResults_error failed).skip (.pure _)
  | noCurrent accepted baseline failed =>
    refine (prints_absorb _).skip ?_
    rw [accepted]
    exact (prints_loadResults_ok baseline).close ((prints_loadResults_error failed).skip (.pure _))
  | compared accepted baseline current =>
    refine (prints_absorb _).skip ?_
    rw [accepted]
    refine (prints_loadResults_ok baseline).bind ((prints_loadResults_ok current).bind ?_)
    exact (prints_printComparison _ _).close (.pure _)

/-- The command ends as the comparison does, and repeats a failure at the end. -/
lemma Course.prints_compare (h : Course files maxLines o ending lines) :
    Prints files (compare Host.ofWorld maxLines o) ending
      (lines ++ failureLines o.remarks ending) :=
  h.prints.bind (prints_remarkFailure _ _)

end PerfGate.Command
