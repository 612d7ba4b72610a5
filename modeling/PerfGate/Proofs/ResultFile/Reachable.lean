import PerfGate.Proofs.FileSystem
import PerfGate.Proofs.Measurement.Minimum
import PerfGate.Proofs.ResultFile.Rendered

/-!
# Stores that come from result files

Whatever the bytes of a result file are, what is read from it can be written to a result file again
(`writable_of_ofSource`), and so can the minimum of several files (`writable_of_ofSources`).
-/

namespace PerfGate

namespace ResultFile

open Text (trimChars)

variable {line : List Char} {lines : List (List Char)} {name : String} {value : Float}
  {maxLines : Nat}

/-- A name that is read from a line can be written to a line. -/
lemma isName_of_measures (h : Measures line name value) (plain : '\n' ∉ line) : IsName name := by
  obtain ⟨before, after, whole, noColon, noMark, rfl, nonempty, -, -⟩ := h
  have part : (trimChars before).Sublist before := Text.trimChars_sublist before
  have inLine : before.Sublist line := by
    have front : before.Sublist (trimChars line) := whole ▸ List.sublist_append_left before _
    exact front.trans (Text.trimChars_sublist line)
  refine ⟨nonempty, Text.trim_trimChars before, ?_, ?_, ?_⟩
  · rw [String.toList_ofList]
    exact fun mem => noColon (part.mem mem)
  · rw [String.toList_ofList]
    exact fun mem => plain (inLine.mem (part.mem mem))
  · rw [String.toList_ofList]
    cases before with
    | nil => nofun
    | cons c rest =>
      have visible := Text.head?_trimChars line c (by rw [whole]; rfl)
      rw [Text.head?_trimChars_of_not_blank rfl visible]
      exact noMark

/-! ## Reading -/

/-- The measurements of a store that was read can be written. -/
lemma writable_addFrom_start (plain : ∀ line ∈ lines, '\n' ∉ line) (number : Nat) :
    Writable (Reading.start.addFrom number lines).store := by
  intro m mem
  obtain ⟨before, line, after, rfl, measured, -⟩ :=
    Reading.get?_addFrom_start.1 (Store.mem_toList.1 mem)
  exact ⟨isName_of_measures measured (plain line (by simp)), measured.isFinite⟩

namespace Reading

/-- The lines of a text can all be read. -/
lemma ofLines?_map_ok (maxLines : Nat) (lines : List (List Char)) :
    ofLines? maxLines (lines.map .ok) = .ok (ofLines maxLines lines) := by
  rw [ofLines?, ← List.map_take, mapM_id_map_ok, List.length_map]
  rfl

lemma ofLines?_inv {xs : List (Except PathError (List Char))} {r : Reading}
    (h : ofLines? maxLines xs = .ok r) :
    ∃ lines, xs.take maxLines = lines.map .ok ∧ r.store = (start.addFrom 1 lines).store := by
  unfold ofLines? at h
  cases readable : (xs.take maxLines).mapM id with
  | error e =>
    rw [readable] at h
    cases h
  | ok lines =>
    rw [readable] at h
    cases h
    refine ⟨lines, mapM_id_eq_ok.1 readable, ?_⟩
    split <;> rfl

lemma value_ofSource (maxLines : Nat) (source : Source) :
    (ofSource maxLines source).value =
      (source.opened >>= fun opened => ofLines? maxLines opened.lines).mapError
        fun e => .unreadable source.path e.message := by
  rw [ofSource]
  cases source.opened >>= fun opened => ofLines? maxLines opened.lines <;> rfl

lemma ofSource_eq_ok {source : Source} {r : Reading} :
    (ofSource maxLines source).value = .ok r ↔
      ∃ opened, source.opened = .ok opened ∧ ofLines? maxLines opened.lines = .ok r := by
  rw [value_ofSource]
  cases opening : source.opened with
  | error e => exact iff_of_false nofun nofun
  | ok opened =>
    change (ofLines? maxLines opened.lines).mapError _ = .ok r ↔ _
    constructor
    · intro h
      cases reading : ofLines? maxLines opened.lines with
      | error e =>
        rw [reading] at h
        cases h
      | ok r' =>
        rw [reading] at h
        cases h
        exact ⟨opened, rfl, reading⟩
    · rintro ⟨_, ⟨⟩, reading⟩
      rw [reading]
      rfl

/-- A file that must hold a measurement is read as any other. -/
lemma ofSource_of_ofNonEmptySource {source : Source} {r : Reading}
    (h : (ofNonEmptySource maxLines source).value = .ok r) :
    (ofSource maxLines source).value = .ok r := by
  rw [ofNonEmptySource, Logged.value_bind] at h
  cases read : (ofSource maxLines source).value with
  | error e =>
    rw [read] at h
    cases h
  | ok r' =>
    rw [read] at h
    simp only at h
    split at h
    · cases h
    · exact h

/-- A file that holds a text is read as the text is. -/
lemma ofSource_of_text {files : FileSystem} {path text : String}
    (opened : files.openRead path = .ok (.bytes text.toUTF8)) :
    (ofSource maxLines (.ofPath files path)).value = .ok (ofText maxLines text) := by
  refine ofSource_eq_ok.2 ⟨_, opened, ?_⟩
  rw [FileSystem.lines_toUTF8, ofLines?_map_ok]
  rfl

lemma ofNonEmptySource_of_text {files : FileSystem} {path text : String}
    (opened : files.openRead path = .ok (.bytes text.toUTF8))
    (some : (ofText maxLines text).store.isEmpty = false) :
    (ofNonEmptySource maxLines (.ofPath files path)).value = .ok (ofText maxLines text) := by
  rw [ofNonEmptySource, Logged.value_bind, ofSource_of_text opened]
  simp only [some]
  rfl

/-- What is read from a file can be written to a file. -/
theorem writable_of_ofSource {source : Source} {r : Reading}
    (h : (ofSource maxLines source).value = .ok r) : Writable r.store := by
  obtain ⟨opened, -, reading⟩ := ofSource_eq_ok.1 h
  obtain ⟨lines, taken, store⟩ := ofLines?_inv reading
  rw [store]
  refine writable_addFrom_start (fun line mem => ?_) 1
  have among : .ok line ∈ opened.lines.take maxLines := taken ▸ List.mem_map_of_mem mem
  exact FileSystem.noFeed_of_ok_mem_lines (List.mem_of_mem_take among)

end Reading

/-! ## Texts for stores -/

/-- The line of a measurement whose value is written in full. -/
def fullLine (m : String × Float) : String :=
  m.1 ++ ": " ++ Decimal.plain m.2

lemma toList_fullLine (m : String × Float) :
    (fullLine m).toList = m.1.toList ++ ':' :: ' ' :: (Decimal.plain m.2).toList := by
  simp [fullLine]

/-- Every store that can be written is what is read of some text. -/
lemma exists_ofText_of_writable {s : Store} (writable : Writable s) :
    ∃ maxLines text, (Reading.ofText maxLines text).store = s := by
  have plain : ∀ text ∈ s.toList.map fullLine, '\n' ∉ text.toList := by
    rw [List.forall_mem_map]
    intro m mem
    rw [toList_fullLine]
    exact noFeed_valueLine (Decimal.not_isBlank_plain m.2) (writable m mem).1
  have lines : Text.lines (String.join ((s.toList.map fullLine).map (· ++ "\n"))) =
      s.toList.map fun m => (fullLine m).toList := by
    rw [Text.lines_join plain, List.map_map]
    apply List.map_congr_left
    intro m _
    rw [Function.comp_apply, toList_fullLine]
    exact dropReturn_valueLine (Decimal.plain_ne_nil m.2) (Decimal.not_isBlank_plain m.2) m.1
  have measured : List.Forall₂ (fun line m => Measures line m.1 m.2)
      (s.toList.map fun m => (fullLine m).toList) s.toList := by
    rw [List.forall₂_map_left_iff, List.forall₂_same]
    intro m mem
    rw [toList_fullLine]
    exact measures_valueLine (Decimal.plain_ne_nil m.2) (Decimal.not_isBlank_plain m.2)
      (writable m mem).1 (Decimal.readFloat_plain m.2) (writable m mem).2
  have distinct : (s.toList.map Prod.fst).Nodup := by
    rw [Store.map_fst_toList]
    exact Store.nodup_names s
  refine ⟨s.toList.length, String.join ((s.toList.map fullLine).map (· ++ "\n")), ?_⟩
  have all : (s.toList.map fun m => (fullLine m).toList).take s.toList.length =
      s.toList.map fun m => (fullLine m).toList := by
    apply List.take_of_length_le
    rw [List.length_map]
  have added := Reading.addFrom_measurements measured distinct (r := .start)
    (fun m _ => Store.get?_empty m.1) 1
  rw [Reading.ofText, Reading.ofLines, lines, all, List.length_map, if_neg (lt_irrefl _), added.1]
  apply Store.ext
  intro name
  apply Option.ext
  intro x
  exact (Store.get?_ofList distinct).trans Store.mem_toList

end ResultFile

/-! ## Aggregation -/

namespace Aggregation

open ResultFile (Source Writable)

variable {maxLines : Nat} {sources : List Source} {a : Aggregation}

/-- A run is what is read of its file, and it is not without a measurement. -/
lemma runOfSource_inv {source : Source} {run : Store}
    (h : (runOfSource maxLines source).value = .ok run) :
    ∃ r, (ResultFile.Reading.ofSource maxLines source).value = .ok r ∧ r.store = run ∧
      run.isEmpty = false := by
  rw [runOfSource, Logged.value_bind] at h
  cases reading : (ResultFile.Reading.ofSource maxLines source).value with
  | error e =>
    rw [reading] at h
    cases h
  | ok r =>
    rw [reading] at h
    simp only at h
    split at h
    · cases h
    · rename_i some
      cases h
      exact ⟨r, rfl, rfl, Bool.eq_false_iff.2 some⟩

lemma writable_of_runOfSource {source : Source} {run : Store}
    (h : (runOfSource maxLines source).value = .ok run) : Writable run := by
  obtain ⟨r, reading, rfl, -⟩ := runOfSource_inv h
  exact ResultFile.Reading.writable_of_ofSource reading

/-- A text with a measurement yields a run. -/
lemma runOfSource_of_text {files : FileSystem} {path text : String}
    (opened : files.openRead path = .ok (.bytes text.toUTF8))
    (some : (ResultFile.Reading.ofText maxLines text).store.isEmpty = false) :
    (runOfSource maxLines (.ofPath files path)).value =
      .ok (ResultFile.Reading.ofText maxLines text).store := by
  rw [runOfSource, Logged.value_bind, ResultFile.Reading.ofSource_of_text opened]
  simp only [some]
  rfl

/-- The runs that the files yield. -/
def runsOf (maxLines : Nat) (sources : List Source) : List Store :=
  (sources.map fun source => (runOfSource maxLines source).value).filterMap Except.toOption

lemma mem_runsOf {run : Store} (mem : run ∈ runsOf maxLines sources) :
    ∃ source ∈ sources, (runOfSource maxLines source).value = .ok run := by
  obtain ⟨result, listed, is⟩ := List.mem_filterMap.1 mem
  obtain ⟨source, among, rfl⟩ := List.mem_map.1 listed
  refine ⟨source, among, ?_⟩
  cases read : (runOfSource maxLines source).value with
  | error skipped =>
    rw [read] at is
    cases is
  | ok run' =>
    rw [read] at is
    cases is
    rfl

lemma value_ofRuns (runs : List Store) : (ofRuns runs).value = reduce runs := by
  rw [ofRuns, Logged.value_bind]
  simp only
  split <;> rfl

/-- The files that yield no run. -/
def skippedOf (maxLines : Nat) (sources : List Source) : List SkippedFile :=
  (sources.map fun source => (runOfSource maxLines source).value).filterMap fun r =>
    match r with
    | .ok _ => none
    | .error s => some s

lemma value_ofSources (maxLines : Nat) (sources : List Source) :
    (ofSources maxLines sources).value =
      if (runsOf maxLines sources).isEmpty then .error .noValidInput
      else .ok { reduce (runsOf maxLines sources) with skipped := skippedOf maxLines sources } := by
  rw [ofSources, Logged.value_bind, Logged.value_mapM, ← value_ofRuns, runsOf]
  simp only
  split <;> rfl

/-- A single file that yields a run is not reduced. -/
lemma ofSources_singleton {source : Source} {run : Store}
    (h : (runOfSource maxLines source).value = .ok run) :
    ∃ a, (ofSources maxLines [source]).value = .ok a ∧ a.store = run := by
  have runs : runsOf maxLines [source] = [run] := by
    rw [runsOf, List.map_singleton, h]
    rfl
  rw [value_ofSources, runs]
  exact ⟨_, rfl, Store.minimum_singleton run⟩

lemma store_of_ofSources (h : (ofSources maxLines sources).value = .ok a) :
    a.store = Store.minimum (runsOf maxLines sources) := by
  rw [value_ofSources] at h
  split at h
  · cases h
  · cases h
    rfl

/-- The minimum of several files can be written to a file. -/
theorem writable_of_ofSources (h : (ofSources maxLines sources).value = .ok a) :
    Writable a.store := by
  rw [store_of_ofSources h]
  intro m mem
  obtain ⟨run, among, found⟩ := Store.get?_minimum (Store.mem_toList.1 mem)
  obtain ⟨source, -, read⟩ := mem_runsOf among
  exact writable_of_runOfSource read m (Store.mem_toList.2 found)

/-- It is not without a measurement. -/
lemma isEmpty_of_ofSources (h : (ofSources maxLines sources).value = .ok a) :
    a.store.isEmpty = false := by
  rw [store_of_ofSources h, ← Store.isEmpty_names, List.isEmpty_eq_false_iff_exists_mem]
  rw [value_ofSources] at h
  split at h
  · cases h
  · rename_i some
    obtain ⟨run, among⟩ := List.isEmpty_eq_false_iff_exists_mem.1 (Bool.eq_false_iff.2 some)
    obtain ⟨source, -, read⟩ := mem_runsOf among
    obtain ⟨r, -, -, nonempty⟩ := runOfSource_inv read
    rw [← Store.isEmpty_names, List.isEmpty_eq_false_iff_exists_mem] at nonempty
    obtain ⟨name, mem⟩ := nonempty
    exact ⟨name, Store.mem_names_minimum.2 ⟨run, among, mem⟩⟩

end Aggregation

end PerfGate
