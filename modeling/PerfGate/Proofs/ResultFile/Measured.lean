import Mathlib.Tactic.Lemma
import PerfGate.ResultFile.Reading

/-!
# What a result file says

A name has the value of the last line that is a measurement of it (`LastMeasured`), among the lines
up to the cap. A file from which nothing can be learned is `Unusable`; every other file is read as a
store that holds exactly these values (`ofNonEmptySource_of_usable`).
-/

namespace PerfGate

lemma Store.isEmpty_iff {s : Store} : s.isEmpty ↔ s = .empty := by
  rw [isEmpty, Std.ExtTreeMap.isEmpty_iff]
  cases s
  exact (Store.mk.injEq _ _).to_iff.symm

namespace ResultFile

open FileSystem (Opened)

/-! ## Lines -/

/-- The line is a measurement: a name that is not blank, the first colon, and a finite number. A
line that begins with `#` is none. -/
def Measures (line : List Char) (name : String) (value : Float) : Prop :=
  ∃ before after, Text.trimChars line = before ++ ':' :: after ∧ ':' ∉ before ∧
    before.head? ≠ some '#' ∧ name = String.ofList (Text.trimChars before) ∧ name ≠ "" ∧
    Decimal.readFloat (String.ofList (Text.trimChars after)) = some value ∧
    Decimal.isFinite value

variable {line : List Char} {lines : List (List Char)} {name : String} {value : Float}

lemma Measures.isFinite (h : Measures line name value) : Decimal.isFinite value := by
  obtain ⟨-, -, -, -, -, -, -, -, finite⟩ := h
  exact finite

lemma ne_colon_of_not_mem {before : List Char} (plain : ':' ∉ before) :
    ∀ c ∈ before, (c != ':') = true := by
  intro c hc
  rw [bne_iff_ne]
  rintro rfl
  exact plain hc

/-- The first colon cuts a line in two. -/
lemma cut_at_colon {before : List Char} (plain : ':' ∉ before) (after : List Char) :
    (before ++ ':' :: after).takeWhile (· != ':') = before ∧
      (before ++ ':' :: after).dropWhile (· != ':') = ':' :: after := by
  have inside := ne_colon_of_not_mem plain
  rw [List.takeWhile_append_of_pos inside, List.dropWhile_append_of_pos inside]
  exact ⟨List.append_nil before, rfl⟩

lemma measures_iff :
    Measures line name value ↔ Line.ofTrimmed (Text.trimChars line) = .measurement name value := by
  constructor
  · rintro ⟨before, after, whole, plain, speaks, rfl, named, read, finite⟩
    obtain ⟨taken, dropped⟩ := cut_at_colon plain after
    have nonempty : (before ++ ':' :: after).isEmpty = false := by
      cases before <;> rfl
    have first : ((before ++ ':' :: after).head? == some '#') = false := by
      cases before with
      | nil => rfl
      | cons c cs => exact beq_false_of_ne speaks
    have notBlank : (Text.trimChars before).isEmpty = false := by
      rw [Bool.eq_false_iff]
      intro blank
      rw [List.isEmpty_iff.1 blank] at named
      exact named rfl
    rw [whole, Line.ofTrimmed, nonempty, first, dropped, taken]
    simp only [Bool.or_self, Bool.false_eq_true, if_false, notBlank, read, finite, if_true]
  · intro h
    have whole := (Text.trimChars line).takeWhile_append_dropWhile (p := (· != ':'))
    unfold Line.ofTrimmed at h
    split at h
    · cases h
    rename_i speaks
    split at h
    · cases h
    rename_i c after dropped
    have colon : c = ':' := by
      have stop := List.head?_dropWhile_not (· != ':') (Text.trimChars line)
      rw [dropped] at stop
      simpa using stop
    simp only at h
    split at h
    · cases h
    rename_i named
    split at h
    · rename_i x read
      split at h
      · rename_i finite
        cases h
        rw [dropped, colon] at whole
        refine ⟨_, after, whole.symm, ?_, ?_, rfl, ?_, read, finite⟩
        · intro inside
          have plain := List.all_eq_true.1 List.all_takeWhile _ inside
          exact absurd plain (by decide)
        · intro comment
          rw [← whole, List.head?_append, comment] at speaks
          simp at speaks
        · intro blank
          rw [← String.toList_inj, String.toList_ofList] at blank
          rw [blank] at named
          exact named rfl
      · cases h
    · cases h

/-- The value that the line gives to the name, if it gives one. -/
def measured? (name : String) (line : List Char) : Option Float :=
  match Line.ofTrimmed (Text.trimChars line) with
  | .measurement other value => if other = name then some value else none
  | _ => none

lemma measured?_eq_some : measured? name line = some value ↔ Measures line name value := by
  rw [measures_iff]
  unfold measured?
  split
  · rename_i other x is
    rw [is, Line.measurement.injEq, Option.ite_none_right_eq_some, Option.some_inj]
  · rename_i silent
    exact ⟨nofun, fun is => absurd is (silent name value)⟩

lemma measured?_eq_none : measured? name line = none ↔ ∀ value, ¬ Measures line name value := by
  simp only [← measured?_eq_some, Option.eq_none_iff_forall_ne_some, ne_eq]

/-! ## Several lines -/

/-- Of the lines that are measurements of the name, the last one has this value. -/
def LastMeasured (lines : List (List Char)) (name : String) (value : Float) : Prop :=
  ∃ before line after, lines = before ++ line :: after ∧ Measures line name value ∧
    ∀ later ∈ after, ∀ other, ¬ Measures later name other

lemma lastMeasured_iff :
    lines.reverse.findSome? (measured? name) = some value ↔ LastMeasured lines name value := by
  -- the lines are searched from the last one on
  rw [List.findSome?_eq_some_iff]
  constructor
  · rintro ⟨after, line, before, whole, given, silent⟩
    refine ⟨before.reverse, line, after.reverse, ?_, measured?_eq_some.1 given, ?_⟩
    · rw [← List.reverse_reverse lines, whole]
      simp
    · intro later mem
      exact measured?_eq_none.1 (silent later (List.mem_reverse.1 mem))
  · rintro ⟨before, line, after, rfl, given, silent⟩
    refine ⟨after.reverse, line, before.reverse, by simp, measured?_eq_some.2 given, ?_⟩
    intro later mem
    exact measured?_eq_none.2 (silent later (List.mem_reverse.1 mem))

namespace Reading

/-- What one line changes of the values. -/
lemma get?_add (r : Reading) (number : Nat) (line : List Char) (name : String) :
    (r.add number line).store.get? name = (measured? name line).or (r.store.get? name) := by
  unfold add measured?
  simp only
  cases Line.ofTrimmed (Text.trimChars line) with
  | measurement other value =>
    change (r.store.insert other value).get? name = _
    rw [Store.get?_insert]
    simp only
    split <;> rfl
  | _ => exact Option.none_or.symm

/-- What several lines change of the values: the last line that gives one to a name decides. -/
lemma get?_addFrom (r : Reading) (number : Nat) (lines : List (List Char)) (name : String) :
    (r.addFrom number lines).store.get? name =
      (lines.reverse.findSome? (measured? name)).or (r.store.get? name) := by
  induction lines generalizing r number with
  | nil => rfl
  | cons line lines ih =>
    rw [addFrom, ih, get?_add, List.reverse_cons, List.findSome?_append, Option.or_assoc]
    congr 1
    rw [List.findSome?_cons, List.findSome?_nil]
    cases measured? name line <;> rfl

lemma get?_addFrom_start {number : Nat} :
    (start.addFrom number lines).store.get? name = some value ↔ LastMeasured lines name value := by
  rw [get?_addFrom, ← lastMeasured_iff, start, Store.get?_empty, Option.or_none]

/-- There are no values if no line is a measurement. -/
lemma isEmpty_addFrom_start {number : Nat} : (start.addFrom number lines).store.isEmpty ↔
    ∀ line ∈ lines, ∀ name value, ¬ Measures line name value := by
  have found := get?_addFrom start number lines
  simp only [start, Store.get?_empty, Option.or_none] at found
  rw [Store.isEmpty_iff]
  constructor
  · intro empty line mem name value
    have silent := found name
    simp only [start] at empty
    rw [empty, Store.get?_empty, eq_comm, List.findSome?_eq_none_iff] at silent
    exact measured?_eq_none.1 (silent line (List.mem_reverse.2 mem)) value
  · intro silent
    refine Store.ext fun name => (found name).trans ?_
    rw [Store.get?_empty, List.findSome?_eq_none_iff]
    intro line mem
    exact measured?_eq_none.2 (silent line (List.mem_reverse.1 mem) name)

end Reading

/-! ## Files -/

/-- The file at a path can be read, and these are its lines up to the cap. -/
def ReadsAs (files : FileSystem) (maxLines : Nat) (path : String) (lines : List (List Char)) :
    Prop :=
  ∃ bytes, files.openRead path = .ok (.bytes bytes) ∧
    ((Text.byteLines bytes).take maxLines).map (fun line => String.fromUTF8? ⟨line.toArray⟩) =
      lines.map fun line => some (String.ofList line)

/-- Why nothing can be learned from the file at a path. -/
inductive Unusable (files : FileSystem) (maxLines : Nat) (path : String) : Prop
  | unopened {e : PathError} (h : files.openRead path = .error e)
  | unreadable (h : files.openRead path = .ok .directory)
  | notText {bytes : ByteArray} {line : List UInt8} (h : files.openRead path = .ok (.bytes bytes))
      (mem : line ∈ (Text.byteLines bytes).take maxLines)
      (invalid : String.fromUTF8? ⟨line.toArray⟩ = none)
  | noMeasurement {lines : List (List Char)} (h : ReadsAs files maxLines path lines)
      (silent : ∀ line ∈ lines, ∀ name value, ¬ Measures line name value)

/-- In the file at a path, the last measurement of the name up to the cap has this value. -/
def FileMeasures (files : FileSystem) (maxLines : Nat) (path name : String) (value : Float) :
    Prop :=
  ∃ lines, ReadsAs files maxLines path lines ∧ LastMeasured lines name value

variable {files : FileSystem} {maxLines : Nat} {path : String}

/-- A file is read in one way only. -/
lemma ReadsAs.unique {lines' : List (List Char)} (h : ReadsAs files maxLines path lines)
    (h' : ReadsAs files maxLines path lines') : lines = lines' := by
  obtain ⟨bytes, opened, read⟩ := h
  obtain ⟨bytes', opened', read'⟩ := h'
  rw [opened] at opened'
  cases opened'
  rw [read] at read'
  refine (List.map_inj_right fun cs ds same => ?_).1 read'
  exact String.ofList_injective (Option.some_inj.1 same)

/-- The lines up to the cap are all text, or one of them is not. -/
lemma readsAs_or_notText {bytes : ByteArray} (opened : files.openRead path = .ok (.bytes bytes)) :
    (∃ lines, ReadsAs files maxLines path lines) ∨
      ∃ line ∈ (Text.byteLines bytes).take maxLines, String.fromUTF8? ⟨line.toArray⟩ = none := by
  by_cases invalid : ∃ line ∈ (Text.byteLines bytes).take maxLines,
      String.fromUTF8? ⟨line.toArray⟩ = none
  · exact .inr invalid
  · left
    refine ⟨((Text.byteLines bytes).take maxLines).map fun line =>
      ((String.fromUTF8? ⟨line.toArray⟩).getD "").toList, bytes, opened, ?_⟩
    rw [List.map_map]
    refine List.map_congr_left fun line mem => ?_
    cases text : String.fromUTF8? ⟨line.toArray⟩ with
    | none => exact absurd ⟨line, mem, text⟩ invalid
    | some t => simp [text]

/-! ## Reading -/

lemma mapM_id_map_ok {ε α : Type} (as : List α) :
    (as.map (Except.ok (ε := ε))).mapM id = .ok as := by
  induction as with
  | nil => rfl
  | cons a as ih =>
    rw [List.map_cons, List.mapM_cons, ih]
    rfl

lemma mapM_id_eq_ok {ε α : Type} {xs : List (Except ε α)} {as : List α} :
    xs.mapM id = .ok as ↔ xs = as.map .ok := by
  constructor
  · intro h
    induction xs generalizing as with
    | nil =>
      cases h
      rfl
    | cons x xs ih =>
      rw [List.mapM_cons] at h
      cases x with
      | error e => cases h
      | ok a =>
        cases rest : xs.mapM id with
        | error e =>
          rw [rest] at h
          cases h
        | ok bs =>
          rw [rest] at h
          cases h
          rw [ih rest, List.map_cons]
  · rintro rfl
    exact mapM_id_map_ok as

lemma mapM_id_of_error_mem {ε α : Type} {xs : List (Except ε α)} {e : ε} (h : .error e ∈ xs) :
    ∃ e', xs.mapM id = .error e' := by
  cases result : xs.mapM id with
  | error e' => exact ⟨e', rfl⟩
  | ok as =>
    rw [mapM_id_eq_ok.1 result] at h
    obtain ⟨a, -, ⟨⟩⟩ := List.mem_map.1 h

lemma mem_of_mapM_id_eq_error {ε α : Type} {xs : List (Except ε α)} {e : ε}
    (h : xs.mapM id = .error e) : .error e ∈ xs := by
  induction xs with
  | nil => cases h
  | cons x xs ih =>
    rw [List.mapM_cons] at h
    cases x with
    | error e' =>
      cases h
      exact List.mem_cons_self
    | ok a =>
      cases rest : xs.mapM id with
      | error e' =>
        rw [rest] at h
        cases h
        exact List.mem_cons_of_mem _ (ih rest)
      | ok as =>
        rw [rest] at h
        cases h

/-- Each line of a file is its text, or the reason why there is none. -/
lemma take_lines_bytes (bytes : ByteArray) (maxLines : Nat) :
    (Opened.bytes bytes).lines.take maxLines =
      (((Text.byteLines bytes).take maxLines).map fun line =>
        String.fromUTF8? ⟨line.toArray⟩).map fun text? =>
          match text? with
          | some text => .ok text.toList
          | none => .error .notText := by
  rw [Opened.lines, List.map_map, List.map_take]
  rfl

namespace Reading

/-- What a file must have to be read for its values. -/
lemma value_ofNonEmptySource (maxLines : Nat) (source : Source) :
    (ofNonEmptySource maxLines source).value =
      match source.opened >>= fun opened => ofLines? maxLines opened.lines with
      | .error e => .error (.unreadable source.path e.message)
      | .ok r => if r.store.isEmpty then .error (.emptyResults source.path) else .ok r := by
  rw [ofNonEmptySource, ofSource]
  cases source.opened >>= fun opened => ofLines? maxLines opened.lines <;> rfl

/-- The lines of a file that can be read are added one after the other. -/
lemma ofLines?_of_readsAs (h : ReadsAs files maxLines path lines) :
    ∃ r, ((Source.ofPath files path).opened >>= fun opened => ofLines? maxLines opened.lines) =
      .ok r ∧ r.store = (start.addFrom 1 lines).store := by
  obtain ⟨bytes, opened, read⟩ := h
  have text : ((Opened.bytes bytes).lines.take maxLines).mapM id = .ok lines := by
    rw [take_lines_bytes, read, List.map_map]
    simp only [Function.comp_def, String.toList_ofList]
    exact mapM_id_map_ok lines
  rw [Source.ofPath, opened]
  change ∃ r, ofLines? maxLines (Opened.bytes bytes).lines = .ok r ∧ _
  rw [ofLines?, text]
  refine ⟨_, rfl, ?_⟩
  split <;> rfl

/-- A line that is not text stops the reading if it stands within the cap. -/
lemma ofLines?_of_notText {bytes : ByteArray} {line : List UInt8}
    (opened : files.openRead path = .ok (.bytes bytes))
    (mem : line ∈ (Text.byteLines bytes).take maxLines)
    (invalid : String.fromUTF8? ⟨line.toArray⟩ = none) :
    ∃ e, ((Source.ofPath files path).opened >>= fun opened => ofLines? maxLines opened.lines) =
      .error e := by
  have failing : .error .notText ∈ (Opened.bytes bytes).lines.take maxLines := by
    rw [take_lines_bytes, List.map_map, List.mem_map]
    exact ⟨line, mem, by simp [invalid]⟩
  obtain ⟨e, failed⟩ := mapM_id_of_error_mem failing
  rw [Source.ofPath, opened]
  change ∃ e, ofLines? maxLines (Opened.bytes bytes).lines = .error e
  rw [ofLines?, failed]
  exact ⟨e, rfl⟩

/-- Of a file that cannot be used there is a failure, which is none of the configuration. -/
lemma ofNonEmptySource_of_unusable (h : Unusable files maxLines path) :
    ∃ f, (ofNonEmptySource maxLines (.ofPath files path)).value = .error f ∧
      f.isConfig = false := by
  rw [value_ofNonEmptySource]
  cases h with
  | unopened failed =>
    rw [Source.ofPath, failed]
    exact ⟨_, rfl, rfl⟩
  | unreadable directory =>
    rw [Source.ofPath, directory]
    cases maxLines <;> exact ⟨_, rfl, rfl⟩
  | notText opened mem invalid =>
    obtain ⟨e, failed⟩ := ofLines?_of_notText opened mem invalid
    rw [failed]
    exact ⟨_, rfl, rfl⟩
  | noMeasurement read silent =>
    obtain ⟨r, opened, store⟩ := ofLines?_of_readsAs read
    rw [opened]
    simp only [store, isEmpty_addFrom_start.2 silent, if_true]
    exact ⟨_, rfl, rfl⟩

/-- Every other file is read, and its values are those of the last measurements. -/
lemma ofNonEmptySource_of_usable (h : ¬ Unusable files maxLines path) :
    ∃ r, (ofNonEmptySource maxLines (.ofPath files path)).value = .ok r ∧
      ∀ name value, r.store.get? name = some value ↔
        FileMeasures files maxLines path name value := by
  cases opened : files.openRead path with
  | error e => exact absurd (.unopened opened) h
  | ok kind =>
    cases kind with
    | directory => exact absurd (.unreadable opened) h
    | bytes bytes =>
      rcases readsAs_or_notText opened with ⟨lines, read⟩ | ⟨line, mem, invalid⟩
      · obtain ⟨r, added, store⟩ := ofLines?_of_readsAs read
        have nonempty : ¬ r.store.isEmpty := by
          rw [store, isEmpty_addFrom_start]
          exact fun silent => h (.noMeasurement read silent)
        refine ⟨r, ?_, fun name value => ?_⟩
        · rw [value_ofNonEmptySource, added]
          exact if_neg nonempty
        · rw [store, get?_addFrom_start]
          constructor
          · exact fun last => ⟨lines, read, last⟩
          · rintro ⟨lines', read', last⟩
            rwa [read.unique read']
      · exact absurd (.notText opened mem invalid) h

end Reading

end ResultFile

end PerfGate
