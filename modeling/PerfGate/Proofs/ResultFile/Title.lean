import PerfGate.Proofs.ResultFile.Rendered

/-!
# Titles of result files

Of the header of a result file only the title is a text from outside. It is written as it is, behind
the mark of a comment: what it has behind its first line feed stands in the file as lines of their
own (`Header.further`), and a reader takes them for what they say (`ofText_render_further`).

A line that speaks always leaves a trace, a new name in the store or a report that none was added
(`Reading.traces_addFrom`). So a title is harmless exactly if none of its further lines speaks
(`ofText_render_titles`).
-/

namespace PerfGate

namespace Diagnostic

/-- The line gave the store no new name. -/
def isFruitless (d : Diagnostic) : Bool :=
  d.isSkippedLine || d.isDuplicate

end Diagnostic

namespace ResultFile

open Decimal (refixed)
open Text (trimChars dropReturn)

variable {line : List Char} {name : String} {value : Float}

/-! ## Lines that speak -/

instance : DecidablePred Speaks := fun line =>
  inferInstanceAs (Decidable (trimChars line ≠ [] ∧ (trimChars line).head? ≠ some '#'))

lemma not_speaks_iff : ¬ Speaks line ↔ Line.ofTrimmed (trimChars line) = .silent := by
  constructor
  · intro silent
    by_cases blank : trimChars line = []
    · exact (Line.Saying.blank blank).ofTrimmed
    · have mark : (trimChars line).head? = some '#' := by
        by_contra other
        exact silent ⟨blank, other⟩
      exact (Line.Saying.comment mark).ofTrimmed
  · intro silent speaks
    cases Line.saying_iff.2 silent with
    | blank blank => exact speaks.1 blank
    | comment mark => exact speaks.2 mark

lemma Measures.speaks (measured : Measures line name value) : Speaks line := by
  by_contra silent
  rw [not_speaks_iff, measures_iff.1 measured] at silent
  cases silent

/-- Lines that say nothing measure nothing. -/
lemma not_lastMeasured {lines : List (List Char)} (silent : ∀ line ∈ lines, ¬ Speaks line) :
    ¬ LastMeasured lines name value := by
  rintro ⟨before, line, after, rfl, measured, -⟩
  exact silent line (by simp) measured.speaks

namespace Reading

lemma addFrom_append (r : Reading) (number : Nat) (lines rest : List (List Char)) :
    r.addFrom number (lines ++ rest) =
      (r.addFrom number lines).addFrom (number + lines.length) rest := by
  induction lines generalizing r number with
  | nil => rfl
  | cons line lines ih =>
    rw [List.cons_append, addFrom, addFrom, ih, List.length_cons, Nat.add_right_comm, Nat.add_assoc]

/-- How many names there are, and how many reports that none was added. -/
def traces (r : Reading) : Nat :=
  r.store.size + r.diagnostics.toList.countP Diagnostic.isFruitless

lemma traces_report (r : Reading) (d : Diagnostic) :
    (r.report d).traces = r.traces + if d.isFruitless then 1 else 0 := by
  rw [traces, toList_report, List.countP_append, List.countP_singleton]
  exact (Nat.add_assoc ..).symm

lemma countP_isFruitless_negative (number : Nat) (name : String) (value : Float) :
    (negative number name value).countP Diagnostic.isFruitless = 0 := by
  unfold negative
  split <;> rfl

/-- A line that speaks leaves one trace, any other line none. -/
lemma traces_add (r : Reading) (number : Nat) (line : List Char) :
    (r.add number line).traces = r.traces + if Speaks line then 1 else 0 := by
  cases entry : Line.ofTrimmed (trimChars line) with
  | silent => rw [add_of_silent entry, if_neg (not_speaks_iff.2 entry), Nat.add_zero]
  | missingSeparator | emptyName | malformedValue =>
    have speaks : Speaks line := by
      by_contra silent
      rw [not_speaks_iff, entry] at silent
      cases silent
    rw [if_pos speaks]
    unfold add
    simp only [entry]
    exact traces_report _ _
  | measurement name value =>
    have measured := measures_iff.2 entry
    obtain ⟨store, diagnostics⟩ := add_measurement (r := r) measured number
    rw [if_pos measured.speaks, traces, traces, store, diagnostics, Store.size_insert,
      List.countP_append, List.countP_append, countP_isFruitless_negative]
    split
    · rfl
    · rw [List.countP_nil]
      omega

/-- Lines leave as many traces as there are among them that speak. -/
lemma traces_addFrom (r : Reading) (number : Nat) (lines : List (List Char)) :
    (r.addFrom number lines).traces = r.traces + lines.countP (Speaks ·) := by
  induction lines generalizing r number with
  | nil => rfl
  | cons line lines ih =>
    rw [addFrom, ih, traces_add, List.countP_cons]
    simp only [decide_eq_true_eq]
    omega

lemma countP_isFruitless_negatives (number : Nat) (measurements : List (String × Float)) :
    (negatives number measurements).countP Diagnostic.isFruitless = 0 := by
  rw [List.countP_eq_zero]
  intro d mem
  obtain ⟨⟨m, line⟩, -, made⟩ := List.mem_filterMap.1 mem
  obtain ⟨-, is⟩ := Option.ite_none_right_eq_some.1 made
  cases is
  exact nofun

end Reading

/-! ## Further lines of a title -/

/-- The lines of the title behind its first one, as they are read from the file. -/
def Header.further (h : Header) : List (List Char) :=
  (h.title.toList.splitOn '\n').tail.map (dropReturn '\r')

/-- Only a line feed makes a further line. -/
lemma Header.further_eq_nil {header : Header} (title : '\n' ∉ header.title.toList) :
    header.further = [] := by
  rw [further, List.splitOn_eq_singleton title]
  rfl

/-- What is read of a file is what was written under the header, and nothing of the header itself:
the measurements, and of these the negative ones are reported. -/
structure Unaltered (store : Store) (header : Header) (r : Reading) : Prop where
  values : r.store.toList = rewritten store.toList
  reports : r.diagnostics.toList =
    Reading.negatives (headerLength + 1 + header.further.length) (rewritten store.toList)

variable {store : Store} {header header' : Header} {cap : Nat}

/-- The lines of the measurements. -/
def measurementLines (store : Store) : List (List Char) :=
  store.toList.map fun m => (measurementLine m.1 m.2).toList

/-- Whatever the title is, its first line and the lines behind it say nothing. -/
lemma lines_render_further (writable : Writable store) (header : Header) :
    ∃ first behind, (∀ line ∈ first :: behind, ¬ Speaks line) ∧
      (first :: behind).length = headerLength ∧
      Text.lines (render store header) =
        first :: (header.further ++ (behind ++ measurementLines store)) := by
  -- the lines behind the title are those of a header without a title
  let untitled : Header := { header with title := "" }
  obtain ⟨title, pieces, cut⟩ := List.exists_cons_of_ne_nil
    (List.splitOn_ne_nil '\n' header.title.toList)
  have first : (("# Performance Results - " ++ header.title).toList.splitOn '\n').map
      (dropReturn '\r') =
        dropReturn '\r' ("# Performance Results - ".toList ++ title) :: header.further := by
    rw [String.toList_append, Text.splitOn_append_of_not_mem (by decide), Header.further, cut]
    rfl
  have whole : ∀ line ∈ untitled.lines store.size, '\n' ∉ line.toList :=
    noFeed_header List.not_mem_nil store.size
  have plain : ∀ line ∈ (untitled.lines store.size).tail ++
      store.toList.map (fun m => measurementLine m.1 m.2), '\n' ∉ line.toList := by
    rw [List.forall_mem_append]
    exact ⟨fun line mem => whole line (List.mem_of_mem_tail mem), noFeed_measurements writable⟩
  refine ⟨dropReturn '\r' ("# Performance Results - ".toList ++ title),
    (untitled.lines store.size).tail.map fun line => dropReturn '\r' line.toList, ?_, rfl, ?_⟩
  · rw [List.forall_mem_cons]
    refine ⟨not_speaks_iff.2 (ofTrimmed_of_mark (Text.head?_dropReturn rfl (by decide))), ?_⟩
    intro line mem
    rw [List.map_tail] at mem
    exact not_speaks_iff.2 (silent_header untitled store.size line (List.mem_of_mem_tail mem))
  · have text : render store header =
        String.join ((("# Performance Results - " ++ header.title) ::
          ((untitled.lines store.size).tail ++
            store.toList.map fun m => measurementLine m.1 m.2)).map (· ++ "\n")) := rfl
    rw [text, Text.lines_join_cons, Text.lines_join plain, first, List.map_append, List.map_map,
      dropReturn_measurements writable]
    rfl

/-- Where the cap leaves room for all lines, the further lines of the title are read, and then the
measurements. -/
lemma ofText_render_further (writable : Writable store)
    (room : headerLength + header.further.length + store.size ≤ cap) :
    Reading.ofText cap (render store header) =
      (Reading.start.addFrom 2 header.further).addFrom
        (headerLength + 1 + header.further.length) (measurementLines store) := by
  obtain ⟨first, behind, silent, length, lines⟩ := lines_render_further writable header
  rw [List.forall_mem_cons] at silent
  obtain ⟨quiet, silent⟩ := silent
  have short : (Text.lines (render store header)).length ≤ cap := by
    rw [List.length_cons] at length
    rw [lines, List.length_cons, List.length_append, List.length_append, measurementLines,
      List.length_map, Store.length_toList]
    omega
  rw [Reading.ofText, Reading.ofLines, if_neg (Nat.not_lt.2 short), List.take_of_length_le short,
    lines, Reading.addFrom, Reading.add_of_silent (not_speaks_iff.1 quiet), Reading.addFrom_append,
    Reading.addFrom_silent fun line mem => not_speaks_iff.1 (silent line mem)]
  rw [List.length_cons] at length
  congr 1
  omega

lemma addFrom_measurementLines (writable : Writable store) (number : Nat) :
    (Reading.start.addFrom number (measurementLines store)).store.toList =
        rewritten store.toList ∧
      (Reading.start.addFrom number (measurementLines store)).diagnostics.toList =
        Reading.negatives number (rewritten store.toList) :=
  addFrom_start_measurements writable store.pairwise_toList number

/-- The value of a name is the one that was written, and for a name that was not written the last
one that the title gives. -/
lemma get?_ofText_render (writable : Writable store)
    (room : headerLength + header.further.length + store.size ≤ cap) (name : String) :
    (Reading.ofText cap (render store header)).store.get? name =
      ((store.get? name).map (refixed 2)).or
        (header.further.reverse.findSome? (measured? name)) := by
  have given : (measurementLines store).reverse.findSome? (measured? name) =
      (store.get? name).map (refixed 2) := by
    have alone := Reading.get?_addFrom .start 1 (measurementLines store) name
    rw [Reading.start, Store.get?_empty, Option.or_none, ← Reading.start] at alone
    rw [← alone]
    refine Option.ext fun x => ?_
    rw [← Store.mem_toList, (addFrom_measurementLines writable 1).1, rewritten, List.mem_map,
      Option.map_eq_some_iff]
    constructor
    · rintro ⟨m, listed, ⟨⟩⟩
      exact ⟨m.2, Store.mem_toList.1 listed, rfl⟩
    · rintro ⟨x', stored, rfl⟩
      exact ⟨(name, x'), Store.mem_toList.2 stored, rfl⟩
  rw [ofText_render_further writable room, Reading.get?_addFrom, Reading.get?_addFrom, given,
    Reading.start, Store.get?_empty, Option.or_none]

/-- Under two headers the same values are read exactly if their titles give the same values to the
names that were not written. -/
lemma store_ofText_render_eq_iff (writable : Writable store)
    (room : headerLength + header.further.length + store.size ≤ cap)
    (room' : headerLength + header'.further.length + store.size ≤ cap) :
    (Reading.ofText cap (render store header)).store =
        (Reading.ofText cap (render store header')).store ↔
      ∀ name ∉ store.names, ∀ value,
        LastMeasured header.further name value ↔ LastMeasured header'.further name value := by
  simp only [← lastMeasured_iff, Option.ext_iff.symm]
  constructor
  · intro same name absent
    have none : store.get? name = none :=
      Option.eq_none_iff_forall_ne_some.2 fun x stored =>
        absent (Store.mem_names_iff.2 ⟨x, stored⟩)
    have given := congrArg (fun s => Store.get? s name) same
    simp only [get?_ofText_render writable room, get?_ofText_render writable room', none] at given
    exact given
  · intro same
    refine Store.ext fun name => ?_
    rw [get?_ofText_render writable room, get?_ofText_render writable room']
    cases stored : store.get? name with
    | some x => rfl
    | none =>
      refine congrArg (Option.or none) (same name fun mem => ?_)
      obtain ⟨x, found⟩ := Store.mem_names_iff.1 mem
      rw [stored] at found
      cases found

/-- Nothing of the header is read exactly if no further line of the title speaks. -/
lemma unaltered_iff (writable : Writable store)
    (room : headerLength + header.further.length + store.size ≤ cap) :
    Unaltered store header (Reading.ofText cap (render store header)) ↔
      ∀ line ∈ header.further, ¬ Speaks line := by
  rw [ofText_render_further writable room]
  constructor
  · rintro ⟨values, reports⟩
    -- the measurements alone leave all the traces that there are
    have all := Reading.traces_addFrom (Reading.start.addFrom 2 header.further)
      (headerLength + 1 + header.further.length) (measurementLines store)
    have own := Reading.traces_addFrom .start 1 (measurementLines store)
    obtain ⟨values', reports'⟩ := addFrom_measurementLines writable 1
    rw [Reading.traces, ← Store.length_toList, values', reports',
      Reading.countP_isFruitless_negatives] at own
    rw [Reading.traces, ← Store.length_toList, values, reports,
      Reading.countP_isFruitless_negatives, own, Reading.traces_addFrom] at all
    have none : header.further.countP (Speaks ·) = 0 := by omega
    intro line mem speaks
    exact List.countP_eq_zero.1 none line mem (decide_eq_true speaks)
  · intro silent
    have unread := Reading.addFrom_silent (fun line mem => not_speaks_iff.1 (silent line mem))
      .start 2 []
    rw [List.append_nil] at unread
    obtain ⟨values, reports⟩ := addFrom_measurementLines writable
      (headerLength + 1 + header.further.length)
    rw [unread]
    exact ⟨values, reports⟩

/-- Two headers lead to the same values exactly if their titles give the same values to the names
that were not written. And a header is not read at all, neither as a measurement nor in a report,
exactly if every line of its title behind the first is blank or a comment. -/
theorem ofText_render_titles (writable : Writable store)
    (room : headerLength + header.further.length + store.size ≤ cap)
    (room' : headerLength + header'.further.length + store.size ≤ cap) :
    ((Reading.ofText cap (render store header)).store =
        (Reading.ofText cap (render store header')).store ↔
      ∀ name ∉ store.names, ∀ value,
        LastMeasured header.further name value ↔ LastMeasured header'.further name value) ∧
      (Unaltered store header (Reading.ofText cap (render store header)) ↔
        ∀ line ∈ header.further, ¬ Speaks line) ∧
      (Unaltered store header' (Reading.ofText cap (render store header')) ↔
        ∀ line ∈ header'.further, ¬ Speaks line) :=
  ⟨store_ofText_render_eq_iff writable room room', unaltered_iff writable room,
    unaltered_iff writable room'⟩

/-- One measurement. -/
def echoStore : Store := .ofList [("echo", Float.ofBits 0x4000000000000000)]

/-- A header that differs from others in its title only. -/
def titled (title : String) : Header := ⟨title, 1, ⟨2024, 2, 29, 12, 0, 0⟩⟩

lemma toList_echoStore : echoStore.toList = [("echo", Float.ofBits 0x4000000000000000)] :=
  Store.toList_ofList (List.pairwise_singleton ..)

lemma size_echoStore : echoStore.size = 1 := by
  rw [← Store.length_toList, toList_echoStore]
  rfl

lemma writable_echoStore : Writable echoStore := by
  intro m mem
  rw [toList_echoStore, List.mem_singleton] at mem
  rw [mem]
  exact ⟨⟨by decide, by decide, by decide, by decide, by decide⟩, by decide⟩

theorem ofText_render_titles_commented :
    Writable echoStore ∧
      headerLength + (titled "nightly").further.length + echoStore.size ≤ 10 ∧
      headerLength + (titled "nightly\n# build 5\n").further.length + echoStore.size ≤ 10 ∧
      (Reading.ofText 10 (render echoStore (titled "nightly"))).store =
        (Reading.ofText 10 (render echoStore (titled "nightly\n# build 5\n"))).store ∧
      Unaltered echoStore (titled "nightly")
        (Reading.ofText 10 (render echoStore (titled "nightly"))) ∧
      Unaltered echoStore (titled "nightly\n# build 5\n")
        (Reading.ofText 10 (render echoStore (titled "nightly\n# build 5\n"))) := by
  have room : headerLength + (titled "nightly").further.length + echoStore.size ≤ 10 := by
    rw [size_echoStore]
    decide
  have room' :
      headerLength + (titled "nightly\n# build 5\n").further.length + echoStore.size ≤ 10 := by
    rw [size_echoStore]
    decide
  have silent : ∀ line ∈ (titled "nightly").further, ¬ Speaks line := by
    rw [Header.further_eq_nil (by decide)]
    exact List.forall_mem_nil _
  have silent' : ∀ line ∈ (titled "nightly\n# build 5\n").further, ¬ Speaks line := by decide
  obtain ⟨same, plain, commented⟩ := ofText_render_titles writable_echoStore room room'
  refine ⟨writable_echoStore, room, room', same.2 ?_, plain.2 silent, commented.2 silent'⟩
  intro name _ value
  exact iff_of_false (not_lastMeasured silent) (not_lastMeasured silent')

/-- What a title has behind a line feed can be read as a measurement. -/
theorem ofText_render_title_measured :
    Writable echoStore ∧ ∀ cap, 9 ≤ cap →
      (Reading.ofText cap (render echoStore (titled "nightly"))).store ≠
          (Reading.ofText cap (render echoStore (titled "nightly\nadd: 5"))).store ∧
        (Reading.ofText cap (render echoStore (titled "nightly\nadd: 5"))).store.get? "add" =
          some (Float.ofBits 0x4014000000000000) := by
  refine ⟨writable_echoStore, fun cap large => ?_⟩
  have room : headerLength + (titled "nightly").further.length + echoStore.size ≤ cap := by
    rw [size_echoStore]
    exact (show 8 ≤ 9 by decide).trans large
  have room' :
      headerLength + (titled "nightly\nadd: 5").further.length + echoStore.size ≤ cap := by
    rw [size_echoStore]
    exact large
  have unwritten : echoStore.get? "add" = none := by
    refine Option.eq_none_iff_forall_ne_some.2 fun x stored => ?_
    rw [← Store.mem_toList, toList_echoStore, List.mem_singleton, Prod.mk.injEq] at stored
    exact absurd stored.1 (by decide)
  have given : (titled "nightly\nadd: 5").further.reverse.findSome? (measured? "add") =
      some (Float.ofBits 0x4014000000000000) := by
    decide +kernel
  have silent := get?_ofText_render writable_echoStore room "add"
  have measured := get?_ofText_render writable_echoStore room' "add"
  rw [unwritten] at silent measured
  rw [given] at measured
  refine ⟨fun same => ?_, measured⟩
  rw [same, measured] at silent
  cases silent

end ResultFile

end PerfGate
