import PerfGate.Proofs.Decimal.Fixed
import PerfGate.Proofs.ResultFile.Diagnosed
import PerfGate.Proofs.Text.Line
import PerfGate.ResultFile.Writing

/-!
# Result files that were written

A result file that was written is read as the measurements that were written to it, each with the
value that its two places stand for (`refixed`). The header says nothing to a reader, but its lines
count: of the measurements as many are read as the cap leaves room for behind them
(`ofText_render`). Where the cap leaves room for all, nothing is lost (`ofText_render_roundTrip`).
-/

namespace PerfGate.ResultFile

open Decimal (isFinite fixed refixed readFloat)
open Text (trimChars dropReturn isBlank)

/-! ## Single lines -/

/-- A name that is read from a line as it is written there. -/
structure IsName (name : String) : Prop where
  nonempty : name ≠ ""
  trimmed : Text.trim name = name
  noColon : ':' ∉ name.toList
  noFeed : '\n' ∉ name.toList
  noMark : name.toList.head? ≠ some '#'

variable {name : String} {value : Float}

lemma IsName.trimChars (h : IsName name) : trimChars name.toList = name.toList := by
  have trimmed := congrArg String.toList h.trimmed
  rwa [Text.trim, String.toList_ofList] at trimmed

lemma IsName.exists_head (h : IsName name) :
    ∃ c, name.toList.head? = some c ∧ isBlank c = false := by
  cases first : name.toList.head? with
  | none =>
    have empty := List.head?_eq_none_iff.1 first
    exact absurd (String.toList_eq_nil_iff.1 empty) h.nonempty
  | some c =>
    refine ⟨c, rfl, Text.head?_trimChars name.toList c ?_⟩
    rwa [h.trimChars]

section

variable {text : String} (nonempty : text.toList ≠ [])
  (visible : ∀ c ∈ text.toList, isBlank c = false)
include nonempty visible

/-- The line of a value ends as the text of the value does. -/
lemma getLast?_valueLine (name : String) :
    ∀ c ∈ (name.toList ++ ':' :: ' ' :: text.toList).getLast?, isBlank c = false := by
  intro c last
  obtain ⟨d, ds, chars⟩ := List.exists_cons_of_ne_nil nonempty
  have same : (name.toList ++ ':' :: ' ' :: text.toList).getLast? = text.toList.getLast? := by
    rw [chars]
    simp [List.getLast?_append, List.getLast?_cons]
  rw [same] at last
  exact visible c (List.mem_of_getLast? last)

lemma dropReturn_valueLine (name : String) :
    dropReturn '\r' (name.toList ++ ':' :: ' ' :: text.toList) =
      name.toList ++ ':' :: ' ' :: text.toList := by
  refine Text.dropReturn_of_last fun c last => ?_
  rintro rfl
  exact absurd (getLast?_valueLine nonempty visible name _ last) (by decide)

/-- The line of a value is read as the name and the value of the text. -/
lemma measures_valueLine (named : IsName name) (read : Decimal.readFloat text = some value)
    (finite : isFinite value) :
    Measures (name.toList ++ ':' :: ' ' :: text.toList) name value := by
  obtain ⟨c, first, shown⟩ := named.exists_head
  have whole : trimChars (name.toList ++ ':' :: ' ' :: text.toList) =
      name.toList ++ ':' :: ' ' :: text.toList := by
    refine Text.trimChars_of_ends ?_ (getLast?_valueLine nonempty visible name)
    intro d head
    rw [List.head?_append, first] at head
    cases head
    exact shown
  have trimmed : String.ofList (trimChars (' ' :: text.toList)) = text :=
    Text.trim_of_noBlank visible
  refine ⟨name.toList, ' ' :: text.toList, whole, named.noColon, named.noMark, ?_,
    named.nonempty, ?_, finite⟩
  · rw [named.trimChars, String.ofList_toList]
  · rw [trimmed]
    exact read

omit nonempty in
lemma noFeed_valueLine (named : IsName name) :
    '\n' ∉ name.toList ++ ':' :: ' ' :: text.toList := by
  rw [List.mem_append, List.mem_cons, List.mem_cons]
  rintro (inName | same | same | inText)
  · exact named.noFeed inName
  · exact absurd same (by decide)
  · exact absurd same (by decide)
  · exact absurd (visible _ inText) (by decide)

end

lemma toList_measurementLine (name : String) (value : Float) :
    (measurementLine name value).toList =
      name.toList ++ ':' :: ' ' :: (fixed 2 value).toList := by
  simp [measurementLine]

/-- The line of a measurement is read as the measurement, with the value that was written. -/
lemma measures_measurementLine (named : IsName name) (finite : isFinite value) :
    Measures (measurementLine name value).toList name (refixed 2 value) := by
  rw [toList_measurementLine]
  exact measures_valueLine (Decimal.fixed_ne_nil finite) (Decimal.not_isBlank_fixed finite) named
    (Decimal.readFloat_fixed ..) (Decimal.isFinite_refixed finite)

lemma dropReturn_measurementLine (finite : isFinite value) :
    dropReturn '\r' (measurementLine name value).toList = (measurementLine name value).toList := by
  rw [toList_measurementLine]
  exact dropReturn_valueLine (Decimal.fixed_ne_nil finite) (Decimal.not_isBlank_fixed finite) name

lemma noFeed_measurementLine (named : IsName name) (finite : isFinite value) :
    '\n' ∉ (measurementLine name value).toList := by
  rw [toList_measurementLine]
  exact noFeed_valueLine (Decimal.not_isBlank_fixed finite) named

/-! ## The header -/

lemma noFeed_toDigits (n : Nat) : '\n' ∉ Nat.toDigits 10 n := fun mem =>
  absurd (Nat.isDigit_of_mem_toDigits (by decide) (by decide) mem) (by decide)

lemma noFeed_padZero (width n : Nat) : '\n' ∉ (Timestamp.padZero width n).toList := by
  rw [Timestamp.padZero, String.toList_append, List.mem_append, String.toList_ofList]
  rintro (zero | digit)
  · exact absurd (List.eq_of_mem_replicate zero) (by decide)
  · rw [Decimal.toList_toString] at digit
    exact noFeed_toDigits n digit

lemma noFeed_timestamp (t : Timestamp) : '\n' ∉ t.text.toList := by
  have year : '\n' ∉ (Timestamp.yearText t.year).toList := by
    rw [Timestamp.yearText, String.toList_append, List.mem_append]
    rintro (sign | digit)
    · split at sign
      · exact absurd sign (by decide)
      · split at sign <;> exact absurd sign (by decide)
    · exact noFeed_padZero _ _ digit
  simp [Timestamp.text, year, noFeed_padZero]

lemma noFeed_header {header : Header} (title : '\n' ∉ header.title.toList) (measurements : Nat) :
    ∀ line ∈ header.lines measurements, '\n' ∉ line.toList := by
  simp [Header.lines, title, noFeed_timestamp, noFeed_toDigits]

lemma mark_header (header : Header) (measurements : Nat) :
    ∀ line ∈ header.lines measurements, line.toList.head? = some '#' := by
  simp [Header.lines]

/-- A line that begins with the mark of a comment says nothing. -/
lemma ofTrimmed_of_mark {line : List Char} (mark : line.head? = some '#') :
    Line.ofTrimmed (trimChars line) = .silent := by
  have first := Text.head?_trimChars_of_not_blank mark (by decide)
  rw [Line.ofTrimmed, first, if_pos]
  simp

/-! ## Several lines -/

namespace Reading

lemma add_of_silent {line : List Char} (silent : Line.ofTrimmed (trimChars line) = .silent)
    (r : Reading) (number : Nat) : r.add number line = r := by
  simp only [add, silent]

/-- Lines that say nothing are counted only. -/
lemma addFrom_silent {lines : List (List Char)}
    (silent : ∀ line ∈ lines, Line.ofTrimmed (trimChars line) = .silent) (r : Reading)
    (number : Nat) (rest : List (List Char)) :
    r.addFrom number (lines ++ rest) = r.addFrom (number + lines.length) rest := by
  induction lines generalizing number with
  | nil => rfl
  | cons line lines ih =>
    obtain ⟨head, silent⟩ := List.forall_mem_cons.1 silent
    rw [List.cons_append, addFrom, add_of_silent head, ih silent, List.length_cons,
      Nat.add_right_comm, Nat.add_assoc]

/-- The values below zero that are reported where the first of the measurements stands on the line
with this number. -/
def negatives (number : Nat) (measurements : List (String × Float)) : List Diagnostic :=
  (measurements.zipIdx number).filterMap fun (m, line) =>
    if m.2 < 0 then some (.negativeValue line m.1 m.2) else none

/-- A measurement of a new name is added, and reported only if it is negative. -/
lemma add_of_measures {r : Reading} {line : List Char} (measured : Measures line name value)
    (fresh : r.store.get? name = none) (number : Nat) :
    (r.add number line).store = r.store.insert name value ∧
      (r.add number line).diagnostics.toList =
        r.diagnostics.toList ++ negatives number [(name, value)] := by
  have new : r.store.contains name = false := by
    have absent := Store.not_contains_iff.2 fresh
    simpa using absent
  have single : negatives number [(name, value)] = negative number name value := by
    unfold negatives negative
    by_cases below : value < 0 <;> simp [below]
  obtain ⟨store, diagnostics⟩ := add_measurement measured number
  rw [new] at diagnostics
  rw [single]
  exact ⟨store, diagnostics.trans (congrArg (_ ++ ·) (List.append_nil _))⟩

/-- Measurements of different new names are all added. -/
lemma addFrom_measurements {lines : List (List Char)} {measurements : List (String × Float)}
    (measured : List.Forall₂ (fun line m => Measures line m.1 m.2) lines measurements)
    (distinct : (measurements.map Prod.fst).Nodup) {r : Reading}
    (fresh : ∀ m ∈ measurements, r.store.get? m.1 = none) (number : Nat) :
    (r.addFrom number lines).store =
        measurements.foldl (fun s m => s.insert m.1 m.2) r.store ∧
      (r.addFrom number lines).diagnostics.toList =
        r.diagnostics.toList ++ negatives number measurements := by
  induction measured generalizing r number with
  | nil => exact ⟨rfl, (List.append_nil _).symm⟩
  | @cons line m lines measurements first _ ih =>
    obtain ⟨once, distinct⟩ := List.nodup_cons.1 distinct
    obtain ⟨absent, fresh⟩ := List.forall_mem_cons.1 fresh
    obtain ⟨store, diagnostics⟩ := add_of_measures first absent number
    have fresh' : ∀ n ∈ measurements, (r.add number line).store.get? n.1 = none := by
      intro n mem
      have other : m.1 ≠ n.1 := fun same => once (same ▸ List.mem_map_of_mem mem)
      rw [store, Store.get?_insert, if_neg other]
      exact fresh n mem
    obtain ⟨store', diagnostics'⟩ := ih distinct fresh' (number + 1)
    refine ⟨?_, ?_⟩
    · rw [addFrom, store', store, List.foldl_cons]
    · rw [addFrom, diagnostics', diagnostics, List.append_assoc]
      simp only [negatives, List.zipIdx_cons, List.filterMap_cons, List.zipIdx_nil,
        List.filterMap_nil]
      split <;> rfl

end Reading

/-! ## Files -/

/-- What is written to a file can be read: names are read as they are written, and values are
numbers. -/
def Writable (store : Store) : Prop :=
  ∀ m ∈ store.toList, IsName m.1 ∧ isFinite m.2

/-- The measurements as they are read, each with the value that was written. -/
def rewritten (measurements : List (String × Float)) : List (String × Float) :=
  measurements.map fun m => (m.1, refixed 2 m.2)

variable {store : Store} {header : Header}

lemma map_fst_rewritten (measurements : List (String × Float)) :
    (rewritten measurements).map Prod.fst = measurements.map Prod.fst := by
  rw [rewritten, List.map_map]
  rfl

lemma pairwise_rewritten {measurements : List (String × Float)}
    (h : measurements.Pairwise Store.Before) : (rewritten measurements).Pairwise Store.Before :=
  List.pairwise_map.2 h

lemma noFeed_measurements (writable : Writable store) :
    ∀ line ∈ store.toList.map (fun m => measurementLine m.1 m.2), '\n' ∉ line.toList := by
  rw [List.forall_mem_map]
  intro m mem
  obtain ⟨named, finite⟩ := writable m mem
  exact noFeed_measurementLine named finite

lemma dropReturn_measurements (writable : Writable store) :
    store.toList.map ((fun line => dropReturn '\r' line.toList) ∘
        fun m => measurementLine m.1 m.2) =
      store.toList.map fun m => (measurementLine m.1 m.2).toList :=
  List.map_congr_left fun m mem => dropReturn_measurementLine (writable m mem).2

/-- The lines of the file: those of the header, and those of the measurements. -/
lemma lines_render (writable : Writable store) (title : '\n' ∉ header.title.toList) :
    Text.lines (render store header) =
      (header.lines store.size).map (fun line => dropReturn '\r' line.toList) ++
        store.toList.map fun m => (measurementLine m.1 m.2).toList := by
  have plain : ∀ line ∈ header.lines store.size ++
      store.toList.map (fun m => measurementLine m.1 m.2), '\n' ∉ line.toList := by
    rw [List.forall_mem_append]
    exact ⟨noFeed_header title store.size, noFeed_measurements writable⟩
  rw [render, Text.lines_join plain, List.map_append, List.map_map,
    dropReturn_measurements writable]

lemma silent_header (header : Header) (measurements : Nat) :
    ∀ line ∈ (header.lines measurements).map (fun line => dropReturn '\r' line.toList),
      Line.ofTrimmed (trimChars line) = .silent := by
  intro line mem
  obtain ⟨text, listed, rfl⟩ := List.mem_map.1 mem
  exact ofTrimmed_of_mark
    (Text.head?_dropReturn (mark_header header measurements text listed) (by decide))

/-- The number of lines in the header. -/
def headerLength : Nat := 7

lemma length_lines_render (writable : Writable store) (title : '\n' ∉ header.title.toList) :
    (Text.lines (render store header)).length = headerLength + store.size := by
  rw [lines_render writable title, List.length_append, List.length_map, List.length_map,
    Store.length_toList]
  rfl

/-- The lines up to the cap are the header and as many measurements as there is room for behind
it. -/
lemma take_lines_render (writable : Writable store) (title : '\n' ∉ header.title.toList)
    (cap : Nat) : (Text.lines (render store header)).take cap =
      ((header.lines store.size).map fun line => dropReturn '\r' line.toList).take cap ++
        (store.toList.take (cap - headerLength)).map fun m => (measurementLine m.1 m.2).toList := by
  rw [lines_render writable title, List.take_append, List.map_take]
  rfl

lemma measures_lines {measurements : List (String × Float)}
    (writable : ∀ m ∈ measurements, IsName m.1 ∧ isFinite m.2) :
    List.Forall₂ (fun line m => Measures line m.1 m.2)
      (measurements.map fun m => (measurementLine m.1 m.2).toList) (rewritten measurements) := by
  rw [rewritten, List.forall₂_map_left_iff, List.forall₂_map_right_iff, List.forall₂_same]
  intro m mem
  obtain ⟨named, finite⟩ := writable m mem
  exact measures_measurementLine named finite

/-- The lines of measurements with different names are read as these. -/
lemma addFrom_start_measurements {measurements : List (String × Float)}
    (writable : ∀ m ∈ measurements, IsName m.1 ∧ isFinite m.2)
    (ordered : measurements.Pairwise Store.Before) (number : Nat) :
    (Reading.start.addFrom number (measurements.map fun m =>
        (measurementLine m.1 m.2).toList)).store.toList = rewritten measurements ∧
      (Reading.start.addFrom number (measurements.map fun m =>
        (measurementLine m.1 m.2).toList)).diagnostics.toList =
          Reading.negatives number (rewritten measurements) := by
  have ordered' := pairwise_rewritten ordered
  obtain ⟨added, reported⟩ := Reading.addFrom_measurements (measures_lines writable)
    (Store.nodup_fst_of_pairwise ordered') (r := .start) (fun m _ => Store.get?_empty m.1) number
  exact ⟨(congrArg Store.toList added).trans (Store.toList_ofList ordered'), reported⟩

/-- Of the lines up to the cap, the measurements are read. -/
lemma addFrom_render (writable : Writable store) (title : '\n' ∉ header.title.toList) (cap : Nat) :
    (Reading.start.addFrom 1 ((Text.lines (render store header)).take cap)).store.toList =
        rewritten (store.toList.take (cap - headerLength)) ∧
      (Reading.start.addFrom 1 ((Text.lines (render store header)).take cap)).diagnostics.toList =
        Reading.negatives (headerLength + 1)
          (rewritten (store.toList.take (cap - headerLength))) := by
  have silent := silent_header header store.size
  have length : ((header.lines store.size).map fun line =>
      dropReturn '\r' line.toList).length = headerLength := rfl
  rw [take_lines_render writable title,
    Reading.addFrom_silent fun line mem => silent line (List.mem_of_mem_take mem), List.length_take,
    length]
  generalize is : store.toList.take (cap - headerLength) = read
  have sub : read.Sublist store.toList := is ▸ List.take_sublist _ _
  obtain ⟨added, reported⟩ := addFrom_start_measurements (fun m mem => writable m (sub.mem mem))
    (store.pairwise_toList.sublist sub) (1 + min cap headerLength)
  refine ⟨added, reported.trans ?_⟩
  -- measurements are read only if the whole header was
  by_cases within : cap ≤ headerLength
  · rw [Nat.sub_eq_zero_of_le within, List.take_zero] at is
    rw [← is]
    rfl
  · rw [Nat.min_eq_right (Nat.le_of_not_le within), Nat.add_comm]

/-- Of a file that was written, the header and as many measurements are read as the cap allows. -/
theorem ofText_render (writable : Writable store) (title : '\n' ∉ header.title.toList) (cap : Nat) :
    (Reading.ofText cap (render store header)).store.toList =
        rewritten (store.toList.take (cap - headerLength)) ∧
      (Reading.ofText cap (render store header)).diagnostics.toList =
        Reading.negatives (headerLength + 1) (rewritten (store.toList.take (cap - headerLength))) ++
          if cap < headerLength + store.size then [.truncated cap] else [] := by
  obtain ⟨added, reported⟩ := addFrom_render writable title cap
  rw [Reading.ofText, Reading.ofLines, length_lines_render writable title]
  split
  · refine ⟨added, ?_⟩
    simp only [Reading.report, Array.toList_push]
    rw [reported]
  · rw [List.append_nil]
    exact ⟨added, reported⟩

lemma names_ofText_render (writable : Writable store) (title : '\n' ∉ header.title.toList)
    (cap : Nat) : (Reading.ofText cap (render store header)).store.names =
      store.names.take (cap - headerLength) := by
  rw [← Store.map_fst_toList, (ofText_render writable title cap).1, map_fst_rewritten,
    List.map_take, Store.map_fst_toList]

/-- A file that was written is cut short exactly if it has more lines than the cap allows. -/
lemma isTruncated_ofText_render (writable : Writable store) (title : '\n' ∉ header.title.toList)
    (cap : Nat) : (Reading.ofText cap (render store header)).isTruncated ↔
      cap < headerLength + store.size := by
  obtain ⟨-, diagnostics⟩ := ofText_render writable title cap
  rw [Reading.isTruncated, ← Array.any_toList, diagnostics, List.any_append, Bool.or_eq_true,
    List.any_eq_true]
  constructor
  · rintro (⟨d, mem, truncated⟩ | capped)
    · -- the diagnostics before the last are about values below zero
      obtain ⟨⟨m, line⟩, -, made⟩ := List.mem_filterMap.1 mem
      obtain ⟨-, is⟩ := Option.ite_none_right_eq_some.1 made
      cases is
      cases truncated
    · split at capped
      · assumption
      · cases capped
  · intro capped
    rw [if_pos capped]
    exact .inr rfl

/-- Where the cap leaves room for all measurements, each of them is read with the number that its
text stands for, and only negative numbers are reported, with the lines on which they stand. -/
theorem ofText_render_roundTrip (writable : Writable store)
    (title : '\n' ∉ header.title.toList) {cap : Nat} (room : 7 + store.size ≤ cap) :
    (Reading.ofText cap (render store header)).store.names = store.names ∧
      (∀ name value, store.get? name = some value → ∃ reread,
        readFloat (fixed 2 value) = some reread ∧ isFinite reread ∧
          (Reading.ofText cap (render store header)).store.get? name = some reread) ∧
      (Reading.ofText cap (render store header)).isTruncated = false ∧
      (Reading.ofText cap (render store header)).diagnostics.toList =
        Reading.negatives 8 (Reading.ofText cap (render store header)).store.toList := by
  obtain ⟨listed, diagnostics⟩ := ofText_render writable title cap
  have uncapped : ¬ cap < headerLength + store.size := Nat.not_lt.2 room
  have all : store.toList.take (cap - headerLength) = store.toList := by
    refine List.take_of_length_le ?_
    rw [Store.length_toList]
    exact Nat.le_sub_of_add_le' room
  rw [all] at listed diagnostics
  rw [if_neg uncapped, List.append_nil, ← listed] at diagnostics
  refine ⟨?names, ?values, ?truncated, diagnostics⟩
  case names =>
    rw [names_ofText_render writable title, List.take_of_length_le]
    rw [Store.length_names]
    exact Nat.le_sub_of_add_le' room
  case values =>
    intro name value stored
    have mem := Store.mem_toList.2 stored
    refine ⟨refixed 2 value, Decimal.readFloat_fixed 2 value,
      Decimal.isFinite_refixed (writable _ mem).2, ?_⟩
    rw [← Store.mem_toList, listed]
    exact List.mem_map_of_mem (f := fun m => (m.1, refixed 2 m.2)) mem
  case truncated =>
    rw [Bool.eq_false_iff]
    exact mt (isTruncated_ofText_render writable title cap).1 uncapped

/-- Two measurements below zero, one of which is written as a zero. -/
def negativeMeasurements : List (String × Float) :=
  [("b", Float.ofBits 0xC015000000000000), ("é x", Float.ofBits 0xBF70624DD2F1A9FC)]

/-- A header whose title ends in a carriage return. -/
def nightlyHeader : Header :=
  ⟨"nightly\r", 3, ⟨2024, 2, 29, 12, 0, 0⟩⟩

theorem ofText_render_roundTrip_negative :
    Writable (.ofList negativeMeasurements) ∧ '\n' ∉ nightlyHeader.title.toList ∧
      7 + (Store.ofList negativeMeasurements).size ≤ 9 ∧
      ∃ r, r = Reading.ofText 9 (render (.ofList negativeMeasurements) nightlyHeader) ∧
        r.store.names = ["b", "é x"] ∧
        r.store.get? "b" = some (Float.ofBits 0xC015000000000000) ∧
        r.store.get? "é x" = some (Float.ofBits 0x8000000000000000) ∧
        r.isTruncated = false ∧
        r.diagnostics.toList = [.negativeValue 8 "b" (Float.ofBits 0xC015000000000000)] := by
  have ordered : negativeMeasurements.Pairwise Store.Before :=
    List.pairwise_pair.2 (show "b" < "é x" by decide)
  have listed := Store.toList_ofList ordered
  have writable : Writable (.ofList negativeMeasurements) := by
    intro m mem
    rw [listed] at mem
    rcases List.mem_pair.1 mem with rfl | rfl
    · exact ⟨⟨by decide, by decide, by decide, by decide, by decide⟩, by decide⟩
    · exact ⟨⟨by decide, by decide, by decide, by decide, by decide⟩, by decide⟩
  have title : '\n' ∉ nightlyHeader.title.toList := by decide
  have room : 7 + (Store.ofList negativeMeasurements).size ≤ 9 := by
    rw [← Store.length_toList, listed]
    exact Nat.le_refl 9
  obtain ⟨names, values, truncated, diagnostics⟩ := ofText_render_roundTrip writable title room
  have reread (name : String) (value : Float) (mem : (name, value) ∈ negativeMeasurements) :
      (Reading.ofText 9 (render (.ofList negativeMeasurements) nightlyHeader)).store.get? name =
        some (refixed 2 value) := by
    rw [← listed] at mem
    obtain ⟨x, read, -, found⟩ := values name value (Store.mem_toList.1 mem)
    rw [Decimal.readFloat_fixed] at read
    rw [found, ← read]
  have all := (ofText_render writable title 9).1
  refine ⟨writable, title, room, _, rfl, ?_, ?_, ?_, truncated, ?_⟩
  · rw [names, ← Store.map_fst_toList, listed]
    rfl
  · exact reread "b" _ List.mem_cons_self
  · exact reread "é x" _ (List.mem_cons_of_mem _ List.mem_cons_self)
  · rw [diagnostics, all, listed]
    rfl

end PerfGate.ResultFile
