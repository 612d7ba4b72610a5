import PerfGate.Proofs.FileSystem
import PerfGate.Proofs.ResultFile.Reachable

/-!
# Reading from a stream

A stream gives its lines one by one, and each of them may fail. What becomes of a reading depends on
the lines up to the cap, and on whether there are more (`ofLines?_congr`). So bytes are read as any
text is that has the same lines up to the cap, and what stands behind these lines is never looked at
(`ofBytes_agrees`).
-/

namespace PerfGate.ResultFile

open FileSystem (Opened)

/-- The text of a line, if it is one. -/
def decoded (line : List UInt8) : Option String :=
  String.fromUTF8? ⟨line.toArray⟩

/-- The text has the same lines as the bytes up to the cap, and more lines if the bytes have. -/
structure SameWithin (maxLines : Nat) (bytes : ByteArray) (text : String) : Prop where
  lines : ((Text.byteLines bytes).take maxLines).map decoded =
    ((Text.lines text).take maxLines).map fun line => some (String.ofList line)
  beyond : maxLines < (Text.byteLines bytes).length ↔ maxLines < (Text.lines text).length

variable {maxLines : Nat} {bytes : ByteArray} {text : String} {lines : List (List Char)}

lemma length_lines (bytes : ByteArray) :
    (Opened.bytes bytes).lines.length = (Text.byteLines bytes).length :=
  List.length_map _

/-- The lines that are decoded are the lines that can be read. -/
lemma take_lines_eq_iff : (Opened.bytes bytes).lines.take maxLines = lines.map .ok ↔
    ((Text.byteLines bytes).take maxLines).map decoded =
      lines.map fun line => some (String.ofList line) := by
  have whole {reading : Option String → Except PathError (List Char)}
      (read : ∀ text, reading (some text) = .ok text.toList)
      (injective : Function.Injective reading) (texts : List (Option String)) :
      texts.map reading = lines.map .ok ↔
        texts = lines.map fun line => some (String.ofList line) := by
    have same : lines.map .ok = (lines.map fun line => some (String.ofList line)).map reading := by
      rw [List.map_map]
      simp only [Function.comp_def, read, String.toList_ofList]
    rw [same]
    exact List.map_inj_right injective
  rw [take_lines_bytes]
  apply whole
  · exact fun _ => rfl
  · rintro (_ | text) (_ | text') same
    · rfl
    · cases same
    · cases same
    · rw [String.toList_inj.1 (Except.ok.inj same)]

namespace Reading

/-- Only a line up to the cap can fail the reading. -/
lemma ofLines?_eq_error_iff {xs : List (Except PathError (List Char))} :
    (∃ e, ofLines? maxLines xs = .error e) ↔ ∃ e, .error e ∈ xs.take maxLines := by
  constructor
  · rintro ⟨e, failed⟩
    rw [ofLines?] at failed
    cases readable : (xs.take maxLines).mapM id with
    | error e' => exact ⟨e', mem_of_mapM_id_eq_error readable⟩
    | ok lines =>
      rw [readable] at failed
      cases failed
  · rintro ⟨e, mem⟩
    obtain ⟨e', failed⟩ := mapM_id_of_error_mem mem
    rw [ofLines?, failed]
    exact ⟨e', rfl⟩

/-- What is read of lines depends on those up to the cap, and on whether there are more. -/
lemma ofLines?_congr {xs ys : List (Except PathError (List Char))}
    (same : xs.take maxLines = ys.take maxLines)
    (beyond : maxLines < xs.length ↔ maxLines < ys.length) :
    ofLines? maxLines xs = ofLines? maxLines ys := by
  rw [ofLines?, ofLines?, same]
  simp only [beyond]

/-- Of lines that follow the cap, nothing is known but that they are there. -/
lemma ofLines?_append {xs ys : List (Except PathError (List Char))} (cap : xs.length = maxLines) :
    ofLines? maxLines (xs ++ ys) = (ofLines? maxLines xs).map fun r =>
      if ys.isEmpty then r else r.report (.truncated maxLines) := by
  subst cap
  rw [ofLines?, ofLines?, List.take_left, List.take_length]
  cases xs.mapM id with
  | error e => rfl
  | ok lines =>
    cases ys with
    | nil => simp [Except.map]
    | cons y ys => simp [Except.map]

/-- The bytes cannot be read if and only if one of the lines up to the cap is no text. -/
lemma ofBytes_eq_error_iff : (∃ e, ofBytes maxLines bytes = .error e) ↔
    ∃ line ∈ (Text.byteLines bytes).take maxLines, decoded line = none := by
  rw [ofBytes, ofLines?_eq_error_iff, Opened.lines, ← List.map_take]
  constructor
  · rintro ⟨e, mem⟩
    obtain ⟨line, among, read⟩ := List.mem_map.1 mem
    refine ⟨line, among, ?_⟩
    cases text : decoded line with
    | none => rfl
    | some t =>
      rw [decoded] at text
      rw [text] at read
      cases read
  · rintro ⟨line, among, none⟩
    refine ⟨.notText, List.mem_map.2 ⟨line, among, ?_⟩⟩
    rw [decoded] at none
    rw [none]

/-- Bytes are read as a text is that has the same lines up to the cap. -/
lemma ofBytes_of_sameWithin (same : SameWithin maxLines bytes text) :
    ofBytes maxLines bytes = .ok (ofText maxLines text) := by
  rw [ofBytes, ofText, ← ofLines?_map_ok]
  refine ofLines?_congr ?_ ?_
  · rw [take_lines_eq_iff.2 same.lines, List.map_take]
  · rw [length_lines, List.length_map]
    exact same.beyond

/-- A text is read in memory as it is from a stream. -/
lemma ofBytes_toUTF8 (maxLines : Nat) (text : String) :
    ofBytes maxLines text.toUTF8 = .ok (ofText maxLines text) := by
  rw [ofBytes, FileSystem.lines_toUTF8, ofLines?_map_ok]
  rfl

/-- What stands behind complete lines up to the cap is not looked at. -/
lemma ofBytes_append {rest : ByteArray} (complete : Text.Complete 0x0A bytes.data.toList)
    (cap : (Text.byteLines bytes).length = maxLines) :
    ofBytes maxLines (bytes ++ rest) = (ofBytes maxLines bytes).map fun r =>
      if rest.data.toList.isEmpty then r else r.report (.truncated maxLines) := by
  have apart : (Opened.bytes (bytes ++ rest)).lines =
      (Opened.bytes bytes).lines ++ (Opened.bytes rest).lines := by
    rw [Opened.lines, Opened.lines, Opened.lines, ← List.map_append, Text.byteLines, Text.byteLines,
      Text.byteLines, ByteArray.data_append, Array.toList_append, complete.linesBy_append]
  have empty : (Opened.bytes rest).lines.isEmpty = rest.data.toList.isEmpty := by
    rw [Bool.eq_iff_iff, List.isEmpty_iff, List.isEmpty_iff, Opened.lines, List.map_eq_nil_iff]
    exact Text.linesBy_eq_nil_iff
  rw [ofBytes, ofBytes, apart, ofLines?_append (by rw [length_lines, cap]), empty]

end Reading

/-- The text with these lines, each with an end that is dropped again, and with what follows. -/
def composed (lines : List (List Char)) (rest : List Char) : String :=
  String.ofList ((lines.map (· ++ ['\r'])).flatMap (· ++ ['\n']) ++ rest)

lemma lines_composed (plain : ∀ line ∈ lines, '\n' ∉ line) (rest : List Char) :
    Text.lines (composed lines rest) = lines ++ Text.linesBy '\n' '\r' rest := by
  have plain' : ∀ line ∈ lines.map (· ++ ['\r']), '\n' ∉ line := by
    intro line mem inside
    obtain ⟨line, listed, rfl⟩ := List.mem_map.1 mem
    rcases List.mem_append.1 inside with inside | last
    · exact plain line listed inside
    · exact absurd (List.mem_singleton.1 last) (by decide)
  rw [Text.lines, composed, String.toList_ofList, (Text.complete_flatMap _).linesBy_append,
    Text.linesBy_flatMap plain', List.map_map]
  congr 1
  exact List.map_id'' Text.dropReturn_concat lines

/-- There is a text with the same lines up to the cap as bytes that can be read. -/
lemma exists_sameWithin {r : Reading} (h : Reading.ofBytes maxLines bytes = .ok r) :
    ∃ text, SameWithin maxLines bytes text := by
  obtain ⟨lines, readable, -⟩ := Reading.ofLines?_inv h
  have plain : ∀ line ∈ lines, '\n' ∉ line := by
    intro line listed
    have among : .ok line ∈ (Opened.bytes bytes).lines.take maxLines :=
      readable ▸ List.mem_map_of_mem listed
    exact FileSystem.noFeed_of_ok_mem_lines (List.mem_of_mem_take among)
  have length : lines.length = min maxLines (Text.byteLines bytes).length := by
    rw [← length_lines, ← List.length_take, readable, List.length_map]
  by_cases more : maxLines < (Text.byteLines bytes).length
  · -- some line has to follow
    have full : lines.length = maxLines := by omega
    have cut : Text.lines (composed lines ['x']) = lines ++ [['x']] := lines_composed plain ['x']
    refine ⟨composed lines ['x'], ?_, ?_⟩
    · rw [take_lines_eq_iff.1 readable, cut, List.take_left' full]
    · rw [cut]
      exact iff_of_true more (by rw [List.length_append, full]; exact Nat.lt_succ_self _)
  · have all : lines.length ≤ maxLines := by omega
    have cut := lines_composed plain []
    rw [Text.linesBy_nil, List.append_nil] at cut
    refine ⟨composed lines [], ?_, ?_⟩
    · rw [take_lines_eq_iff.1 readable, cut, List.take_of_length_le all]
    · rw [cut]
      exact iff_of_false more (Nat.not_lt.2 all)

/-- Bytes are read from a stream unless a line up to the cap cannot be read, and then as any text is
that has the same lines up to the cap, whatever stands behind them. -/
theorem ofBytes_agrees (maxLines : Nat) (bytes : ByteArray) :
    (∀ xs, (∃ e, Reading.ofLines? maxLines xs = .error e) ↔ ∃ e, .error e ∈ xs.take maxLines) ∧
    ((∃ e, Reading.ofBytes maxLines bytes = .error e) ↔
      ∃ line ∈ (Text.byteLines bytes).take maxLines, decoded line = none) ∧
    ((∃ r, Reading.ofBytes maxLines bytes = .ok r) → ∃ text, SameWithin maxLines bytes text) ∧
    (∀ text, SameWithin maxLines bytes text →
      Reading.ofBytes maxLines bytes = .ok (Reading.ofText maxLines text)) ∧
    (∀ text : String,
      Reading.ofBytes maxLines text.toUTF8 = .ok (Reading.ofText maxLines text)) ∧
    (∀ rest : ByteArray, Text.Complete 0x0A bytes.data.toList →
      (Text.byteLines bytes).length = maxLines →
      Reading.ofBytes maxLines (bytes ++ rest) = (Reading.ofBytes maxLines bytes).map fun r =>
        if rest.data.toList.isEmpty then r else r.report (.truncated maxLines)) :=
  ⟨fun _ => Reading.ofLines?_eq_error_iff, Reading.ofBytes_eq_error_iff,
    fun ⟨_, read⟩ => exists_sameWithin read, fun _ => Reading.ofBytes_of_sameWithin,
    Reading.ofBytes_toUTF8 maxLines, fun _ => Reading.ofBytes_append⟩

/-- Two lines with different ends, and a third one that is no text: under a cap of two lines it is
not looked at, under a cap of three it cannot be read. -/
theorem ofBytes_agrees_beyond :
    let text := "x: 1\r\ny\n"
    let bytes := text.toUTF8 ++ ⟨#[0xFF]⟩
    Reading.ofBytes 2 bytes = .ok ((Reading.ofText 2 text).report (.truncated 2)) ∧
      ∃ e, Reading.ofBytes 3 bytes = .error e := by
  intro text bytes
  obtain ⟨-, -, -, -, whole, beyond⟩ := ofBytes_agrees 2 text.toUTF8
  obtain ⟨-, invalid, -⟩ := ofBytes_agrees 3 bytes
  have complete : Text.Complete 0x0A text.toUTF8.data.toList := by
    have last : text.toUTF8.data.toList.getLast? = some 0x0A := by decide
    intro c mem
    rw [last] at mem
    exact (Option.some_inj.1 mem).symm
  have cap : (Text.byteLines text.toUTF8).length = 2 := by decide
  refine ⟨?_, invalid.2 ⟨[0xFF], by decide, by decide⟩⟩
  rw [beyond _ complete cap, whole]
  rfl

end PerfGate.ResultFile
