import PerfGate.Proofs.Text.Line

/-!
# Lines of encoded texts

A text can be cut into lines before it is encoded or after (`Encodes.linesBy`), as no other
character has the byte of a line feed or of a carriage return in its encoding. So the lines of a
file that holds a text are the lines of the text (`byteLines_toUTF8`).
-/

namespace PerfGate.Text

lemma flatMap_intercalate {α β : Type} (f : α → List β) (separator : List α)
    (pieces : List (List α)) :
    (separator.intercalate pieces).flatMap f =
      (separator.flatMap f).intercalate (pieces.map (·.flatMap f)) := by
  induction pieces with
  | nil => rfl
  | cons piece pieces ih =>
    cases pieces with
    | nil => simp only [List.map_cons, List.map_nil, List.intercalate_singleton]
    | cons next pieces =>
      rw [List.intercalate_cons_cons, List.flatMap_append, List.flatMap_append, ih, List.map_cons,
        List.map_cons, List.map_cons, List.intercalate_cons_cons]

/-! ## Encodings -/

/-- A character is encoded as one unit, which no other character has in its encoding. -/
structure Encodes {α β : Type} (encode : α → List β) (c : α) (unit : β) : Prop where
  alone : encode c = [unit]
  only : ∀ d, unit ∈ encode d → d = c

namespace Encodes

variable {α β : Type} {encode : α → List β} {feed ret : α} {feed' ret' : β}

lemma not_mem (h : Encodes encode feed feed') {line : List α} (plain : feed ∉ line) :
    feed' ∉ line.flatMap encode := by
  rw [List.mem_flatMap]
  rintro ⟨c, mem, has⟩
  exact plain (h.only c has ▸ mem)

variable [BEq α] [LawfulBEq α] [BEq β] [LawfulBEq β]

lemma splitOn (h : Encodes encode feed feed') (cs : List α) :
    (cs.flatMap encode).splitOn feed' = (cs.splitOn feed).map (·.flatMap encode) := by
  have joined : cs.flatMap encode =
      [feed'].intercalate ((cs.splitOn feed).map (·.flatMap encode)) := by
    have single : [feed].flatMap encode = [feed'] := by
      rw [List.flatMap_singleton, h.alone]
    rw [← single, ← flatMap_intercalate, List.intercalate_splitOn]
  rw [joined]
  refine List.splitOn_intercalate feed' (fun line mem => ?_) ?_
  · obtain ⟨piece, cut, rfl⟩ := List.mem_map.1 mem
    exact h.not_mem (not_mem_of_mem_splitOn cut)
  · exact List.map_eq_nil_iff.not.2 (List.splitOn_ne_nil feed cs)

variable (nonempty : ∀ c, encode c ≠ [])
include nonempty

lemma dropReturn (h : Encodes encode ret ret') (line : List α) :
    dropReturn ret' (line.flatMap encode) = (dropReturn ret line).flatMap encode := by
  cases line using List.reverseRecOn with
  | nil => rfl
  | append_singleton line c =>
    by_cases same : c = ret
    · subst same
      rw [List.flatMap_append, List.flatMap_singleton, h.alone, Text.dropReturn,
        List.getLast?_concat, Text.dropReturn, List.getLast?_concat]
      simp
    · have kept : Text.dropReturn ret (line ++ [c]) = line ++ [c] := by
        refine dropReturn_of_last fun d last => ?_
        rw [List.getLast?_concat] at last
        cases last
        exact same
      rw [kept]
      refine dropReturn_of_last fun unit last => ?_
      rintro rfl
      rw [List.flatMap_append, List.flatMap_singleton,
        List.getLast?_append_of_ne_nil _ (nonempty c)] at last
      exact same (h.only c (List.mem_of_getLast? last))

/-- An encoded text is cut into its encoded lines. -/
lemma linesBy (line : Encodes encode feed feed') (back : Encodes encode ret ret') (cs : List α) :
    linesBy feed' ret' (cs.flatMap encode) = (linesBy feed ret cs).map (·.flatMap encode) := by
  have ended (pieces : List (List α)) :
      ((pieces.map (·.flatMap encode)).dropLast).map (Text.dropReturn ret') =
        (pieces.dropLast.map (Text.dropReturn ret)).map (·.flatMap encode) := by
    rw [← List.map_dropLast, List.map_map, List.map_map]
    exact List.map_congr_left fun piece _ => back.dropReturn nonempty piece
  have isEmpty (last : List α) : (last.flatMap encode).isEmpty = last.isEmpty := by
    cases last with
    | nil => rfl
    | cons c cs => simp [nonempty c]
  rw [Text.linesBy, Text.linesBy, line.splitOn, ended, List.getLast?_map]
  cases (cs.splitOn feed).getLast? with
  | none => rfl
  | some last =>
    rw [Option.map_some]
    simp only
    rw [isEmpty]
    split
    · rfl
    · rw [List.map_append]
      rfl

end Encodes

/-! ## Bytes -/

/-- Characters beyond ASCII are encoded without the bytes of ASCII. -/
lemma le_of_mem_utf8EncodeChar {c : Char} (beyond : ¬ c.toNat ≤ 127) {unit : UInt8}
    (mem : unit ∈ String.utf8EncodeChar c) : 128 ≤ unit.toNat := by
  have skip : ¬ c.val.toNat ≤ 127 := beyond
  rw [String.utf8EncodeChar, if_neg skip] at mem
  split at mem
  · simp only [List.mem_cons, List.not_mem_nil, or_false] at mem
    rcases mem with rfl | rfl <;> rw [UInt8.toNat_ofNat'] <;> omega
  split at mem
  · simp only [List.mem_cons, List.not_mem_nil, or_false] at mem
    rcases mem with rfl | rfl | rfl <;> rw [UInt8.toNat_ofNat'] <;> omega
  · simp only [List.mem_cons, List.not_mem_nil, or_false] at mem
    rcases mem with rfl | rfl | rfl | rfl <;> rw [UInt8.toNat_ofNat'] <;> omega

lemma encodes_ascii {c : Char} (ascii : c.toNat ≤ 127) :
    Encodes String.utf8EncodeChar c (UInt8.ofNat c.toNat) where
  alone := by
    rw [String.utf8EncodeChar]
    exact if_pos ascii
  only d mem := by
    have value : (UInt8.ofNat c.toNat).toNat = c.toNat := by
      rw [UInt8.toNat_ofNat']
      omega
    by_cases ascii' : d.toNat ≤ 127
    · have single : String.utf8EncodeChar d = [UInt8.ofNat d.toNat] := by
        rw [String.utf8EncodeChar]
        exact if_pos ascii'
      rw [single, List.mem_singleton] at mem
      have same := congrArg UInt8.toNat mem
      rw [value, UInt8.toNat_ofNat'] at same
      have equal : d.toNat = c.toNat := by omega
      exact Char.ext (UInt32.toNat_inj.1 equal)
    · have high := le_of_mem_utf8EncodeChar ascii' mem
      omega

lemma toList_toUTF8 (text : String) :
    text.toUTF8.data.toList = text.toList.flatMap String.utf8EncodeChar := by
  rw [String.toUTF8_eq_toByteArray, ← String.utf8Encode_toList, List.utf8Encode,
    List.toList_data_toByteArray]

lemma fromUTF8?_eq_some {bytes : ByteArray} {text : String} :
    String.fromUTF8? bytes = some text ↔ text.toUTF8 = bytes := by
  constructor
  · intro read
    obtain ⟨valid, same⟩ := Option.dite_none_right_eq_some.1 read
    cases same
    rfl
  · rintro rfl
    exact dif_pos text.isValidUTF8

lemma fromUTF8?_flatMap (line : List Char) :
    String.fromUTF8? ⟨(line.flatMap String.utf8EncodeChar).toArray⟩ =
      some (String.ofList line) := by
  rw [fromUTF8?_eq_some]
  refine ByteArray.ext (Array.toList_inj.1 ?_)
  rw [toList_toUTF8, String.toList_ofList]

/-- The lines of a file that holds a text are the lines of the text. -/
lemma byteLines_toUTF8 (text : String) :
    byteLines text.toUTF8 = (lines text).map (·.flatMap String.utf8EncodeChar) := by
  have feed := encodes_ascii (c := '\n') (by decide)
  have ret := encodes_ascii (c := '\r') (by decide)
  rw [byteLines, toList_toUTF8]
  exact feed.linesBy (fun _ => String.utf8EncodeChar_ne_nil) ret text.toList

/-- A line of a file that can be read has no line feed. -/
lemma noFeed_of_mem_byteLines {bytes : ByteArray} {line : List UInt8} {text : String}
    (mem : line ∈ byteLines bytes) (read : String.fromUTF8? ⟨line.toArray⟩ = some text) :
    '\n' ∉ text.toList := by
  have whole : line = text.toList.flatMap String.utf8EncodeChar := by
    rw [← toList_toUTF8, fromUTF8?_eq_some.1 read]
  intro inside
  have feed := encodes_ascii (c := '\n') (by decide)
  have unit : 0x0A ∈ String.utf8EncodeChar '\n' := by
    rw [feed.alone]
    exact List.mem_singleton_self _
  refine not_mem_of_mem_linesBy mem ?_
  rw [whole]
  exact List.mem_flatMap_of_mem inside unit

end PerfGate.Text
