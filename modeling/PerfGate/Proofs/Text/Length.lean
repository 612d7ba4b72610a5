import PerfGate.Proofs.Text.Bytes
import PerfGate.Text.Utf8

/-!
# Lengths of encoded texts

The number of bytes that encode characters adds up over them (`utf8Length_append`), and over a whole
text it is the number of its bytes (`size_of_ofUtf8`). Bytes that are no text are found to be none
at a place among them (`le_size_of_ofUtf8`).
-/

namespace PerfGate.Text

variable {bytes : ByteArray}

/-- What was counted before is added to the length. -/
lemma foldl_utf8Size (n : Nat) (cs : List Char) :
    cs.foldl (fun n c => n + c.utf8Size) n = n + utf8Length cs := by
  induction cs generalizing n with
  | nil => rfl
  | cons c cs ih =>
    rw [utf8Length, List.foldl_cons, List.foldl_cons, ih, ih, Nat.zero_add, Nat.add_assoc]

@[simp]
lemma utf8Length_cons (c : Char) (cs : List Char) :
    utf8Length (c :: cs) = c.utf8Size + utf8Length cs := by
  rw [utf8Length, List.foldl_cons, foldl_utf8Size, Nat.zero_add]

@[simp]
lemma utf8Length_append (cs ds : List Char) :
    utf8Length (cs ++ ds) = utf8Length cs + utf8Length ds := by
  rw [utf8Length, List.foldl_append, foldl_utf8Size]
  rfl

lemma length_utf8EncodeChars (cs : List Char) :
    (cs.flatMap String.utf8EncodeChar).length = utf8Length cs := by
  induction cs with
  | nil => rfl
  | cons c cs ih =>
    rw [List.flatMap_cons, List.length_append, String.length_utf8EncodeChar, ih, utf8Length_cons]

lemma size_toUTF8 (text : String) : text.toUTF8.size = utf8Length text.toList := by
  rw [← ByteArray.size_data, ← Array.length_toList, toList_toUTF8, length_utf8EncodeChars]

lemma size_of_ofUtf8 {text : String} (h : ofUtf8 bytes = .ok text) :
    bytes.size = utf8Length text.toList := by
  unfold ofUtf8 at h
  split at h
  · rename_i decoded
    cases h
    rw [← fromUTF8?_eq_some.1 decoded, size_toUTF8]
  · cases h

lemma validLengthFrom_le {i : Nat} (within : i ≤ bytes.size) :
    validLengthFrom bytes i ≤ bytes.size := by
  fun_induction validLengthFrom bytes i with
  | case1 i inside c decoded ih => exact ih (ByteArray.le_size_of_utf8DecodeChar?_eq_some decoded)
  | case2 => exact within
  | case3 => exact within

lemma le_size_of_ofUtf8 {length : Nat} (h : ofUtf8 bytes = .error length) :
    length ≤ bytes.size := by
  unfold ofUtf8 at h
  split at h
  · cases h
  · cases h
    exact validLengthFrom_le (Nat.zero_le _)

end PerfGate.Text
