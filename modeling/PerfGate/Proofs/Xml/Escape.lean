import PerfGate.Proofs.Xml.Markup

/-!
# Escaped text reads back

`unescape_escape`: the run of text that stands for characters is read as these characters, whatever
they are. `Markup.ofText` is such a run as markup, which is nothing at all if there are no
characters; it is readable because no escaped character is a `<`.
-/

namespace PerfGate.Xml

/-- An escaped character is read as one character, from any place of a run on. -/
lemma unescapeFrom_escapeChar (total : Nat) (c : Char) (rest : List Char) (offset : Nat)
    (out : List Char) :
    ∃ offset', unescapeFrom total (escapeChar c ++ rest) offset none out =
      unescapeFrom total rest offset' none (c :: out) := by
  unfold escapeChar
  split
  · exact ⟨_, rfl⟩
  · exact ⟨_, rfl⟩
  · exact ⟨_, rfl⟩
  · exact ⟨_, rfl⟩
  · exact ⟨_, rfl⟩
  · rename_i hamp _ _
    exact ⟨_, by rw [List.singleton_append, unescapeFrom, if_neg hamp]⟩

lemma unescapeFrom_escape (total : Nat) (cs : List Char) (offset : Nat) (out : List Char) :
    unescapeFrom total (escape cs) offset none out = .ok (out.reverse ++ cs) := by
  induction cs generalizing offset out with
  | nil => simp [escape, unescapeFrom]
  | cons c cs ih =>
    obtain ⟨offset', h⟩ := unescapeFrom_escapeChar total c (escape cs) offset out
    rw [escape, List.flatMap_cons, ← escape, h, ih]
    simp

lemma unescape_escape (cs : List Char) : unescape (escape cs) = .ok cs :=
  unescapeFrom_escape _ cs 0 []

lemma escapeChar_ne_nil (c : Char) : escapeChar c ≠ [] := by
  unfold escapeChar
  split <;> simp

lemma lt_notMem_escapeChar (c : Char) : '<' ∉ escapeChar c := by
  unfold escapeChar
  split
  · decide
  · decide
  · decide
  · decide
  · decide
  · rename_i hlt _ _ _ _
    simpa using fun e : '<' = c => hlt e.symm

lemma escape_ne_nil {cs : List Char} (h : cs ≠ []) : escape cs ≠ [] := by
  cases cs with
  | nil => exact absurd rfl h
  | cons c cs =>
    rw [escape, List.flatMap_cons]
    exact List.append_ne_nil_of_left_ne_nil (escapeChar_ne_nil c) _

lemma lt_notMem_escape (cs : List Char) : '<' ∉ escape cs := by
  rw [escape, List.mem_flatMap]
  rintro ⟨c, -, hc⟩
  exact lt_notMem_escapeChar c hc

namespace Markup

/-- The characters as text. -/
def ofText (cs : List Char) : Markup :=
  if cs.isEmpty then nil else text (escape cs) nil

lemma events_ofText (cs : List Char) : (ofText cs).events = textEvents cs := by
  unfold ofText textEvents
  split <;> rfl

lemma readable_ofText (cs : List Char) : (ofText cs).Readable := by
  unfold ofText
  split
  · trivial
  · rename_i h
    have nonempty : cs ≠ [] := by simpa using h
    exact ⟨escape_ne_nil nonempty, lt_notMem_escape cs, rfl, trivial⟩

end Markup

end PerfGate.Xml
