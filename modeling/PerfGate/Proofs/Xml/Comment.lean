import PerfGate.Proofs.Xml.Markup

/-!
# Comments and literal sections

What stands between the `<!--` and the `-->` of a comment, or between the brackets of a literal
section, may look like markup. `next_comment` and `next_cdata` say that the reader takes such a
piece as a whole, wherever it stands: no `>` inside is its end, as the state of the scan never holds
what the end needs before the characters that end it.
-/

namespace PerfGate.Xml

/-- The characters may stand in a comment: there are no two hyphens in a row, those of the end
included. -/
def IsComment (body : List Char) : Prop :=
  ¬ ['-', '-'] <:+: body ++ ['-']

/-- A comment. -/
def commentChars (body : List Char) : List Char :=
  "<!--".toList ++ body ++ "-->".toList

/-- The characters may stand in a literal section, which has an end of its own. -/
def IsLiteral (cs : List Char) : Prop :=
  ¬ [']', ']', '>'] <:+: cs

instance (body : List Char) : Decidable (IsComment body) :=
  inferInstanceAs (Decidable ¬ ['-', '-'] <:+: body ++ ['-'])

instance (cs : List Char) : Decidable (IsLiteral cs) :=
  inferInstanceAs (Decidable ¬ [']', ']', '>'] <:+: cs)

lemma Event.chars_cdata (cs : List Char) : (cdata cs).chars =
    '<' :: '!' :: '[' :: 'C' :: 'D' :: 'A' :: 'T' :: 'A' :: '[' :: (cs ++ [']', ']', '>']) := rfl

lemma commentChars_eq (body : List Char) :
    commentChars body = '<' :: '!' :: '-' :: '-' :: (body ++ ['-', '-', '>']) := rfl

lemma IsComment.tail {c : Char} {body : List Char} (h : IsComment (c :: body)) : IsComment body :=
  fun inside => h (inside.trans (List.infix_cons (List.infix_refl _)))

lemma IsComment.head?_ne {body : List Char} (h : IsComment ('-' :: body)) :
    body.head? ≠ some '-' := by
  intro first
  obtain ⟨rest, rfl⟩ := List.head?_eq_some_iff.1 first
  exact h ⟨[], rest ++ ['-'], rfl⟩

/-- The state of a scan for the end of a comment, where `body` is still to come: more than one
hyphen in a row counts only as long as the comment is too short to end. -/
lemma scanOnto_commentEnd {body : List Char} (h : IsComment body) {length dashes : Nat}
    (opened : 3 ≤ length) (short : dashes ≤ 1 ∨ length ≤ 4)
    (apart : 4 ≤ length → 1 ≤ dashes → body.head? ≠ some '-') (before rest : List Char) :
    scanOnto commentEnd (length, dashes) before (body ++ '-' :: '-' :: '>' :: rest) =
      some (before.reverse ++ body ++ ['-', '-'], rest) := by
  induction body generalizing length dashes before with
  | nil =>
    have first : commentEnd (length, dashes) '-' = some (length + 1, dashes + 1) := rfl
    have second : commentEnd (length + 1, dashes + 1) '-' = some (length + 2, dashes + 2) := rfl
    have ends : commentEnd (length + 2, dashes + 2) '>' = none := by
      rw [commentEnd, if_pos]
      exact ⟨rfl, by omega, by omega⟩
    simp [scanOnto, first, second, ends]
  | cons c body ih =>
    have goes : commentEnd (length, dashes) c = some (length + 1, inRow '-' dashes c) := by
      rw [commentEnd, if_neg]
      omega
    rw [List.cons_append, scanOnto, goes]
    simp only
    have inside : inRow '-' dashes c ≤ 1 ∨ length + 1 ≤ 4 := by
      unfold inRow
      split
      · rename_i hyphen
        by_cases long : 4 ≤ length
        · have none : ¬ 1 ≤ dashes := fun some => apart long some (by rw [hyphen]; rfl)
          omega
        · omega
      · exact .inl (Nat.zero_le _)
    rw [ih h.tail (by omega) inside]
    · simp
    · intro _ hyphens
      unfold inRow at hyphens
      split at hyphens
      · rename_i hyphen
        rw [hyphen] at h
        exact h.head?_ne
      · omega

/-- The same for a literal section, where `brackets` stand in front of what is to come. -/
lemma scanOnto_cdataEnd {cs : List Char} {brackets : Nat}
    (h : IsLiteral (List.replicate brackets ']' ++ cs)) (before rest : List Char) :
    scanOnto cdataEnd brackets before (cs ++ ']' :: ']' :: '>' :: rest) =
      some (before.reverse ++ cs ++ [']', ']'], rest) := by
  induction cs generalizing brackets before with
  | nil =>
    have first : cdataEnd brackets ']' = some (brackets + 1) := rfl
    have second : cdataEnd (brackets + 1) ']' = some (brackets + 2) := rfl
    have ends : cdataEnd (brackets + 2) '>' = none := if_pos ⟨rfl, by omega⟩
    simp [scanOnto, first, second, ends]
  | cons c cs ih =>
    have goes : cdataEnd brackets c = some (inRow ']' brackets c) := by
      rw [cdataEnd, if_neg]
      rintro ⟨rfl, two⟩
      obtain ⟨n, rfl⟩ := Nat.exists_eq_add_of_le' two
      refine h ⟨List.replicate n ']', cs, ?_⟩
      rw [← List.replicate_append_replicate]
      simp [List.replicate]
    rw [List.cons_append, scanOnto, goes]
    simp only
    rw [ih]
    · simp
    · unfold inRow
      split
      · rename_i bracket
        rw [bracket] at h
        rw [List.replicate_succ', List.append_assoc]
        exact h
      · rw [List.replicate_zero, List.nil_append]
        intro inside
        refine h (inside.trans ⟨List.replicate brackets ']' ++ [c], [], ?_⟩)
        simp

namespace Reader

variable {r : Reader} {more : List Char}

lemma next_comment {body : List Char} (h : IsComment body)
    (hr : r.rest = commentChars body ++ more) :
    ∃ p, r.next = .event (.aside .comment) p ⟨more, p, r.opened⟩ := by
  have begins : r.rest = '<' :: '!' :: '-' :: '-' :: (body ++ '-' :: '-' :: '>' :: more) := by
    rw [hr, commentChars_eq]
    simp only [List.cons_append, List.append_assoc, List.nil_append]
  have scanned : scan commentEnd (0, 0) ('!' :: '-' :: '-' :: (body ++ '-' :: '-' :: '>' :: more)) =
      some ('!' :: '-' :: '-' :: body ++ ['-', '-'], more) :=
    scanOnto_commentEnd h (Nat.le_refl 3) (.inr (by decide))
      (fun long => absurd long (by decide)) _ _
  have opening : beginsWith "!--" ('!' :: '-' :: '-' :: body ++ ['-', '-']) = true := rfl
  have dispatch : r.next = comment ⟨'!' :: '-' :: '-' :: (body ++ '-' :: '-' :: '>' :: more),
      r.offset + 1, r.opened⟩ := by
    simp [next, begins, markup, declaration]
  rw [dispatch, comment]
  simp only [scanned, opening, if_true, past]
  exact ⟨_, rfl⟩

lemma next_cdata {cs : List Char} (h : IsLiteral cs)
    (hr : r.rest = (Event.cdata cs).chars ++ more) :
    ∃ p, r.next = .event (.cdata cs) p ⟨more, p, r.opened⟩ := by
  have begins : r.rest = '<' :: ('!' :: '[' :: 'C' :: 'D' :: 'A' :: 'T' :: 'A' :: '[' ::
      (cs ++ ']' :: ']' :: '>' :: more)) := by
    rw [hr, Event.chars_cdata, List.cons_append]
    simp only [List.cons_append, List.append_assoc, List.nil_append]
  have fresh : IsLiteral (List.replicate 0 ']' ++ cs) := h
  have scanned : scan cdataEnd 0 ('!' :: '[' :: 'C' :: 'D' :: 'A' :: 'T' :: 'A' :: '[' ::
      (cs ++ ']' :: ']' :: '>' :: more)) =
        some ('!' :: '[' :: 'C' :: 'D' :: 'A' :: 'T' :: 'A' :: '[' :: cs ++ [']', ']'], more) :=
    scanOnto_cdataEnd fresh ['[', 'A', 'T', 'A', 'D', 'C', '[', '!'] more
  have opening : beginsWith "![CDATA["
      ('!' :: '[' :: 'C' :: 'D' :: 'A' :: 'T' :: 'A' :: '[' :: cs ++ [']', ']']) = true := rfl
  have inside : (('!' :: '[' :: 'C' :: 'D' :: 'A' :: 'T' :: 'A' :: '[' :: cs ++
      [']', ']']).drop 8).dropLast.dropLast = cs := by
    change (cs ++ [']', ']']).dropLast.dropLast = cs
    simp
  have dispatch : r.next = cdata ⟨'!' :: '[' :: 'C' :: 'D' :: 'A' :: 'T' :: 'A' :: '[' ::
      (cs ++ ']' :: ']' :: '>' :: more), r.offset + 1, r.opened⟩ := by
    simp [next, begins, markup, declaration]
  rw [dispatch, cdata]
  simp only [scanned, opening, if_true, past, inside]
  exact ⟨_, rfl⟩

end Reader

end PerfGate.Xml
