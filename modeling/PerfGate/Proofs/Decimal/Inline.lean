import PerfGate.Proofs.Decimal.Fixed
import PerfGate.Proofs.Text.Marked

/-!
# Numbers within a line

However a number is written, its text has no line feed and no colon: it is made up of digits, a
point, signs and an exponent, or it is a word.
-/

namespace PerfGate.Decimal

open Text (IsInline)

lemma isInline_of_digits {s : String} (h : ∀ c ∈ s.toList, c.isDigit ∨ c = '.') : IsInline s := by
  intro c mem
  rcases h c mem with digit | rfl
  · constructor <;> rintro rfl <;> exact absurd digit (by decide)
  · decide

lemma isInline_toString (n : ℕ) : IsInline (toString n) :=
  isInline_of_digits fun _ mem => .inl (isDigit_of_mem_toString mem)

lemma isInline_numeral (n : Numeral) : IsInline n.plain :=
  isInline_of_digits (read_plain n).1.1

lemma isInline_minus (negative : Bool) : IsInline (minus negative) := by
  cases negative <;> decide

lemma isInline_infinity (negative : Bool) : IsInline (infinity negative) := by
  cases negative <;> decide

lemma isInline_plain (x : Float) : IsInline (plain x) := by
  rcases plain_cases x with ⟨text, -⟩ | ⟨text, -⟩ | ⟨-, n, text, -⟩
  · rw [text]
    decide
  · rw [text]
    exact isInline_infinity _
  · rw [text]
    exact (isInline_minus _).append (isInline_numeral n)

lemma isInline_fixed (places : ℕ) (x : Float) : IsInline (fixed places x) := by
  rcases fixed_cases places x with ⟨-, text, -⟩ | ⟨negative, m, q, -, text, -⟩
  · rw [text]
    exact isInline_plain x
  · rw [text]
    exact (isInline_minus negative).append (isInline_numeral _)

lemma isInline_signedFixed (places : ℕ) (x : Float) : IsInline (signedFixed places x) := by
  have sign (negative : Bool) : IsInline (if negative then "-" else "+") := by
    cases negative <;> decide
  unfold signedFixed
  cases Binary.ofFloat x with
  | nan =>
    show IsInline "NaN"
    decide
  | infinite negative => exact (sign negative).append (isInline_infinity false)
  | finite negative m q =>
    simp only [fixedDigits_eq]
    exact (sign negative).append (isInline_numeral _)

lemma isInline_withPoint (n places : ℕ) : IsInline (withPoint (toString n) places) := by
  obtain ⟨ws, ps, text, -, -, joined⟩ := toList_withPoint (toString n) places
  have digits : ∀ c ∈ ws ++ ps, c.isDigit := by
    rw [joined]
    exact fun c mem => isDigit_of_mem_padded mem
  apply isInline_of_digits
  intro c mem
  rw [text, List.mem_append, List.mem_cons] at mem
  rcases mem with before | point | after
  · exact .inl (digits c (List.mem_append_left _ before))
  · exact .inr point
  · exact .inl (digits c (List.mem_append_right _ after))

lemma isInline_pointed (n : Numeral) : IsInline n.pointed := by
  unfold Numeral.pointed
  split
  · exact (isInline_numeral n).append (by decide)
  · exact isInline_numeral n

lemma isInline_scientific (n : Numeral) : IsInline n.scientific := by
  have mantissa : IsInline (if (toString n.digits).length = 1 then toString n.digits
      else withPoint (toString n.digits) ((toString n.digits).length - 1)) := by
    split
    · exact isInline_toString _
    · exact isInline_withPoint _ _
  have sign (h : Prop) [Decidable h] : IsInline (if h then "e-" else "e+") := by
    split <;> decide
  exact (mantissa.append (sign _)).append (isInline_toString _)

/-- The text of a number in a document. -/
lemma isInline_literal (x : Float) : IsInline ((literal? x).getD "null") := by
  unfold literal?
  cases Binary.ofFloat x with
  | nan =>
    show IsInline "null"
    decide
  | infinite negative =>
    show IsInline "null"
    decide
  | finite negative m q =>
    cases m with
    | zero => exact (isInline_minus negative).append (by decide)
    | succ m =>
      simp only [Option.getD_some]
      apply (isInline_minus negative).append
      split
      · exact isInline_pointed _
      · exact isInline_scientific _

end PerfGate.Decimal
