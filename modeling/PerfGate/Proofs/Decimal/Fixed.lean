import PerfGate.Proofs.Decimal.ReadBack

/-!
# Doubles with a fixed number of places

A double that is written with a fixed number of places is read as another one (`refixed`), that
which is nearest to the written number. It is finite if the first one is (`isFinite_refixed`): the
greatest double is a whole number, so rounding to places does not lead beyond it.
-/

namespace PerfGate.Decimal

variable {x : Float} {places m : ℕ} {q : ℤ}

/-- The number `m * 2 ^ q`, rounded to so many places, a half to even. -/
def fixedNumeral (places m : ℕ) (q : ℤ) : Numeral :=
  ⟨divHalfEven (numerator m q * Nat.pow 10 places) (denominator q), -places⟩

/-- The double that is read where another one was written with so many places. -/
def refixed (places : ℕ) (x : Float) : Float :=
  match Binary.ofFloat x with
  | .finite negative m q => (fixedNumeral places m q).toFloat negative
  | _ => x

/-! ## Texts -/

lemma fixedDigits_eq (places m : ℕ) (q : ℤ) :
    fixedDigits places m q = (fixedNumeral places m q).plain := by
  unfold fixedDigits fixedNumeral Numeral.plain
  simp only
  split
  · rename_i whole
    rw [whole]
    exact (String.append_empty).symm
  · rename_i fraction
    rw [if_neg (by omega), neg_neg, Int.toNat_natCast]

/-- What is written of a double: a word, or a numeral. -/
lemma fixed_cases (places : ℕ) (x : Float) :
    (isFinite x = false ∧ fixed places x = plain x ∧ refixed places x = x) ∨
      ∃ negative m q, Binary.ofFloat x = .finite negative m q ∧
        fixed places x = minus negative ++ (fixedNumeral places m q).plain ∧
        refixed places x = (fixedNumeral places m q).toFloat negative := by
  unfold isFinite fixed plain refixed
  cases view : Binary.ofFloat x with
  | nan => exact .inl ⟨rfl, rfl, rfl⟩
  | infinite negative => exact .inl ⟨rfl, rfl, rfl⟩
  | finite negative m q =>
    have digits := congrArg (minus negative ++ ·) (fixedDigits_eq places m q)
    exact .inr ⟨negative, m, q, rfl, digits, rfl⟩

theorem readFloat_fixed (places : ℕ) (x : Float) :
    readFloat (fixed places x) = some (refixed places x) := by
  rcases fixed_cases places x with ⟨-, text, same⟩ | ⟨negative, m, q, -, text, read⟩
  · rw [text, same, readFloat_plain]
  · rw [text, read, readFloat_numeral]

/-- A finite number has no blank in its text, which is not empty. -/
lemma not_isBlank_fixed (finite : isFinite x) :
    ∀ c ∈ (fixed places x).toList, Text.isBlank c = false := by
  rcases fixed_cases places x with ⟨infinite, -⟩ | ⟨negative, m, q, -, text, -⟩
  · rw [infinite] at finite
    cases finite
  · rw [text]
    exact not_isBlank_numeral negative _

lemma fixed_ne_nil (finite : isFinite x) : (fixed places x).toList ≠ [] := by
  rcases fixed_cases places x with ⟨infinite, -⟩ | ⟨negative, m, q, -, text, -⟩
  · rw [infinite] at finite
    cases finite
  · obtain ⟨c, first, -⟩ := (read_plain (fixedNumeral places m q)).1.2
    rw [text, String.toList_append]
    refine List.append_ne_nil_of_right_ne_nil _ ?_
    rintro empty
    rw [empty] at first
    cases first

/-! ## Values -/

/-- The greatest double is a whole number. -/
lemma bitsValue_greatest :
    bitsValue (infinityBits - 1) = ((2 * leadingBit - 1) * 2 ^ 971 : ℕ) := by
  have greatest := bitsValue_eq (k := 2045) (m := 2 * leadingBit - 1) (.inr (by decide)) (by decide)
  have exponent : ((2045 : ℕ) : ℤ) + minExponent = (971 : ℕ) := rfl
  rw [exponent, zpow_natCast] at greatest
  rw [Nat.cast_mul, Nat.cast_pow]
  exact greatest

lemma digits_fixedNumeral (places m : ℕ) (q : ℤ) :
    (fixedNumeral places m q).digits = halfEven (m * 2 ^ q * 10 ^ places) := by
  have quotient : ((numerator m q * Nat.pow 10 places : ℕ) : ℚ) / denominator q =
      m * 2 ^ q * 10 ^ places := by
    rw [← numerator_div_denominator, Nat.pow_eq]
    push_cast
    ring
  rw [fixedNumeral, divHalfEven_eq (denominator_pos q), quotient]

lemma value_fixedNumeral (places m : ℕ) (q : ℤ) : (fixedNumeral places m q).value =
    halfEven (m * 2 ^ q * 10 ^ places) / 10 ^ places := by
  rw [Numeral.value, digits_fixedNumeral, fixedNumeral, zpow_neg, zpow_natCast, div_eq_mul_inv]

/-- Rounding to places does not lead beyond the greatest double. -/
lemma value_fixedNumeral_le (places : ℕ) (h : m * 2 ^ q ≤ bitsValue (infinityBits - 1)) :
    (fixedNumeral places m q).value ≤ bitsValue (infinityBits - 1) := by
  have scale : (0 : ℚ) < 10 ^ places := by positivity
  rw [bitsValue_greatest] at h ⊢
  generalize (2 * leadingBit - 1) * 2 ^ 971 = greatest at h ⊢
  have scaled : (m : ℚ) * 2 ^ q * 10 ^ places ≤ (greatest * 10 ^ places : ℕ) := by
    push_cast
    exact mul_le_mul_of_nonneg_right h scale.le
  have digits := halfEven_mono scaled
  rw [halfEven_natCast] at digits
  rw [value_fixedNumeral, div_le_iff₀ scale]
  exact_mod_cast digits

/-- The double that is read keeps the sign, and is nearest to the number that was written. -/
lemma parts_refixed_of_view {negative : Bool} (places : ℕ)
    (view : Binary.ofFloat x = .finite negative m q) :
    isNegative (refixed places x) = negative ∧
      magnitudeBits (refixed places x) = roundBits (fixedNumeral places m q).value := by
  have read : refixed places x = (fixedNumeral places m q).toFloat negative := by
    rw [refixed, view]
  rw [read, Numeral.toFloat, nearestBits_numeral]
  exact parts_ofMagnitude negative (roundBits_le _)

/-- It is below infinity, as the greatest double is. -/
lemma magnitudeBits_refixed_lt (places : ℕ) (finite : magnitudeBits x < infinityBits) :
    magnitudeBits (refixed places x) < infinityBits := by
  cases view : Binary.ofFloat x with
  | nan => exact absurd (parts_of_nan view) (Nat.lt_asymm finite)
  | infinite negative => exact absurd (parts_of_infinite view).2 finite.ne
  | finite negative m q =>
    obtain ⟨-, below, magnitude⟩ := parts_of_finite view
    have greatest : m * (2 : ℚ) ^ q ≤ bitsValue (infinityBits - 1) := by
      rw [← magnitude]
      exact strictMono_bitsValue.monotone (Nat.le_pred_of_lt below)
    have bound := roundBits_mono (value_fixedNumeral_le places greatest)
    rw [roundBits_bitsValue (Nat.sub_le _ _), ← (parts_refixed_of_view places view).2] at bound
    exact Nat.lt_of_le_of_lt bound (by decide)

theorem isFinite_refixed (finite : isFinite x) : isFinite (refixed places x) :=
  isFinite_of_lt_infinityBits (magnitudeBits_refixed_lt places (lt_infinityBits_of_isFinite finite))

end PerfGate.Decimal
