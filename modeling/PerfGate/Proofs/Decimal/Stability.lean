import PerfGate.Proofs.Decimal.Fixed
import PerfGate.Proofs.Decimal.Nearest

/-!
# Numbers that are written again

A double is written as its exact number is rounded, and read as the nearest double
(`isRefixed_refixed`). A double that was read where another one was written with so many places is
written with the same digits (`fixed_refixed`). The number in the text is the nearest one with so
many places, and the double that is read is the nearest to it; since the first double is a double
too, the second one is not farther away. Either is then rounded to the same number, whatever the
distance of doubles is there: a double that lies in the middle was rounded to an even number, and
the even number is what a half goes to from either side (`halfEven_eq_of_not_farther`).
-/

namespace PerfGate.Decimal

variable {x y : ℚ} {n : ℕ}

/-! ## One pass -/

/-- How a double is written with so many places, and which one is read then. The text is that of the
exact number, rounded half to even, and what is read is the double nearest to the number in the
text. Both have the sign of the double, also if it is that of a zero. -/
structure IsRefixed (places : ℕ) (x y : Float) : Prop where
  text : fixed places x = minus (isNegative x) ++
    Numeral.plain ⟨halfEven (|value x| * 10 ^ places), -places⟩
  sign : isNegative y = isNegative x
  nearest : IsNearest y
    (signed (isNegative x) (halfEven (|value x| * 10 ^ places) / 10 ^ places))

theorem isRefixed_refixed {x : Float} (places : ℕ) (finite : isFinite x) :
    IsRefixed places x (refixed places x) := by
  rcases fixed_cases places x with ⟨infinite, -⟩ | ⟨negative, m, q, view, text, -⟩
  · rw [infinite] at finite
    cases finite
  obtain ⟨sign, -, magnitude⟩ := parts_of_finite view
  have parts := parts_refixed_of_view places view
  have exact : |value x| = m * 2 ^ q := by
    rw [value, abs_signed _ (bitsValue_nonneg _), magnitude]
  have numeral : fixedNumeral places m q =
      ⟨halfEven (|value x| * 10 ^ places), -places⟩ := by
    rw [exact, ← digits_fixedNumeral]
    rfl
  refine ⟨?_, parts.1.trans sign.symm, ?_⟩
  · rw [text, sign, numeral]
  · rw [value_fixedNumeral] at parts
    rw [sign, exact]
    exact isNearest_of_parts (by positivity) parts

/-! ## The next pass -/

/-- A number from the middle is rounded to an even one. -/
lemma halfEven_even (nonneg : 0 ≤ x) (middle : |(halfEven x : ℚ) - x| = 1 / 2) :
    halfEven x % 2 = 0 := by
  have floor := Nat.floor_le nonneg
  have above := Nat.lt_floor_add_one x
  unfold halfEven at middle ⊢
  split at middle
  · rename_i low
    rw [abs_sub_comm, abs_of_nonneg (sub_nonneg.2 floor)] at middle
    exact absurd middle low.ne
  rename_i high
  split at middle
  · rename_i next
    push_cast at middle
    rw [abs_of_pos (by linarith)] at middle
    linarith
  · rename_i half
    rw [if_neg high, if_neg half]
    omega

/-- From both sides a half goes to the even number. -/
lemma halfEven_of_even (nonneg : 0 ≤ x) (even : n % 2 = 0) (middle : |(n : ℚ) - x| = 1 / 2) :
    halfEven x = n := by
  rcases (abs_eq (by norm_num)).1 middle with above | below
  · -- the even number is the upper neighbour
    have positive : n ≠ 0 := by
      rintro rfl
      rw [Nat.cast_zero] at above
      linarith
    obtain ⟨k, rfl⟩ := Nat.exists_eq_succ_of_ne_zero positive
    push_cast at above
    have floor : ⌊x⌋₊ = k := (Nat.floor_eq_iff nonneg).2 ⟨by linarith, by linarith⟩
    rw [halfEven, floor, if_neg (by linarith), if_neg (by linarith)]
    omega
  · have floor : ⌊x⌋₊ = n := (Nat.floor_eq_iff nonneg).2 ⟨by linarith, by linarith⟩
    rw [halfEven, floor, if_neg (by linarith), if_neg (by linarith)]
    omega

/-- What is not farther from the number that another one is rounded to is rounded to it too. -/
lemma halfEven_eq_of_not_farther (nonneg : 0 ≤ x) (nonneg' : 0 ≤ y)
    (near : |(halfEven x : ℚ) - y| ≤ |(halfEven x : ℚ) - x|) : halfEven y = halfEven x := by
  have half := halfEven_sub_le nonneg
  rcases (near.trans half).lt_or_eq with less | middle
  · exact halfEven_eq_of_near nonneg' less
  · have middle' : |(halfEven x : ℚ) - x| = 1 / 2 := le_antisymm half (middle ▸ near)
    exact halfEven_of_even nonneg' (halfEven_even nonneg middle') middle

/-- Below infinity the double that a number is rounded to is as near to it as any. -/
lemma abs_bitsValue_roundBits_sub_le (nonneg : 0 ≤ x) (finite : roundBits x < infinityBits)
    (bits : ℕ) : |bitsValue (roundBits x) - x| ≤ |bitsValue bits - x| := by
  rcases nonneg.eq_or_lt with rfl | pos
  · rw [roundBits, if_pos le_rfl, bitsValue_zero, sub_zero, abs_zero]
    exact abs_nonneg _
  · have same : roundBits x = gridBits x := by
      rw [roundBits, if_neg (not_le.2 pos), ← gridBits] at finite ⊢
      exact min_eq_right_of_lt ((min_lt_iff.1 finite).resolve_left (lt_irrefl _))
    rw [same]
    exact abs_bitsValue_gridBits_sub_le pos bits

/-- A double that was read where another one was written is written with the same digits. -/
lemma fixedNumeral_refixed {x : Float} {places m m' : ℕ} {q q' : ℤ} {negative negative' : Bool}
    (view : Binary.ofFloat x = .finite negative m q)
    (view' : Binary.ofFloat (refixed places x) = .finite negative' m' q') :
    fixedNumeral places m' q' = fixedNumeral places m q := by
  obtain ⟨-, finite, magnitude⟩ := parts_of_finite view
  obtain ⟨-, finite', magnitude'⟩ := parts_of_finite view'
  have read := (parts_refixed_of_view places view).2
  have scale : (0 : ℚ) < 10 ^ places := by positivity
  have nearest := abs_bitsValue_roundBits_sub_le (x := (fixedNumeral places m q).value)
    (by rw [value_fixedNumeral]; positivity) (read ▸ finite') (magnitudeBits x)
  rw [← read, magnitude, magnitude', value_fixedNumeral] at nearest
  -- both distances are measured in units of the last place
  have scaled (v : ℚ) (n : ℕ) : |v - n / 10 ^ places| * 10 ^ places = |n - v * 10 ^ places| := by
    rw [← abs_of_pos scale, ← abs_mul, abs_of_pos scale, sub_mul, div_mul_cancel₀ _ scale.ne',
      abs_sub_comm]
  have units := mul_le_mul_of_nonneg_right nearest scale.le
  rw [scaled, scaled] at units
  have digits : halfEven (m' * 2 ^ q' * 10 ^ places) = halfEven (m * 2 ^ q * 10 ^ places) :=
    halfEven_eq_of_not_farther (by positivity) (by positivity) units
  rw [← digits_fixedNumeral, ← digits_fixedNumeral] at digits
  rw [fixedNumeral, fixedNumeral, Numeral.mk.injEq]
  exact ⟨digits, rfl⟩

/-- A double that was read is written as it was. -/
theorem fixed_refixed (places : ℕ) (x : Float) :
    fixed places (refixed places x) = fixed places x := by
  rcases fixed_cases places x with ⟨-, -, same⟩ | ⟨negative, m, q, view, text, -⟩
  · rw [same]
  · obtain ⟨sign, finite, -⟩ := parts_of_finite view
    have finite' := magnitudeBits_refixed_lt places finite
    rcases fixed_cases places (refixed places x) with
      ⟨infinite, -⟩ | ⟨negative', m', q', view', text', -⟩
    · rw [isFinite_of_lt_infinityBits finite'] at infinite
      cases infinite
    · have sign' : negative' = negative :=
        (parts_of_finite view').1.symm.trans (parts_refixed_of_view places view).1
      rw [text, text', sign', fixedNumeral_refixed view view']

end PerfGate.Decimal
