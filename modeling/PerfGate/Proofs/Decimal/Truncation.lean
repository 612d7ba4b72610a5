import PerfGate.Proofs.Decimal.Monotone
import PerfGate.Proofs.Decimal.Nearest

/-!
# Doubles cut to whole numbers

A double becomes a word when what lies behind its point is cut off; below the words it becomes zero
and beyond them the greatest word (`toNat_toUInt64`). A product of natural numbers that is divided
by a third one and then cut is their whole quotient, as long as they are short
(`toNat_toUInt64_div`): rounding never takes the quotient to the next whole number
(`floor_rounded_div`).
-/

namespace PerfGate.Decimal

open Float.Model.UnpackedFloat

/-! ## Cutting -/

lemma toNat_ofNatClamp (n : ℕ) : (UInt64.ofNatClamp n).toNat = min (UInt64.size - 1) n := by
  unfold UInt64.ofNatClamp
  split
  · rename_i word
    rw [UInt64.toNat_ofNatLT]
    exact (Nat.min_eq_right (Nat.le_sub_one_of_lt word)).symm
  · rename_i beyond
    rw [UInt64.toNat_ofNatLT]
    exact (Nat.min_eq_left (by omega)).symm

/-- Shifting the point away leaves the whole part. -/
lemma mantissa_shiftToExponent (m : ℕ) {e : ℤ} (h : e ≤ 0) :
    (shiftToExponent m e .exact 0).1.mantissa = ⌊(m : ℚ) * 2 ^ e⌋₊ := by
  have shifted := (Describes.natCast m).shiftRight (0 - e).toNat
  have exponent : e = -((0 - e).toNat : ℤ) := by omega
  have same : (m : ℚ) * 2 ^ e = m / 2 ^ (0 - e).toNat := by
    rw [div_eq_mul_inv, ← zpow_natCast, ← zpow_neg, ← exponent]
  rw [same]
  exact shifted.floor.symm

lemma roundToInt_eq (s : Sign) (m : ℕ) (e : ℤ) :
    roundToInt s m e = s.apply (⌊(m : ℚ) * 2 ^ e⌋₊ : ℕ) := by
  have whole := mantissa_shiftToExponent (decreaseExponent m e 0).1 (decreaseExponent_le m e 0)
  rw [decreaseExponent_value] at whole
  rw [← whole]
  rfl

lemma floor_signed_true (bits : ℕ) : ⌊signed true (bitsValue bits)⌋₊ = 0 :=
  Nat.floor_of_nonpos (neg_nonpos.2 (bitsValue_nonneg bits))

/-- The value of infinity lies beyond the words. -/
lemma word_le_infinity : UInt64.size - 1 ≤ ⌊bitsValue infinityBits⌋₊ := by
  apply Nat.le_floor
  rw [bitsValue_infinityBits]
  calc ((UInt64.size - 1 : ℕ) : ℚ) ≤ 2 ^ (64 : ℤ) := by
        rw [UInt64.size]
        norm_num
    _ ≤ 2 ^ (1024 : ℤ) := zpow_le_zpow_right₀ one_le_two (by decide)

lemma clamp_toInt (negative : Bool) {bits : ℕ} (number : bits ≤ infinityBits) :
    min (UInt64.size - 1) (toInt 0 (UInt64.size - 1) (unpacked negative bits)).toNat =
      min (UInt64.size - 1) ⌊signed negative (bitsValue bits)⌋₊ := by
  rcases unpacked_cases negative number with ⟨rfl, zero⟩ | ⟨-, -, _, finite⟩ | ⟨rfl, infinite⟩
  · rw [zero, bitsValue_zero, signed_zero, Nat.floor_zero]
    rfl
  · rw [finite, toInt, roundToInt_eq, ← bitsValue]
    cases negative with
    | true =>
      rw [floor_signed_true]
      exact congrArg _ (Int.toNat_of_nonpos (neg_nonpos.2 (Int.natCast_nonneg _)))
    | false => rfl
  · rw [infinite]
    cases negative with
    | true =>
      rw [floor_signed_true]
      rfl
    | false => exact (Nat.min_eq_left le_rfl).trans (Nat.min_eq_left word_le_infinity).symm

/-- A number becomes the word of its whole part, or the nearest word if that is none. -/
theorem toNat_toUInt64 {x : Float} (number : magnitudeBits x ≤ infinityBits) :
    x.toUInt64.toNat = min (UInt64.size - 1) ⌊value x⌋₊ := by
  rw [value, ← clamp_toInt _ number, ← unpack_toModel]
  exact toNat_ofNatClamp _

/-! ## Quotients -/

/-- A quotient that is not zero is far above the doubles that are not normal. -/
lemma leastNormal_le_div {n d : ℕ} (pos : 0 < n) (positive : 0 < d) (small : d ≤ 2 ^ 53) :
    leastNormal ≤ (n / d : ℚ) := by
  have cast : (0 : ℚ) < d := by exact_mod_cast positive
  calc leastNormal ≤ 2 ^ (-53 : ℤ) := zpow_le_zpow_right₀ one_le_two (by decide)
    _ = 1 / 2 ^ 53 := by norm_num
    _ ≤ 1 / d := one_div_le_one_div_of_le cast (by exact_mod_cast small)
    _ ≤ n / d := div_le_div_of_nonneg_right (by exact_mod_cast pos) cast.le

/-- Rounding does not take a quotient of short natural numbers to the next whole number. -/
lemma floor_rounded_div {n d : ℕ} (pos : 0 < d) (short : n < 2 ^ 53) (small : d ≤ 2 ^ 53) :
    ⌊rounded (n / d)⌋₊ = n / d := by
  rcases Nat.eq_zero_or_pos n with rfl | positive
  · rw [Nat.cast_zero, zero_div, rounded_zero, Nat.floor_zero, Nat.zero_div]
  have cast : (0 : ℚ) < d := by exact_mod_cast pos
  have nonneg : (0 : ℚ) ≤ n / d := div_nonneg (Nat.cast_nonneg n) cast.le
  rw [Nat.floor_eq_iff (rounded_nonneg nonneg)]
  constructor
  · rw [← rounded_natCast ((Nat.div_le_self n d).trans short.le)]
    exact monotone_rounded Nat.cast_div_le
  · -- what rounding adds is less than the `d`-th part that the quotient is below the next number
    have gap : (n / d : ℚ) + 1 / d ≤ (n / d : ℕ) + 1 := by
      have rest : ((n % d : ℕ) : ℚ) + 1 ≤ d := by exact_mod_cast Nat.mod_lt n pos
      rw [div_eq_add_rest n pos, add_assoc, ← add_div]
      exact add_le_add_right ((div_le_one cast).2 rest) _
    have moved : (n / d : ℚ) * unitRoundoff < 1 / d := by
      rw [unitRoundoff, div_mul_eq_mul_div, div_lt_div_iff_of_pos_right cast, mul_one_div,
        div_lt_one (by norm_num)]
      exact_mod_cast short
    have bound := rounded_le (leastNormal_le_div positive pos small)
    linarith

/-- A product of short natural numbers, divided by another one and cut, is the whole quotient. -/
theorem toNat_toUInt64_div {x y z : Float} {m n d : ℕ} (hx : IsNearest x m) (hy : IsNearest y n)
    (hz : IsNearest z d) (short : m ≤ 2 ^ 53) (short' : n ≤ 2 ^ 53) (product : m * n < 2 ^ 53)
    (pos : 0 < d) (small : d ≤ 2 ^ 53) : (x * y / z).toUInt64.toNat = m * n / d := by
  obtain ⟨finite, whole⟩ := hx.whole short
  obtain ⟨finite', whole'⟩ := hy.whole short'
  obtain ⟨finite'', whole''⟩ := hz.whole small
  have exact := isNearest_mul finite finite'
  rw [whole, whole', ← Nat.cast_mul] at exact
  obtain ⟨finite, whole⟩ := exact.whole product.le
  have nonzero : magnitudeBits z ≠ 0 := by
    intro zero
    rw [value, zero, bitsValue_zero, signed_zero] at whole''
    exact pos.ne (by exact_mod_cast whole'')
  have quotient := isNearest_div finite finite'' nonzero
  rw [whole, whole''] at quotient
  rw [toNat_toUInt64 quotient.number, quotient.value_eq, floor_rounded_div pos product small]
  exact Nat.min_eq_right ((Nat.div_le_self _ d).trans (by rw [UInt64.size]; omega))

end PerfGate.Decimal
