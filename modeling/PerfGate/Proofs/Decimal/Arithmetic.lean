import PerfGate.Proofs.Decimal.Accuracy

/-!
# Arithmetic of doubles

Difference, product and quotient of finite doubles are nearest to the difference, the product and
the quotient of their values (`isNearest_sub`, `isNearest_mul`, `isNearest_div`). Doubles other than
NaN are in the order of their values (`lt_iff_value`).
-/

namespace PerfGate.Decimal

open Float.Model (Format UnpackedFloat totalExponent)
open Float.Model.UnpackedFloat

/-- The double is a number, and the nearest one to `r`. -/
structure IsNearest (x : Float) (r : ℚ) : Prop where
  number : magnitudeBits x ≤ infinityBits
  value_eq : value x = rounded r

lemma rounded_signed (negative : Bool) {x : ℚ} (nonneg : 0 ≤ x) :
    rounded (signed negative x) = signed negative (bitsValue (roundBits x)) := by
  rcases nonneg.eq_or_lt with rfl | pos
  · have zero : roundBits 0 = 0 := if_pos le_rfl
    cases negative <;> simp [rounded, signed, zero]
  · cases negative with
    | true =>
      have negative : -x < 0 := neg_neg_of_pos pos
      simp [rounded, signed, negative, abs_of_pos pos]
    | false =>
      have positive : ¬ x < 0 := not_lt.2 nonneg
      simp [rounded, signed, positive, abs_of_pos pos]

/-- Rounding keeps the sign. -/
lemma rounded_nonneg {x : ℚ} (h : 0 ≤ x) : 0 ≤ rounded x := by
  have same : rounded x = bitsValue (roundBits x) := rounded_signed false h
  rw [same]
  exact bitsValue_nonneg _

lemma rounded_nonpos {x : ℚ} (h : x ≤ 0) : rounded x ≤ 0 := by
  have same : rounded (- -x) = -bitsValue (roundBits (-x)) := rounded_signed true (neg_nonneg.2 h)
  rw [neg_neg] at same
  rw [same]
  exact neg_nonpos.2 (bitsValue_nonneg _)

lemma abs_signed (negative : Bool) {v : ℚ} (nonneg : 0 ≤ v) : |signed negative v| = v := by
  cases negative
  · exact abs_of_nonneg nonneg
  · exact (abs_neg v).trans (abs_of_nonneg nonneg)

/-- Which double the nearest one is, up to its sign. -/
lemma IsNearest.magnitude {x : Float} {r : ℚ} (h : IsNearest x r) :
    magnitudeBits x = roundBits |r| := by
  have same : |value x| = |rounded r| := by rw [h.value_eq]
  rw [value, rounded, abs_signed _ (bitsValue_nonneg _), abs_signed _ (bitsValue_nonneg _)] at same
  exact bitsValue_inj same

lemma isNearest_of_parts {x : Float} {negative : Bool} {r : ℚ} (nonneg : 0 ≤ r)
    (h : isNegative x = negative ∧ magnitudeBits x = roundBits r) :
    IsNearest x (signed negative r) := by
  obtain ⟨sign, magnitude⟩ := h
  refine ⟨?_, ?_⟩
  · rw [magnitude]
    exact roundBits_le r
  · rw [value, sign, magnitude, rounded_signed negative nonneg]

/-- A number that is a double is nearest to itself. -/
lemma isNearest_unpacked (negative : Bool) {bits : ℕ} (h : bits ≤ infinityBits) :
    IsNearest (packed (unpacked negative bits)) (signed negative (bitsValue bits)) := by
  refine isNearest_of_parts (bitsValue_nonneg bits) ?_
  rw [roundBits_bitsValue h]
  exact parts_packed_unpacked negative h

lemma isNearest_zero (s : Sign) : IsNearest (packed (.zero s)) 0 := by
  have zero (negative : Bool) : IsNearest (packed (.zero (signOf negative))) 0 := by
    have h := isNearest_unpacked negative (Nat.zero_le infinityBits)
    rwa [bitsValue_zero, signed_zero] at h
  cases s with
  | negative => exact zero true
  | positive => exact zero false

/-! ## Rounding a mantissa with an exponent -/

lemma isNearest_roundWithAccuracy (negative : Bool) {m : ℕ} {e : ℤ} {acc : Accuracy} {y : ℚ}
    (h : Describes (.ofMantissaAndAccuracy m acc) y) (pos : 0 < y)
    (small : e ≤ gridOf (y * 2 ^ e)) :
    IsNearest (packed (roundWithAccuracy .binary64 (signOf negative) m e acc))
      (signed negative (y * 2 ^ e)) :=
  isNearest_of_parts (mul_pos pos (two_zpow_pos e)).le
    (parts_roundWithAccuracy negative h pos small)

/-- Taking a smaller exponent does not change the number. -/
lemma decreaseExponent_value (m : ℕ) (e t : ℤ) :
    ((decreaseExponent m e t).1 : ℚ) * 2 ^ (decreaseExponent m e t).2 = m * 2 ^ e := by
  unfold decreaseExponent
  simp only
  rw [shiftLeft_cast, ← zpow_natCast, mul_assoc, ← zpow_add₀ two_ne_zero, add_sub_cancel]

lemma decreaseExponent_le (m : ℕ) (e t : ℤ) : (decreaseExponent m e t).2 ≤ t := by
  unfold decreaseExponent
  simp only
  omega

lemma isNearest_round (negative : Bool) {m : ℕ} (pos : 0 < m) (e : ℤ) :
    IsNearest (packed (round .binary64 (signOf negative) m e)) (signed negative (m * 2 ^ e)) := by
  have cast : (0 : ℚ) < m := by exact_mod_cast pos
  have target := targetExponent_eq (e := e) cast (Nat.floor_natCast m) (.inl pos.ne')
  have whole := decreaseExponent_value m e (gridOf (m * 2 ^ e))
  have low := decreaseExponent_le m e (gridOf (m * 2 ^ e))
  have kept : (0 : ℚ) < (decreaseExponent m e (gridOf (m * 2 ^ e))).1 := by
    refine pos_of_mul_pos_left ?_ (two_zpow_pos (decreaseExponent m e (gridOf (m * 2 ^ e))).2).le
    rw [whole]
    exact mul_pos cast (two_zpow_pos e)
  have rounds := isNearest_roundWithAccuracy negative
    (Describes.natCast (decreaseExponent m e (gridOf (m * 2 ^ e))).1) kept (by rwa [whole])
  rw [whole, ← target] at rounds
  exact rounds

/-- A whole multiple of a power of two is rounded with its sign. -/
lemma isNearest_normalize (m e : ℤ) (s : Sign) :
    IsNearest (packed (Float.Model.UnpackedFloat.normalize .binary64 m e s)) (m * 2 ^ e) := by
  unfold Float.Model.UnpackedFloat.normalize
  rcases lt_trichotomy m 0 with negative | rfl | positive
  · have cast : ((-m).toNat : ℚ) = -m := by
      exact_mod_cast congrArg (Int.cast (R := ℚ)) (Int.toNat_of_nonneg (by omega : 0 ≤ -m))
    have rounds := isNearest_round true (m := (-m).toNat) (by omega) e
    rw [cast, signed, if_pos rfl, neg_mul, neg_neg] at rounds
    rw [compare_lt_iff_lt.2 negative]
    exact rounds
  · rw [Int.cast_zero, zero_mul]
    exact isNearest_zero s
  · have cast : (m.toNat : ℚ) = m := by
      exact_mod_cast congrArg (Int.cast (R := ℚ)) (Int.toNat_of_nonneg positive.le)
    have rounds := isNearest_round false (m := m.toNat) (by omega) e
    rw [cast] at rounds
    rw [compare_gt_iff_gt.2 positive]
    exact rounds

/-! ## Operations -/

lemma unpacked_zero (negative : Bool) : unpacked negative 0 = .zero (signOf negative) := rfl

lemma unpacked_finite (negative : Bool) {bits : ℕ} (nonzero : bits ≠ 0) (h : bits < infinityBits) :
    unpacked negative bits = .finite (signOf negative) (significand bits)
      (binadeOf bits + minExponent) (Nat.pos_of_ne_zero (significand_ne_zero nonzero)) := by
  unfold unpacked
  rw [if_neg h.not_gt, if_neg h.ne, dif_neg nonzero]

lemma unpacked_infinity (negative : Bool) :
    unpacked negative infinityBits = .infinity (signOf negative) := rfl

lemma sub_eq (x y : Float) : x - y = packed (sub .binary64
    (unpacked (isNegative x) (magnitudeBits x)) (unpacked (isNegative y) (magnitudeBits y))) := by
  rw [← unpack_toModel, ← unpack_toModel]
  rfl

lemma mul_eq (x y : Float) : x * y = packed (mul .binary64
    (unpacked (isNegative x) (magnitudeBits x)) (unpacked (isNegative y) (magnitudeBits y))) := by
  rw [← unpack_toModel, ← unpack_toModel]
  rfl

lemma div_eq (x y : Float) : x / y = packed (div .binary64
    (unpacked (isNegative x) (magnitudeBits x)) (unpacked (isNegative y) (magnitudeBits y))) := by
  rw [← unpack_toModel, ← unpack_toModel]
  rfl

lemma neg_eq (x : Float) :
    -x = packed (neg (unpacked (isNegative x) (magnitudeBits x))) := by
  rw [← unpack_toModel]
  rfl

lemma neg_signOf (negative : Bool) : -signOf negative = signOf !negative := by
  cases negative <;> rfl

lemma mul_signOf (a b : Bool) : signOf a * signOf b = signOf (a ^^ b) := by
  cases a <;> cases b <;> rfl

lemma div_signOf (a b : Bool) : signOf a / signOf b = signOf (a ^^ b) := by
  cases a <;> cases b <;> rfl

lemma apply_signOf (negative : Bool) (m : ℕ) :
    (((signOf negative).apply m : ℤ) : ℚ) = signed negative m := by
  cases negative
  · rfl
  · exact Int.cast_neg _

lemma neg_signed (negative : Bool) (v : ℚ) : -signed negative v = signed (!negative) v := by
  cases negative <;> simp [signed]

lemma signed_mul (a b : Bool) (u v : ℚ) :
    signed a u * signed b v = signed (a ^^ b) (u * v) := by
  cases a <;> cases b <;> simp [signed]

lemma signed_div (a b : Bool) (u v : ℚ) :
    signed a u / signed b v = signed (a ^^ b) (u / v) := by
  cases a <;> cases b <;> simp [signed, neg_div, div_neg]

lemma neg_unpacked (negative : Bool) {bits : ℕ} (h : bits ≤ infinityBits) :
    neg (unpacked negative bits) = unpacked (!negative) bits := by
  rcases h.lt_or_eq with finite | rfl
  · by_cases zero : bits = 0
    · rw [zero]
      exact congrArg UnpackedFloat.zero (neg_signOf negative)
    · rw [unpacked_finite _ zero finite, unpacked_finite _ zero finite, neg, neg_signOf]
  · exact congrArg UnpackedFloat.infinity (neg_signOf negative)

/-- Negation changes the sign only. -/
lemma parts_neg {x : Float} (h : magnitudeBits x ≤ infinityBits) :
    isNegative (-x) = !isNegative x ∧ magnitudeBits (-x) = magnitudeBits x := by
  rw [neg_eq, neg_unpacked _ h]
  exact parts_packed_unpacked _ h

lemma value_neg {x : Float} (h : magnitudeBits x ≤ infinityBits) : value (-x) = -value x := by
  obtain ⟨sign, magnitude⟩ := parts_neg h
  rw [value, sign, magnitude, value, neg_signed]

/-- The exact difference, on the smaller of the two exponents. -/
lemma apply_decreaseExponent (negative : Bool) (m : ℕ) {e t : ℤ} (h : t ≤ e) :
    (((signOf negative).apply (decreaseExponent m e t).1 : ℤ) : ℚ) * 2 ^ t =
      signed negative (m * 2 ^ e) := by
  have reached : (decreaseExponent m e t).2 = t := by
    unfold decreaseExponent
    simp only
    omega
  have whole := decreaseExponent_value m e t
  rw [reached] at whole
  rw [apply_signOf, ← whole]
  cases negative <;> simp [signed]

/-- Subtraction of finite doubles is correctly rounded. -/
theorem isNearest_sub {x y : Float} (hx : magnitudeBits x < infinityBits)
    (hy : magnitudeBits y < infinityBits) : IsNearest (x - y) (value x - value y) := by
  rw [sub_eq, value, value]
  generalize magnitudeBits x = a at *
  generalize magnitudeBits y = b at *
  generalize isNegative x = n
  generalize isNegative y = n'
  by_cases ha : a = 0
  · rw [ha, bitsValue_zero, signed_zero, unpacked_zero, zero_sub, neg_signed]
    by_cases hb : b = 0
    · rw [hb, bitsValue_zero, signed_zero, unpacked_zero, sub]
      split <;> exact isNearest_zero _
    · have nearest := isNearest_unpacked (!n') hy.le
      rw [unpacked_finite _ hb hy] at nearest ⊢
      rwa [sub, neg_signOf]
  · by_cases hb : b = 0
    · have nearest := isNearest_unpacked n hx.le
      rw [hb, bitsValue_zero, signed_zero, sub_zero, unpacked_zero]
      rw [unpacked_finite _ ha hx] at nearest ⊢
      exact nearest
    · -- both significands are brought to the lesser exponent, where the difference is exact
      have exact := isNearest_normalize
        ((signOf n).apply (decreaseExponent (significand a) (binadeOf a + minExponent)
            (min (binadeOf a + minExponent) (binadeOf b + minExponent))).1 -
          (signOf n').apply (decreaseExponent (significand b) (binadeOf b + minExponent)
            (min (binadeOf a + minExponent) (binadeOf b + minExponent))).1)
        (min (binadeOf a + minExponent) (binadeOf b + minExponent)) .positive
      rw [Int.cast_sub, sub_mul, apply_decreaseExponent n _ (min_le_left _ _),
        apply_decreaseExponent n' _ (min_le_right _ _)] at exact
      rw [unpacked_finite _ ha hx, unpacked_finite _ hb hy]
      exact exact

/-- The exponents of two factors are low enough for their product to be rounded. -/
lemma add_le_gridOf {a b : ℕ} (ha : a ≠ 0) (hb : b ≠ 0) :
    ((binadeOf a : ℤ) + minExponent) + (binadeOf b + minExponent) ≤
      gridOf ((significand a * significand b : ℕ) *
        2 ^ (((binadeOf a : ℤ) + minExponent) + (binadeOf b + minExponent))) := by
  have nonzero : significand a * significand b ≠ 0 :=
    Nat.mul_ne_zero (significand_ne_zero ha) (significand_ne_zero hb)
  have cast : (0 : ℚ) < (significand a * significand b : ℕ) := by
    exact_mod_cast Nat.pos_of_ne_zero nonzero
  have grid := targetExponent_eq
    (e := ((binadeOf a : ℤ) + minExponent) + (binadeOf b + minExponent)) cast
    (Nat.floor_natCast _) (.inl nonzero)
  rw [targetExponent_binary64, totalExponent] at grid
  by_cases long : leadingBit ≤ significand a * significand b
  · have length : 52 ≤ (significand a * significand b).log2 := (Nat.le_log2 nonzero).2 long
    omega
  · -- only factors below the normal doubles have a product shorter than a significand
    have short (m k : ℕ) (hm : m ≠ 0) : ¬ leadingBit ≤ m * k → ¬ leadingBit ≤ k :=
      fun low high => low (high.trans (Nat.le_mul_of_pos_left _ (Nat.pos_of_ne_zero hm)))
    have bottom := (leadingBit_le_significand b).resolve_right
      (short _ _ (significand_ne_zero ha) long)
    have bottom' := (leadingBit_le_significand a).resolve_right
      (short _ _ (significand_ne_zero hb) (by rwa [Nat.mul_comm]))
    rw [bottom, bottom'] at grid ⊢
    unfold minExponent at *
    omega

/-- An operation that gives a zero gives it the sign of the operation. -/
lemma parts_zero (negative : Bool) : isNegative (packed (.zero (signOf negative))) = negative ∧
    magnitudeBits (packed (.zero (signOf negative))) = roundBits 0 := by
  have none : roundBits 0 = 0 := if_pos le_rfl
  rw [none]
  exact parts_packed_zero negative

/-- Multiplication of finite doubles: signs and magnitudes are multiplied, and the product of the
magnitudes is rounded. -/
theorem parts_mul {x y : Float} (hx : magnitudeBits x < infinityBits)
    (hy : magnitudeBits y < infinityBits) :
    isNegative (x * y) = (isNegative x ^^ isNegative y) ∧ magnitudeBits (x * y) =
      roundBits (bitsValue (magnitudeBits x) * bitsValue (magnitudeBits y)) := by
  rw [mul_eq]
  generalize magnitudeBits x = a at *
  generalize magnitudeBits y = b at *
  generalize isNegative x = n
  generalize isNegative y = n'
  have zero := parts_zero (n ^^ n')
  rw [← mul_signOf] at zero
  by_cases ha : a = 0
  · rw [ha, bitsValue_zero, zero_mul, unpacked_zero]
    by_cases hb : b = 0
    · rw [hb, unpacked_zero]
      exact zero
    · rw [unpacked_finite _ hb hy]
      exact zero
  by_cases hb : b = 0
  · rw [hb, bitsValue_zero, mul_zero, unpacked_zero, unpacked_finite _ ha hx]
    exact zero
  · have cast : (0 : ℚ) < (significand a * significand b : ℕ) := by
      exact_mod_cast Nat.mul_pos (Nat.pos_of_ne_zero (significand_ne_zero ha))
        (Nat.pos_of_ne_zero (significand_ne_zero hb))
    have rounds := parts_roundWithAccuracy (n ^^ n') (Describes.natCast _) cast
      (add_le_gridOf ha hb)
    have whole : bitsValue a * bitsValue b = (significand a * significand b : ℕ) *
        2 ^ (((binadeOf a : ℤ) + minExponent) + (binadeOf b + minExponent)) := by
      rw [bitsValue, bitsValue, zpow_add₀ two_ne_zero (binadeOf a + minExponent)]
      push_cast
      ring
    rw [whole, unpacked_finite _ ha hx, unpacked_finite _ hb hy]
    rw [← mul_signOf] at rounds
    exact rounds

/-- Multiplication of finite doubles is correctly rounded. -/
theorem isNearest_mul {x y : Float} (hx : magnitudeBits x < infinityBits)
    (hy : magnitudeBits y < infinityBits) : IsNearest (x * y) (value x * value y) := by
  rw [value, value, signed_mul]
  exact isNearest_of_parts (mul_nonneg (bitsValue_nonneg _) (bitsValue_nonneg _)) (parts_mul hx hy)

/-- An infinity stays one if it is multiplied by one or more, as its value says. -/
theorem isNearest_mul_of_one_le {x y : Float} (hx : magnitudeBits x ≤ infinityBits)
    (hy : magnitudeBits y < infinityBits) (one : 1 ≤ bitsValue (magnitudeBits y)) :
    IsNearest (x * y) (value x * value y) := by
  rcases hx.lt_or_eq with finite | infinite
  · exact isNearest_mul finite hy
  have nonzero : magnitudeBits y ≠ 0 := by
    intro zero
    rw [zero, bitsValue_zero] at one
    exact absurd one (by norm_num)
  have large : 2 ^ (1024 : ℤ) ≤ bitsValue infinityBits * bitsValue (magnitudeBits y) := by
    refine le_trans ?_ (le_mul_of_one_le_right (bitsValue_nonneg _) one)
    rw [bitsValue_infinityBits]
  rw [mul_eq, value, value, signed_mul, infinite, unpacked_infinity,
    unpacked_finite _ nonzero hy, mul, mul_signOf]
  refine isNearest_of_parts ((two_zpow_pos 1024).le.trans large) ?_
  rw [roundBits_of_large large]
  exact parts_packed_infinity _

/-- A quotient of natural numbers is described with the rest of the division. -/
lemma describes_div (num : ℕ) {den : ℕ} (h : 0 < den) :
    Describes (.ofMantissaAndAccuracy (num / den) (accuracyOfFraction (num % den) den))
      (num / den : ℚ) := by
  have pos : (0 : ℚ) < den := by exact_mod_cast h
  have below : ((num % den : ℕ) : ℚ) < den := by exact_mod_cast Nat.mod_lt num h
  have nonneg : (0 : ℚ) ≤ (num % den : ℕ) := Nat.cast_nonneg _
  rw [div_eq_add_rest num h]
  generalize num / den = m
  generalize num % den = rest at *
  have proper : (rest : ℚ) / den < 1 := (div_lt_one pos).2 below
  unfold accuracyOfFraction
  split
  · rename_i none
    rw [none, Nat.cast_zero, zero_div, add_zero]
    exact .natCast m
  · rename_i some
    have positive : 0 < (rest : ℚ) / den :=
      div_pos (by exact_mod_cast Nat.pos_of_ne_zero some) pos
    have cast : 2 * ((rest : ℚ) / den) = (2 * rest : ℕ) / (den : ℚ) := by
      push_cast
      ring
    rcases lt_trichotomy (2 * rest) den with lt | eq | gt
    · have left : (rest : ℚ) / den < 1 / 2 := by
        have : ((2 * rest : ℕ) : ℚ) / den < 1 := (div_lt_one pos).2 (by exact_mod_cast lt)
        linarith
      rw [Nat.compare_eq_lt.2 lt]
      exact .of_fraction m positive.le proper (by simpa using left)
        ⟨fun _ => ⟨positive.ne', left.ne⟩, fun _ => rfl⟩
    · have middle : (rest : ℚ) / den = 1 / 2 := by
        have : ((2 * rest : ℕ) : ℚ) / den = 1 := by rw [eq, div_self pos.ne']
        linarith
      rw [Nat.compare_eq_eq.2 eq]
      exact .of_fraction m positive.le proper (by simp [middle]) (by simp [middle])
    · have right : 1 / 2 < (rest : ℚ) / den := by
        have : 1 < ((2 * rest : ℕ) : ℚ) / den := (one_lt_div pos).2 (by exact_mod_cast gt)
        linarith
      rw [Nat.compare_eq_gt.2 gt]
      exact .of_fraction m positive.le proper (by simpa using right.le)
        ⟨fun _ => ⟨positive.ne', right.ne'⟩, fun _ => rfl⟩

/-- The exponent of a quotient is low enough for it to be rounded. -/
lemma quotient_le_gridOf {m₁ m₂ : ℕ} (h₁ : 0 < m₁) (h₂ : 0 < m₂) (e₁ e₂ : ℤ) :
    Format.binary64.targetExponent (totalExponent m₁ e₁ - totalExponent m₂ e₂) ≤
      gridOf (m₁ * 2 ^ e₁ / (m₂ * 2 ^ e₂)) := by
  have pos₁ : (0 : ℚ) < m₁ * 2 ^ e₁ := mul_pos (by exact_mod_cast h₁) (two_zpow_pos e₁)
  have pos₂ : (0 : ℚ) < m₂ * 2 ^ e₂ := mul_pos (by exact_mod_cast h₂) (two_zpow_pos e₂)
  have low : (2 : ℚ) ^ ((m₁.log2 : ℤ) + e₁) ≤ m₁ * 2 ^ e₁ := by
    rw [zpow_add₀ two_ne_zero]
    refine mul_le_mul_of_nonneg_right ?_ (two_zpow_pos e₁).le
    exact_mod_cast Nat.log2_self_le h₁.ne'
  have high : (m₂ : ℚ) * 2 ^ e₂ ≤ 2 ^ ((m₂.log2 : ℤ) + 1 + e₂) := by
    rw [zpow_add₀ two_ne_zero]
    refine mul_le_mul_of_nonneg_right ?_ (two_zpow_pos e₂).le
    exact_mod_cast (Nat.lt_log2_self (n := m₂)).le
  have log : (m₁.log2 : ℤ) + e₁ - (m₂.log2 + 1 + e₂) ≤
      Int.log 2 (m₁ * 2 ^ e₁ / (m₂ * 2 ^ e₂) : ℚ) := by
    refine le_log (div_pos pos₁ pos₂) ?_
    rw [zpow_sub₀ two_ne_zero]
    exact div_le_div₀ pos₁.le low pos₂ high
  rw [targetExponent_binary64, totalExponent, totalExponent, gridOf]
  omega

/-- A quotient of mantissas with exponents is correctly rounded. -/
lemma parts_quotient (negative : Bool) {m₁ m₂ : ℕ} (h₁ : 0 < m₁) (h₂ : 0 < m₂) (e₁ e₂ : ℤ) :
    isNegative (packed (roundWithAccuracy .binary64 (signOf negative)
        (divCore .binary64 m₁ e₁ m₂ e₂).1 (divCore .binary64 m₁ e₁ m₂ e₂).2.1
        (divCore .binary64 m₁ e₁ m₂ e₂).2.2)) = negative ∧
      magnitudeBits (packed (roundWithAccuracy .binary64 (signOf negative)
        (divCore .binary64 m₁ e₁ m₂ e₂).1 (divCore .binary64 m₁ e₁ m₂ e₂).2.1
        (divCore .binary64 m₁ e₁ m₂ e₂).2.2)) = roundBits (m₁ * 2 ^ e₁ / (m₂ * 2 ^ e₂)) := by
  have grid := quotient_le_gridOf h₁ h₂ e₁ e₂
  unfold divCore
  simp only
  generalize target : min (e₁ - e₂)
    (Format.binary64.targetExponent (totalExponent m₁ e₁ - totalExponent m₂ e₂)) = t
  have reached : t + ((e₁ - e₂ - t).toNat : ℤ) = e₁ - e₂ := by
    omega
  have units : (2 : ℚ) ^ (e₁ - e₂ - t).toNat * 2 ^ t = 2 ^ e₁ / 2 ^ e₂ := by
    rw [← zpow_natCast, ← zpow_add₀ two_ne_zero, add_comm, reached, zpow_sub₀ two_ne_zero]
  have whole : ((m₁ <<< (e₁ - e₂ - t).toNat : ℕ) / m₂ : ℚ) * 2 ^ t =
      m₁ * 2 ^ e₁ / (m₂ * 2 ^ e₂) := by
    rw [shiftLeft_cast, mul_div_mul_comm, ← units]
    ring
  have pos₁ : (0 : ℚ) < (m₁ <<< (e₁ - e₂ - t).toNat : ℕ) := by
    exact_mod_cast shiftLeft_pos h₁.ne' _
  have pos₂ : (0 : ℚ) < m₂ := by exact_mod_cast h₂
  have rounds := parts_roundWithAccuracy negative (e := t)
    (describes_div (m₁ <<< (e₁ - e₂ - t).toNat) h₂) (div_pos pos₁ pos₂) (by rw [whole]; omega)
  rwa [whole] at rounds

/-- Division of a finite double by another one that is not zero: signs and magnitudes are divided,
and the quotient of the magnitudes is rounded. -/
theorem parts_div {x y : Float} (hx : magnitudeBits x < infinityBits)
    (hy : magnitudeBits y < infinityBits) (nonzero : magnitudeBits y ≠ 0) :
    isNegative (x / y) = (isNegative x ^^ isNegative y) ∧ magnitudeBits (x / y) =
      roundBits (bitsValue (magnitudeBits x) / bitsValue (magnitudeBits y)) := by
  rw [div_eq]
  generalize magnitudeBits x = a at *
  generalize magnitudeBits y = b at *
  generalize isNegative x = n
  generalize isNegative y = n'
  by_cases ha : a = 0
  · have zero := parts_zero (n ^^ n')
    rw [← div_signOf] at zero
    rw [ha, bitsValue_zero, zero_div, unpacked_zero, unpacked_finite _ nonzero hy]
    exact zero
  · have rounds := parts_quotient (n ^^ n') (Nat.pos_of_ne_zero (significand_ne_zero ha))
      (Nat.pos_of_ne_zero (significand_ne_zero nonzero)) (binadeOf a + minExponent)
      (binadeOf b + minExponent)
    rw [← div_signOf] at rounds
    rw [unpacked_finite _ ha hx, unpacked_finite _ nonzero hy]
    exact rounds

/-- Division of finite doubles is correctly rounded, if it is not by zero. -/
theorem isNearest_div {x y : Float} (hx : magnitudeBits x < infinityBits)
    (hy : magnitudeBits y < infinityBits) (nonzero : magnitudeBits y ≠ 0) :
    IsNearest (x / y) (value x / value y) := by
  rw [value, value, signed_div]
  exact isNearest_of_parts (div_nonneg (bitsValue_nonneg _) (bitsValue_nonneg _))
    (parts_div hx hy nonzero)

end PerfGate.Decimal
