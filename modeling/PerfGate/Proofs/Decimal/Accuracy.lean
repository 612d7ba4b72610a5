import PerfGate.Proofs.Decimal.Packing
import PerfGate.Proofs.Decimal.Rounding

/-!
# How results of arithmetic are rounded

Arithmetic on doubles computes the exact result as a mantissa with two bits for what lies below it,
shifts it to the exponent of the nearest doubles and rounds. `Describes` says what the mantissa and
the two bits know of the exact number; shifting keeps it (`Describes.shiftRight`), so that the
packed result is correctly rounded (`parts_roundWithAccuracy`).
-/

namespace PerfGate.Decimal

open Float.Model (Format UnpackedFloat totalExponent)
open Float.Model.UnpackedFloat

/-- The mantissa is the whole part of the number. The first bit says whether a half or more is left,
the second whether there is anything beyond that. -/
structure Describes (em : ExtendedMantissa) (y : ℚ) : Prop where
  low : em.mantissa ≤ y
  high : y < em.mantissa + 1
  half : em.roundBit = true ↔ em.mantissa + 1 / 2 ≤ y
  rest : em.stickyBit = true ↔ y ≠ em.mantissa ∧ y ≠ em.mantissa + 1 / 2

namespace Describes

variable {em : ExtendedMantissa} {y : ℚ}

lemma nonneg (h : Describes em y) : 0 ≤ y :=
  (Nat.cast_nonneg em.mantissa).trans h.low

lemma floor (h : Describes em y) : ⌊y⌋₊ = em.mantissa :=
  (Nat.floor_eq_iff h.nonneg).2 ⟨h.low, h.high⟩

/-- The two bits as they describe the fraction alone. -/
lemma of_fraction (m : ℕ) {half rest : Bool} {f : ℚ} (nonneg : 0 ≤ f) (proper : f < 1)
    (halfIff : half = true ↔ 1 / 2 ≤ f) (restIff : rest = true ↔ f ≠ 0 ∧ f ≠ 1 / 2) :
    Describes ⟨m, half, rest⟩ (m + f) := by
  refine ⟨le_add_of_nonneg_right nonneg, add_lt_add_of_le_of_lt le_rfl proper, ?_, ?_⟩
  · rw [halfIff]
    exact (add_le_add_iff_left (m : ℚ)).symm
  · rw [restIff]
    simp

/-- A natural number is described without any rest. -/
lemma natCast (m : ℕ) : Describes (.ofMantissaAndAccuracy m .exact) m := by
  have h : Describes ⟨m, false, false⟩ (m + 0) :=
    of_fraction m le_rfl zero_lt_one (by norm_num) (by norm_num)
  rwa [add_zero] at h

/-- Rounding with the two bits is rounding half to even. -/
lemma roundedMantissa (h : Describes em y) : em.roundedMantissa = halfEven y := by
  have floor := h.floor
  obtain ⟨m, half, rest⟩ := em
  obtain ⟨low, high, halfIff, restIff⟩ := h
  simp only at low high halfIff restIff floor
  unfold halfEven
  rw [floor]
  cases half with
  | false =>
    have below : y - m < 1 / 2 := by
      have := mt halfIff.2 Bool.false_ne_true
      linarith
    rw [if_pos below]
    cases rest <;> rfl
  | true =>
    have above : ¬ y - m < 1 / 2 := by
      have := halfIff.1 rfl
      linarith
    rw [if_neg above]
    cases rest with
    | false =>
      have middle : y = m + 1 / 2 := by
        by_contra other
        refine Bool.false_ne_true (restIff.2 ⟨?_, other⟩)
        rintro rfl
        linarith
      have tie : ¬ 1 / 2 < y - m := by
        linarith
      rw [if_neg tie]
      rfl
    | true =>
      have beyond : 1 / 2 < y - m := by
        have := lt_of_le_of_ne (halfIff.1 rfl) (restIff.1 rfl).2.symm
        linarith
      rw [if_pos beyond]
      rfl

/-- Halving keeps the description. -/
lemma shiftRightOne (h : Describes em y) : Describes em.shiftRightOne (y / 2) := by
  obtain ⟨m, half, rest⟩ := em
  obtain ⟨low, high, halfIff, restIff⟩ := h
  simp only at low high halfIff restIff
  -- together the two bits say whether anything is left below the mantissa
  have below : half = true ∨ rest = true ↔ y ≠ m := by
    rw [halfIff, restIff]
    refine ⟨?_, fun other => ?_⟩
    · rintro (far | near) rfl
      · linarith
      · exact near.1 rfl
    · by_cases middle : y = m + 1 / 2
      · exact .inl middle.ge
      · exact .inr ⟨other, middle⟩
  have parity : (m : ℚ) = 2 * (m / 2 : ℕ) + (m % 2 : ℕ) := by
    exact_mod_cast (Nat.div_add_mod m 2).symm
  have odd : m % 2 = 0 ∨ m % 2 = 1 := by omega
  refine ⟨?_, ?_, ?_, ?_⟩
  · change ((m / 2 : ℕ) : ℚ) ≤ y / 2
    rcases odd with odd | odd <;> rw [odd] at parity <;> push_cast at parity <;> linarith
  · change y / 2 < ((m / 2 : ℕ) : ℚ) + 1
    rcases odd with odd | odd <;> rw [odd] at parity <;> push_cast at parity <;> linarith
  · change (m % 2 != 0) = true ↔ ((m / 2 : ℕ) : ℚ) + 1 / 2 ≤ y / 2
    rcases odd with odd | odd <;> rw [odd] at parity ⊢ <;> push_cast at parity
    · exact ⟨fun h => (Bool.false_ne_true h).elim, fun h => by linarith⟩
    · exact ⟨fun _ => by linarith, fun _ => rfl⟩
  · change (half || rest) = true ↔ y / 2 ≠ ((m / 2 : ℕ) : ℚ) ∧ y / 2 ≠ ((m / 2 : ℕ) : ℚ) + 1 / 2
    rw [Bool.or_eq_true, below]
    rcases odd with odd | odd <;> rw [odd] at parity <;> push_cast at parity
    · refine ⟨fun other => ⟨fun same => other ?_, fun same => ?_⟩, fun h same => h.1 ?_⟩ <;>
        linarith
    · refine ⟨fun other => ⟨fun same => ?_, fun same => other ?_⟩, fun h same => h.2 ?_⟩ <;>
        linarith

lemma shiftRight (h : Describes em y) (n : ℕ) : Describes (em >>> n) (y / 2 ^ n) := by
  change Describes (n.repeat ExtendedMantissa.shiftRightOne em) _
  induction n with
  | zero => rwa [pow_zero, div_one]
  | succ n ih =>
    rw [pow_succ, ← div_div]
    exact ih.shiftRightOne

end Describes

/-! ## The exponent of the result -/

lemma targetExponent_binary64 (t : ℤ) :
    Format.binary64.targetExponent t = max (t - 53) minExponent := rfl

/-- The exponent to which a result is shifted is that of the grid of doubles around it. An exponent
that is too large is allowed only if there is a mantissa to tell. -/
lemma targetExponent_eq {m : ℕ} {e : ℤ} {y : ℚ} (pos : 0 < y) (floor : ⌊y⌋₊ = m)
    (small : m ≠ 0 ∨ e ≤ gridOf (y * 2 ^ e)) :
    Format.binary64.targetExponent (totalExponent m e) = gridOf (y * 2 ^ e) := by
  have scaled : 0 < y * 2 ^ e := mul_pos pos (two_zpow_pos e)
  have high : y < m + 1 := by
    rw [← floor]
    exact Nat.lt_floor_add_one y
  rw [targetExponent_binary64, totalExponent]
  by_cases zero : m = 0
  · have below : Int.log 2 (y * 2 ^ e) < e := by
      refine log_lt scaled (mul_lt_of_lt_one_left (two_zpow_pos e) ?_)
      rw [zero] at high
      simpa using high
    have least := small.resolve_left (not_not_intro zero)
    rw [zero, Nat.log2_zero]
    unfold gridOf at *
    omega
  · have low : (m : ℚ) ≤ y := by
      rw [← floor]
      exact Nat.floor_le pos.le
    have log : Int.log 2 (y * 2 ^ e) = m.log2 + e := by
      refine log_eq scaled ?_ ?_
      · rw [zpow_add₀ two_ne_zero]
        refine mul_le_mul_of_nonneg_right (le_trans ?_ low) (two_zpow_pos e).le
        exact_mod_cast Nat.log2_self_le zero
      · rw [add_right_comm, zpow_add₀ two_ne_zero]
        refine mul_lt_mul_of_pos_right (high.trans_le ?_) (two_zpow_pos e)
        exact_mod_cast Nat.lt_log2_self (n := m)
    rw [gridOf, log]
    omega

/-- Shifting moves the exponent to the target, if that is not below. -/
lemma shiftToTargetExponent_eq {m : ℕ} {e t : ℤ} (acc : Accuracy)
    (target : Format.binary64.targetExponent (totalExponent m e) = t) :
    shiftToTargetExponent .binary64 m e acc =
      (ExtendedMantissa.ofMantissaAndAccuracy m acc >>> (t - e).toNat, e + (t - e).toNat) := by
  rw [← target]
  rfl

/-- A rounded mantissa is shifted once more only if it has become a power of two. -/
lemma settle {k m : ℕ} (h : k = 0 ∨ leadingBit ≤ m) (hm : m ≤ 2 * leadingBit) :
    ∃ k' : ℕ, (shiftToTargetExponent .binary64 m (k + minExponent) .exact).2 = k' + minExponent ∧
      k' * leadingBit +
        (shiftToTargetExponent .binary64 m (k + minExponent) .exact).1.mantissa =
          k * leadingBit + m ∧
      (k' = 0 ∨
        leadingBit ≤ (shiftToTargetExponent .binary64 m (k + minExponent) .exact).1.mantissa) ∧
      (shiftToTargetExponent .binary64 m (k + minExponent) .exact).1.mantissa < 2 * leadingBit := by
  rcases Nat.lt_or_eq_of_le hm with lt | rfl
  · have length : m.log2 ≤ 52 := by
      rcases Nat.eq_zero_or_pos m with rfl | pos
      · rw [Nat.log2_zero]
        exact Nat.zero_le _
      · exact Nat.le_of_lt_succ ((Nat.log2_lt pos.ne').2 lt)
    have stays : (Format.binary64.targetExponent (totalExponent m (k + minExponent)) -
        (k + minExponent)).toNat = 0 := by
      rw [targetExponent_binary64, totalExponent]
      omega
    rw [shiftToTargetExponent_eq .exact rfl, stays]
    refine ⟨k, ?_, rfl, h, lt⟩
    simp
  · -- rounding has carried the mantissa into the next power of two
    have target : Format.binary64.targetExponent
        (totalExponent (2 * leadingBit) (k + minExponent)) = k + minExponent + 1 := by
      have length : (2 * leadingBit).log2 = 53 := by decide
      rw [targetExponent_binary64, totalExponent, length]
      omega
    have once : (k + minExponent + 1 - (k + minExponent)).toNat = 1 := by
      omega
    rw [shiftToTargetExponent_eq .exact target, once]
    have mantissa : (ExtendedMantissa.ofMantissaAndAccuracy (2 * leadingBit) .exact >>>
        1).mantissa = leadingBit := rfl
    refine ⟨k + 1, ?_, ?_, .inr mantissa.ge, ?_⟩
    · push_cast
      ring
    · rw [mantissa]
      ring
    · rw [mantissa]
      decide

/-- The result that is packed is the exact one, correctly rounded. -/
lemma parts_roundWithAccuracy (negative : Bool) {m : ℕ} {e : ℤ} {acc : Accuracy} {y : ℚ}
    (h : Describes (.ofMantissaAndAccuracy m acc) y) (pos : 0 < y)
    (small : e ≤ gridOf (y * 2 ^ e)) :
    isNegative (packed (roundWithAccuracy .binary64 (signOf negative) m e acc)) = negative ∧
      magnitudeBits (packed (roundWithAccuracy .binary64 (signOf negative) m e acc)) =
        roundBits (y * 2 ^ e) := by
  have scaled : 0 < y * 2 ^ e := mul_pos pos (two_zpow_pos e)
  have floor : ⌊y⌋₊ = m := by
    rw [h.floor]
    cases acc with
    | exact => rfl
    | inexact o => cases o <;> rfl
  have grid := minExponent_le_gridOf (y * 2 ^ e)
  obtain ⟨k, exponent⟩ : ∃ k : ℕ, gridOf (y * 2 ^ e) = k + minExponent :=
    ⟨(gridOf (y * 2 ^ e) - minExponent).toNat, by omega⟩
  have reached : e + ((gridOf (y * 2 ^ e) - e).toNat : ℤ) = gridOf (y * 2 ^ e) := by
    omega
  have shifted : y / 2 ^ (gridOf (y * 2 ^ e) - e).toNat =
      y * 2 ^ e / 2 ^ gridOf (y * 2 ^ e) := by
    have units : (2 : ℚ) ^ gridOf (y * 2 ^ e) =
        2 ^ e * 2 ^ (gridOf (y * 2 ^ e) - e).toNat := by
      rw [← zpow_natCast, ← zpow_add₀ two_ne_zero, reached]
    rw [units, mul_comm y, mul_div_mul_left _ _ (two_zpow_pos e).ne']
  have mantissa := (h.shiftRight (gridOf (y * 2 ^ e) - e).toNat).roundedMantissa
  rw [shifted] at mantissa
  have long : k = 0 ∨ leadingBit ≤ halfEven (y * 2 ^ e / 2 ^ gridOf (y * 2 ^ e)) := by
    rcases Nat.eq_zero_or_pos k with zero | up
    · exact .inl zero
    · exact .inr (leadingBit_le_halfEven scaled (by omega))
  have bits : roundBits (y * 2 ^ e) =
      min infinityBits (k * leadingBit + halfEven (y * 2 ^ e / 2 ^ gridOf (y * 2 ^ e))) := by
    rw [roundBits, if_neg (not_le.2 scaled)]
    congr 3
    omega
  obtain ⟨k', settled, same, long', lt⟩ := settle long (halfEven_grid_le scaled)
  unfold roundWithAccuracy
  rw [shiftToTargetExponent_eq acc (targetExponent_eq pos floor (.inr small))]
  -- the first shift reaches the grid, where the mantissa is rounded half to even
  simp only [reached, mantissa]
  rw [← exponent] at settled same long' lt
  rw [bits, ← same]
  -- a mantissa of zero is left only on the least grid
  split
  · rename_i zero
    have bottom : k' = 0 := long'.resolve_right (by rw [zero]; decide)
    rw [zero, bottom]
    exact parts_packed_zero negative
  · rename_i nonzero
    have pos' := Nat.pos_of_ne_zero nonzero
    rw [finite_congr (p := pos') rfl settled]
    exact parts_packed_finite negative pos' lt long'

end PerfGate.Decimal
