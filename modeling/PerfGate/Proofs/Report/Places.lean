import PerfGate.Proofs.Decimal.Fixed
import PerfGate.Proofs.Decimal.Monotone
import PerfGate.Proofs.Decimal.Nearest
import PerfGate.Report.Units

/-!
# Two ways of rounding to places

`Decimal.fixed` rounds the exact number half to even, whereas `roundTo` multiplies in floating-point
arithmetic, rounds half away from zero and divides. Both end at the double that is nearest to some
multiple of a power of ten. They take the same multiple unless the product, as it is rounded to a
double, lies in the middle between two of them (`IsMidway`, `parts_roundTo`), and beyond `2 ^ 53`
neither rounds at all (`refixed_of_large`, `roundTo_of_large`).
-/

namespace PerfGate.Report

open Decimal

variable {places : ℕ} {x : Float} {v : ℚ}

/-! ## Whole numbers -/

/-- The nearest whole number to the double that a number is rounded to, a half going up. -/
def halfUp (v : ℚ) : ℕ :=
  ⌊rounded v + 1 / 2⌋₊

/-- As a double the number lies in the middle above the whole number that it is nearest to. -/
def IsMidway (v : ℚ) : Prop :=
  rounded v = halfEven v + 1 / 2

lemma halfUp_eq {n : ℕ} (low : (n : ℚ) ≤ rounded v + 1 / 2) (high : rounded v + 1 / 2 < n + 1) :
    halfUp v = n :=
  (Nat.floor_eq_iff ((Nat.cast_nonneg n).trans low)).2 ⟨low, high⟩

lemma IsMidway.halfUp_eq (h : IsMidway v) : halfUp v = halfEven v + 1 := by
  have double : rounded v = halfEven v + 1 / 2 := h
  apply Report.halfUp_eq
  all_goals
    push_cast
    linarith

/-- Rounding does not lead beyond a whole number that is a double. -/
lemma rounded_le_natCast {n : ℕ} (short : n ≤ 2 ^ 53) (h : v ≤ n) : rounded v ≤ n := by
  rw [← rounded_natCast short]
  exact monotone_rounded h

/-- A double that is a whole number is not in the middle. -/
lemma not_isMidway_of_whole {n : ℕ} (whole : rounded v = n) : ¬ IsMidway v := by
  intro middle
  rw [IsMidway, whole] at middle
  have twice : ((2 * n : ℕ) : ℚ) = (2 * halfEven v + 1 : ℕ) := by
    push_cast
    linarith
  have parity : 2 * n = 2 * halfEven v + 1 := by
    exact_mod_cast twice
  omega

lemma halfUp_of_whole {n : ℕ} (whole : rounded v = n) : halfUp v = n := by
  apply halfUp_eq
  all_goals
    rw [whole]
    linarith

/-- Where every whole number and every half is a double, rounding to a double first changes the
nearest whole number only if it leads to the middle. -/
lemma halfUp_of_halves (nonneg : 0 ≤ v) (small : v < 2 ^ 52) (h : ¬ IsMidway v) :
    halfUp v = halfEven v := by
  have floor := Nat.floor_le nonneg
  have above := Nat.lt_floor_add_one v
  have short : ⌊v⌋₊ < 2 ^ 52 := by
    rw [Nat.floor_lt nonneg]
    exact_mod_cast small
  unfold IsMidway at h
  unfold halfEven at h ⊢
  generalize ⌊v⌋₊ = k at *
  -- the double stays on the same side of `k`, of `k + 1 / 2` and of `k + 1` as the number
  have whole : rounded k = k := rounded_natCast (by omega)
  have half : rounded (k + 1 / 2) = k + 1 / 2 := rounded_half short
  have low : (k : ℚ) ≤ rounded v := whole ▸ monotone_rounded floor
  have high : rounded v ≤ (k + 1 : ℕ) := by
    refine rounded_le_natCast (by omega) ?_
    push_cast
    exact above.le
  push_cast at high
  rcases lt_trichotomy (v - k) (1 / 2) with left | middle | right
  · have below : rounded v ≤ k + 1 / 2 := half ▸ monotone_rounded (by linarith)
    rw [if_pos left] at h ⊢
    have strict := lt_of_le_of_ne below h
    exact halfUp_eq (by linarith) (by linarith)
  · have exact : v = k + 1 / 2 := by linarith
    rw [exact, half] at h
    rw [exact]
    rw [if_neg (by linarith), if_neg (by linarith)] at h ⊢
    rcases Nat.mod_two_eq_zero_or_one k with even | odd
    · rw [even] at h
      exact absurd rfl h
    · rw [odd]
      apply halfUp_eq
      all_goals
        rw [half]
        push_cast
        linarith
  · have beyond : k + 1 / 2 ≤ rounded v := half ▸ monotone_rounded (by linarith)
    rw [if_neg (by linarith), if_pos right]
    apply halfUp_eq
    all_goals
      push_cast
      linarith

/-- Where every whole number is a double, but no half, rounding to a double rounds to the nearest
whole number. -/
lemma rounded_of_wholes (large : 2 ^ 52 ≤ v) (small : v < 2 ^ 53) : rounded v = halfEven v := by
  have pos : 0 < v := lt_of_lt_of_le (by norm_num) large
  have log : Int.log 2 v = 52 := log_eq pos (by exact_mod_cast large) (by exact_mod_cast small)
  have grid : gridOf v = 0 := by
    rw [gridOf, log]
    decide
  have whole := bitsValue_grid pos
  rw [grid, zpow_zero, div_one, mul_one] at whole
  have bound := halfEven_le (n := 2 ^ 53) pos.le (by exact_mod_cast small)
  have finite : (0 - minExponent).toNat * leadingBit + halfEven v ≤ infinityBits := by
    have shift : (0 - minExponent).toNat = 1074 := rfl
    rw [shift]
    unfold leadingBit infinityBits
    omega
  rw [rounded_of_nonneg pos.le, roundBits, if_neg (not_le.2 pos), grid, zpow_zero, div_one,
    Nat.min_eq_right finite, whole]

/-- Rounding to a double first changes the nearest whole number only if it leads to the middle. -/
lemma halfUp_of_not_isMidway (nonneg : 0 ≤ v) (small : v ≤ 2 ^ 53) (h : ¬ IsMidway v) :
    halfUp v = halfEven v := by
  rcases lt_or_ge v (2 ^ 52) with halves | large
  · exact halfUp_of_halves nonneg halves h
  rcases small.lt_or_eq with wholes | last
  · exact halfUp_of_whole (rounded_of_wholes large wholes)
  · have power : v = (2 ^ 53 : ℕ) := by
      rw [last]
      norm_num
    rw [power, halfEven_natCast]
    exact halfUp_of_whole (rounded_natCast le_rfl)

lemma halfUp_le (nonneg : 0 ≤ v) (small : v ≤ 2 ^ 53) : halfUp v ≤ 2 ^ 53 := by
  have double : rounded v ≤ (2 ^ 53 : ℕ) := rounded_le_natCast le_rfl (by exact_mod_cast small)
  refine Nat.lt_succ_iff.1 ((Nat.floor_lt ?_).2 ?_)
  · have sign := rounded_nonneg nonneg
    linarith
  · push_cast at double ⊢
    linarith

/-- In the middle the number is below `2 ^ 52`, since beyond all doubles are whole numbers. -/
lemma IsMidway.lt (h : IsMidway v) : v < 2 ^ 52 := by
  by_contra large
  obtain ⟨n, whole⟩ := exists_rounded_eq_natCast (not_lt.1 large)
  exact not_isMidway_of_whole whole h

lemma IsMidway.halfEven_lt (h : IsMidway v) : halfEven v < 2 ^ 52 := by
  have below : rounded v ≤ (2 ^ 52 : ℕ) :=
    rounded_le_natCast (by norm_num) (by exact_mod_cast h.lt.le)
  have double : rounded v = halfEven v + 1 / 2 := h
  have cast : (halfEven v : ℚ) < (2 ^ 52 : ℕ) := by
    linarith
  exact_mod_cast cast

/-! ## Powers of ten -/

/-- The power of ten is computed exactly, and it is not too large. -/
structure IsExact (places : ℕ) : Prop where
  positive : isNegative (powerOfTen places) = false
  finite : magnitudeBits (powerOfTen places) < infinityBits
  power : bitsValue (magnitudeBits (powerOfTen places)) = 10 ^ places
  normal : leastNormal ≤ 1 / 10 ^ places

lemma powerOfTen_one : powerOfTen (1 : ℕ) = 10 := by
  have product : powerOnto 1 10 1 = 1 * 10 := by
    rw [powerOnto]
    rfl
  change powerOnto 1 10 1 = 10
  rw [product]
  decide +kernel

lemma powerOfTen_three : powerOfTen (3 : ℕ) = 1000 := by
  have product : powerOnto 1 10 3 = 1 * 10 * (10 * 10) := by
    rw [powerOnto, powerOnto]
    rfl
  change powerOnto 1 10 3 = 1000
  rw [product]
  decide +kernel

lemma leastNormal_le {r : ℚ} (h : 1 / 2 ^ 10 ≤ r) : leastNormal ≤ r := by
  refine le_trans ?_ h
  have power : (1 / 2 ^ 10 : ℚ) = 2 ^ (-10 : ℤ) := by norm_num
  rw [power]
  exact zpow_le_zpow_right₀ one_le_two (by decide)

lemma isExact_one : IsExact 1 := by
  have view : Binary.ofFloat 10 = .finite false 5629499534213120 (-49) := by decide +kernel
  obtain ⟨sign, finite, magnitude⟩ := parts_of_finite view
  refine ⟨?_, ?_, ?_, leastNormal_le (by norm_num)⟩
  all_goals rw [powerOfTen_one]
  · exact sign
  · exact finite
  · rw [magnitude]
    norm_num

lemma isExact_three : IsExact 3 := by
  have view : Binary.ofFloat 1000 = .finite false 8796093022208000 (-43) := by decide +kernel
  obtain ⟨sign, finite, magnitude⟩ := parts_of_finite view
  refine ⟨?_, ?_, ?_, leastNormal_le (by norm_num)⟩
  all_goals rw [powerOfTen_three]
  · exact sign
  · exact finite
  · rw [magnitude]
    norm_num

lemma ten_pow_pos (places : ℕ) : (0 : ℚ) < 10 ^ places := by positivity

/-! ## Doubles -/

/-- The magnitude of a double in units of its last place. -/
def scaled (places : ℕ) (x : Float) : ℚ :=
  bitsValue (magnitudeBits x) * 10 ^ places

/-- The double multiplied by the power of ten and divided by it again. -/
def rescaled (places : ℕ) (x : Float) : Float :=
  x * powerOfTen places / powerOfTen places

lemma scaled_nonneg (places : ℕ) (x : Float) : 0 ≤ scaled places x :=
  mul_nonneg (bitsValue_nonneg _) (ten_pow_pos places).le

lemma parts_refixed (places : ℕ) (finite : magnitudeBits x < infinityBits) :
    isNegative (refixed places x) = isNegative x ∧
      magnitudeBits (refixed places x) = roundBits (halfEven (scaled places x) / 10 ^ places) := by
  rcases fixed_cases places x with ⟨infinite, -⟩ | ⟨negative, m, q, view, -, -⟩
  · rw [isFinite_of_lt_infinityBits finite] at infinite
    cases infinite
  · obtain ⟨sign, -, magnitude⟩ := parts_of_finite view
    rw [scaled, sign, magnitude, ← value_fixedNumeral]
    exact parts_refixed_of_view places view

lemma parts_product (exact : IsExact places) (finite : magnitudeBits x < infinityBits) :
    isNegative (x * powerOfTen places) = isNegative x ∧
      magnitudeBits (x * powerOfTen places) = roundBits (scaled places x) := by
  have product := parts_mul finite exact.finite
  rwa [exact.positive, exact.power, Bool.xor_false] at product

/-- What is multiplied without overflow is rounded to a whole number, and divided. -/
lemma parts_roundTo (exact : IsExact places) (finite : magnitudeBits x < infinityBits)
    (small : scaled places x ≤ 2 ^ 53) :
    isNegative (roundTo places x) = isNegative x ∧
      magnitudeBits (roundTo places x) = roundBits (halfUp (scaled places x) / 10 ^ places) := by
  obtain ⟨sign, product⟩ := parts_product exact finite
  have double : bitsValue (magnitudeBits (x * powerOfTen places)) = rounded (scaled places x) := by
    rw [product, rounded_of_nonneg (scaled_nonneg places x)]
  have bound : rounded (scaled places x) ≤ (2 ^ 53 : ℕ) :=
    rounded_le_natCast le_rfl (by exact_mod_cast small)
  have below (n : ℕ) (h : bitsValue n ≤ (2 ^ 53 : ℕ)) : n < infinityBits := by
    rw [← strictMono_bitsValue.lt_iff_lt, bitsValue_infinityBits]
    refine lt_of_le_of_lt h ?_
    exact_mod_cast zpow_lt_zpow_right₀ (one_lt_two (α := ℚ)) (by decide : (53 : ℤ) < 1024)
  obtain ⟨sign', whole⟩ := parts_roundAway (below _ (double.trans_le bound))
  have short := halfUp_le (scaled_nonneg places x) small
  have same : rounded (halfUp (scaled places x)) = halfUp (scaled places x) := rounded_natCast short
  rw [double, ← halfUp] at whole
  rw [rounded_of_nonneg (Nat.cast_nonneg _), ← whole] at same
  have nonzero : magnitudeBits (powerOfTen places) ≠ 0 := by
    intro zero
    have power := exact.power
    rw [zero, bitsValue_zero] at power
    exact (ten_pow_pos places).ne power
  have finite' : magnitudeBits (roundAway (x * powerOfTen places)) < infinityBits := by
    apply below
    rw [same]
    exact_mod_cast short
  have quotient := parts_div finite' exact.finite nonzero
  rwa [exact.positive, exact.power, same, Bool.xor_false, sign', sign] at quotient

/-! ## Large doubles -/

/-- The distance of large doubles is greater than a unit of the last place. -/
lemma refixed_of_large (finite : magnitudeBits x < infinityBits)
    (large : 2 ^ 53 < scaled places x) : refixed places x = x := by
  obtain ⟨sign, magnitude⟩ := parts_refixed places finite
  refine eq_of_parts sign ?_
  rw [magnitude]
  refine roundBits_of_near finite.le ?_
  have unit := ten_pow_pos places
  have near := halfEven_sub_le (scaled_nonneg places x)
  have value : bitsValue (magnitudeBits x) = scaled places x / 10 ^ places := by
    rw [scaled, mul_div_cancel_right₀ _ unit.ne']
  rw [abs_sub_comm] at near
  rw [value, ← sub_div, abs_div, abs_of_pos unit, ← mul_div_assoc, ← mul_div_assoc,
    div_lt_div_iff_of_pos_right unit]
  linarith

lemma roundTo_of_large (exact : IsExact places) (finite : magnitudeBits x < infinityBits)
    (large : 2 ^ 53 < scaled places x) : roundTo places x = rescaled places x := by
  obtain ⟨-, product⟩ := parts_product exact finite
  obtain ⟨n, whole⟩ : ∃ n : ℕ, rounded (scaled places x) = n :=
    exists_rounded_eq_natCast (by linarith)
  have unchanged : roundAway (x * powerOfTen places) = x * powerOfTen places := by
    refine roundAway_of_whole ⟨n, ?_⟩
    rw [product, ← rounded_of_nonneg (scaled_nonneg places x), whole]
  rw [rescaled, ← unchanged]
  rfl

/-! ## Comparison -/

/-- Neighbouring multiples of a unit of the last place are rounded to different doubles. -/
lemma rounded_ne_of_succ (normal : leastNormal ≤ 1 / 10 ^ places) {n : ℕ} (short : n < 2 ^ 52) :
    rounded (n / 10 ^ places) ≠ rounded ((n + 1 : ℕ) / 10 ^ places) := by
  have unit := ten_pow_pos places
  have share (k : ℕ) (positive : 0 < k) : leastNormal ≤ (k : ℚ) / 10 ^ places := by
    refine normal.trans ((div_le_div_iff_of_pos_right unit).2 ?_)
    exact_mod_cast positive
  have small : ((n + 1 : ℕ) : ℚ) / 10 ^ places ≤ 2 ^ 52 := by
    refine (div_le_self (Nat.cast_nonneg _) (one_le_pow₀ (by norm_num))).trans ?_
    exact_mod_cast short
  have double : rounded ((n + 1 : ℕ) / 10 ^ places) ≤ (2 ^ 52 : ℕ) :=
    rounded_le_natCast (by norm_num) (by exact_mod_cast small)
  have down : ((n + 1 : ℕ) : ℚ) / 10 ^ places * (1 - unitRoundoff) ≤
      rounded ((n + 1 : ℕ) / 10 ^ places) := by
    refine (le_rounded (share _ (Nat.succ_pos n))).resolve_right fun overflow => ?_
    rw [overflow] at double
    have top : (2 : ℚ) ^ (52 : ℤ) < 2 ^ (1024 : ℤ) := zpow_lt_zpow_right₀ one_lt_two (by decide)
    exact absurd (top.trans_le double) (by exact_mod_cast lt_irrefl _)
  have up : rounded (n / 10 ^ places) ≤ n / 10 ^ places * (1 + unitRoundoff) := by
    rcases Nat.eq_zero_or_pos n with rfl | positive
    · rw [Nat.cast_zero, zero_div, rounded_zero, zero_mul]
    · exact rounded_le (share n positive)
  have gap : (n : ℚ) / 10 ^ places * (1 + unitRoundoff) <
      ((n + 1 : ℕ) : ℚ) / 10 ^ places * (1 - unitRoundoff) := by
    rw [div_mul_eq_mul_div, div_mul_eq_mul_div, div_lt_div_iff_of_pos_right unit]
    have cast : (n : ℚ) + 1 ≤ 2 ^ 52 := by exact_mod_cast short
    have u : unitRoundoff = 1 / 2 ^ 53 := rfl
    rw [u]
    push_cast
    linarith
  exact (up.trans_lt (gap.trans_le down)).ne

lemma abs_value (x : Float) : |value x| = bitsValue (magnitudeBits x) :=
  abs_signed _ (bitsValue_nonneg _)

/-- A number that is not zero tells which double it is the value of. -/
lemma eq_of_value {y : Float} (nonzero : value x ≠ 0) (same : value x = value y) : x = y := by
  have magnitudes := congrArg abs same
  rw [abs_value, abs_value] at magnitudes
  have magnitude := bitsValue_inj magnitudes
  refine eq_of_parts ?_ magnitude
  by_contra differs
  have mirrored : value x = -value y := by
    rw [value, value, magnitude, Bool.eq_not.2 differs, neg_signed]
  exact nonzero (by linarith)

/-- How a double, printed with so many places, compares with the double that is rounded to them. -/
structure Compares (places : ℕ) (x : Float) : Prop where
  /-- They are the same number, but for two cases. -/
  same_iff : value (refixed places x) = value (roundTo places x) ↔
    ¬ IsMidway (scaled places x) ∧ (2 ^ 53 < scaled places x → rescaled places x = x)
  /-- Where rounding the product leads to the middle, they are neighbours in the last place. -/
  midway : IsMidway (scaled places x) →
    |value (refixed places x)| = rounded (halfEven (scaled places x) / 10 ^ places) ∧
      |value (roundTo places x)| = rounded ((halfEven (scaled places x) + 1 : ℕ) / 10 ^ places)
  /-- A large double is printed as it is, and otherwise has gone through two operations. -/
  large : 2 ^ 53 < scaled places x →
    refixed places x = x ∧ roundTo places x = rescaled places x

theorem compares (exact : IsExact places) (finite : isFinite x) : Compares places x := by
  have bits := lt_infinityBits_of_isFinite finite
  have nonneg := scaled_nonneg places x
  have unit := ten_pow_pos places
  have midway : IsMidway (scaled places x) →
      |value (refixed places x)| = rounded (halfEven (scaled places x) / 10 ^ places) ∧
        |value (roundTo places x)| =
          rounded ((halfEven (scaled places x) + 1 : ℕ) / 10 ^ places) := by
    intro middle
    have small : scaled places x ≤ 2 ^ 53 := by
      have below := middle.lt
      linarith
    rw [abs_value, abs_value, (parts_refixed places bits).2, (parts_roundTo exact bits small).2,
      middle.halfUp_eq, ← rounded_of_nonneg (div_nonneg (Nat.cast_nonneg _) unit.le),
      ← rounded_of_nonneg (div_nonneg (Nat.cast_nonneg _) unit.le)]
    exact ⟨rfl, rfl⟩
  have large : 2 ^ 53 < scaled places x →
      refixed places x = x ∧ roundTo places x = rescaled places x :=
    fun far => ⟨refixed_of_large bits far, roundTo_of_large exact bits far⟩
  refine ⟨?_, midway, large⟩
  rcases le_or_gt (scaled places x) (2 ^ 53) with small | far
  · have out : 2 ^ 53 < scaled places x → rescaled places x = x :=
      fun above => absurd above (not_lt.2 small)
    rw [and_iff_left out]
    constructor
    · intro same middle
      obtain ⟨printed, rounds⟩ := midway middle
      refine rounded_ne_of_succ exact.normal middle.halfEven_lt ?_
      rw [← printed, ← rounds, same]
    · intro apart
      obtain ⟨sign, magnitude⟩ := parts_refixed places bits
      obtain ⟨sign', magnitude'⟩ := parts_roundTo exact bits small
      rw [halfUp_of_not_isMidway nonneg small apart] at magnitude'
      rw [eq_of_parts (sign.trans sign'.symm) (magnitude.trans magnitude'.symm)]
  · obtain ⟨printed, rounds⟩ := large far
    have apart : ¬ IsMidway (scaled places x) := by
      intro middle
      have below := middle.lt
      linarith
    rw [printed, rounds, and_iff_right apart]
    constructor
    · intro same _
      have nonzero : value x ≠ 0 := by
        intro zero
        have none := abs_value x
        rw [zero, abs_zero] at none
        rw [scaled, ← none, zero_mul] at far
        exact absurd far (by norm_num)
      exact (eq_of_value nonzero same).symm
    · intro same
      rw [same far]

end PerfGate.Report
