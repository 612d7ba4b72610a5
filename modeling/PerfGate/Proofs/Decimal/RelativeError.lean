import PerfGate.Proofs.Decimal.Arithmetic

/-!
# The relative error of rounding

Rounding moves a number by at most half a unit of its least bit, so by a share of it that is at most
`unitRoundoff`, unless it is below the normal doubles or rounds to infinity (`rounded_le`,
`le_rounded`). The difference of two doubles below the normal ones is not rounded at all
(`rounded_multiple`), and distinct doubles are not too near to each other
(`bitsValue_div_le_abs_sub`).
-/

namespace PerfGate.Decimal

/-- Half a unit of the least bit, as a share of the least number with the same exponent. -/
def unitRoundoff : ℚ := 1 / 2 ^ 53

/-- The least double with a full significand. -/
def leastNormal : ℚ := 2 ^ (-1022 : ℤ)

lemma leastNormal_pos : 0 < leastNormal := two_zpow_pos _

lemma rounded_of_nonneg {x : ℚ} (h : 0 ≤ x) : rounded x = bitsValue (roundBits x) :=
  rounded_signed false h

lemma rounded_le_rounded {x y : ℚ} (nonneg : 0 ≤ x) (h : x ≤ y) : rounded x ≤ rounded y := by
  rw [rounded_of_nonneg nonneg, rounded_of_nonneg (nonneg.trans h)]
  exact strictMono_bitsValue.monotone (roundBits_mono h)

lemma rounded_bitsValue {bits : ℕ} (h : bits ≤ infinityBits) :
    rounded (bitsValue bits) = bitsValue bits := by
  rw [rounded_of_nonneg (bitsValue_nonneg bits), roundBits_bitsValue h]

@[simp]
lemma rounded_zero : rounded 0 = 0 := by
  have fixed := rounded_bitsValue (Nat.zero_le infinityBits)
  rwa [bitsValue_zero] at fixed

lemma abs_rounded (x : ℚ) : |rounded x| = rounded |x| := by
  rw [rounded_of_nonneg (abs_nonneg x), rounded, abs_signed _ (bitsValue_nonneg _)]

lemma halfEven_sub_le {x : ℚ} (h : 0 ≤ x) : |(halfEven x : ℚ) - x| ≤ 1 / 2 := by
  have floor := Nat.floor_le h
  have above := Nat.lt_floor_add_one x
  rw [abs_le, halfEven]
  split
  · rename_i low
    constructor <;> linarith
  rename_i high
  split
  · rename_i next
    push_cast
    constructor <;> linarith
  · rename_i middle
    -- exactly between two numbers, either of them is half a unit away
    rcases Nat.mod_two_eq_zero_or_one ⌊x⌋₊ with even | odd
    · rw [even]
      push_cast
      constructor <;> linarith
    · rw [odd]
      push_cast
      constructor <;> linarith

/-- The multiple of the least bit that a number is rounded to, before overflow is looked at. -/
lemma bitsValue_grid {x : ℚ} (pos : 0 < x) :
    bitsValue ((gridOf x - minExponent).toNat * leadingBit + halfEven (x / 2 ^ gridOf x)) =
      halfEven (x / 2 ^ gridOf x) * 2 ^ gridOf x := by
  have grid := minExponent_le_gridOf x
  have exponent : ((gridOf x - minExponent).toNat : ℤ) + minExponent = gridOf x := by
    omega
  rw [bitsValue_eq ?_ (halfEven_grid_le pos), exponent]
  rcases grid.eq_or_lt with least | above
  · exact .inl (by omega)
  · exact .inr (leadingBit_le_halfEven pos above)

lemma grid_sub_le {x : ℚ} (pos : 0 < x) :
    |halfEven (x / 2 ^ gridOf x) * 2 ^ gridOf x - x| ≤ 2 ^ gridOf x / 2 := by
  have unit := two_zpow_pos (gridOf x)
  have scaled : halfEven (x / 2 ^ gridOf x) * 2 ^ gridOf x - x =
      (halfEven (x / 2 ^ gridOf x) - x / 2 ^ gridOf x) * 2 ^ gridOf x := by
    rw [sub_mul, div_mul_cancel₀ _ unit.ne']
  rw [scaled, abs_mul, abs_of_pos unit]
  calc |(halfEven (x / 2 ^ gridOf x) : ℚ) - x / 2 ^ gridOf x| * 2 ^ gridOf x
      ≤ 1 / 2 * 2 ^ gridOf x :=
        mul_le_mul_of_nonneg_right (halfEven_sub_le (div_pos pos unit).le) unit.le
    _ = 2 ^ gridOf x / 2 := by ring

/-- From the least normal double on, half a unit is a small share of the number. -/
lemma half_grid_le {x : ℚ} (normal : leastNormal ≤ x) : 2 ^ gridOf x / 2 ≤ x * unitRoundoff := by
  have pos : 0 < x := leastNormal_pos.trans_le normal
  have log : -1022 ≤ Int.log 2 x := le_log pos normal
  have grid : gridOf x = Int.log 2 x - 52 := by
    rw [gridOf]
    exact max_eq_left (by unfold minExponent; omega)
  have low : (2 : ℚ) ^ Int.log 2 x ≤ x := by
    exact_mod_cast Int.zpow_log_le_self (b := 2) one_lt_two pos
  have unit : (2 : ℚ) ^ gridOf x = 2 ^ Int.log 2 x / 2 ^ (52 : ℤ) := by
    rw [grid, zpow_sub₀ two_ne_zero]
  rw [unit, unitRoundoff]
  norm_num
  linarith

lemma rounded_le {x : ℚ} (normal : leastNormal ≤ x) : rounded x ≤ x * (1 + unitRoundoff) := by
  have pos : 0 < x := leastNormal_pos.trans_le normal
  have near := (abs_le.1 (grid_sub_le pos)).2
  have small := half_grid_le normal
  rw [rounded_of_nonneg pos.le, roundBits, if_neg (not_le.2 pos)]
  refine (strictMono_bitsValue.monotone (Nat.min_le_right _ _)).trans ?_
  rw [bitsValue_grid pos]
  linarith

/-- Downwards there is the same bound, but a number may be rounded to infinity instead. -/
lemma le_rounded {x : ℚ} (normal : leastNormal ≤ x) :
    x * (1 - unitRoundoff) ≤ rounded x ∨ rounded x = 2 ^ (1024 : ℤ) := by
  have pos : 0 < x := leastNormal_pos.trans_le normal
  have near := (abs_le.1 (grid_sub_le pos)).1
  have small := half_grid_le normal
  rw [rounded_of_nonneg pos.le, roundBits, if_neg (not_le.2 pos)]
  rcases min_choice infinityBits
    ((gridOf x - minExponent).toNat * leadingBit + halfEven (x / 2 ^ gridOf x)) with most | less
  · rw [most]
    exact .inr bitsValue_infinityBits
  · rw [less, bitsValue_grid pos]
    exact .inl (by linarith)

lemma rounded_of_large {x : ℚ} (h : 2 ^ (1024 : ℤ) ≤ x) : rounded x = 2 ^ (1024 : ℤ) := by
  rw [rounded_of_nonneg ((two_zpow_pos 1024).le.trans h), roundBits_of_large h,
    bitsValue_infinityBits]

/-! ## The distance of doubles -/

lemma bitsValue_eq_mul (bits : ℕ) :
    bitsValue bits = (significand bits * 2 ^ binadeOf bits : ℕ) * 2 ^ minExponent := by
  rw [bitsValue, zpow_add₀ two_ne_zero, zpow_natCast]
  push_cast
  ring

/-- A multiple of the least double that is below the normal ones is a double. -/
lemma rounded_multiple {n : ℕ} (h : n * 2 ^ minExponent < leastNormal) :
    rounded (n * 2 ^ minExponent) = n * 2 ^ minExponent := by
  have small : n < leadingBit := by
    have normal : leastNormal = (leadingBit : ℕ) * 2 ^ minExponent := by
      rw [leadingBit_cast, ← zpow_add₀ two_ne_zero]
      rfl
    rw [normal] at h
    exact_mod_cast lt_of_mul_lt_mul_right h (two_zpow_pos _).le
  have double := bitsValue_eq (k := 0) (m := n) (.inl rfl) (by omega)
  rw [Nat.zero_mul, Nat.zero_add, Nat.cast_zero, zero_add] at double
  have finite : n ≤ infinityBits := by
    unfold infinityBits
    unfold leadingBit at small
    omega
  rw [← double, rounded_bitsValue finite]

/-- So is the distance of two doubles, if it is below the normal ones. -/
lemma rounded_abs_sub {a b : ℕ} (h : |bitsValue a - bitsValue b| < leastNormal) :
    rounded |bitsValue a - bitsValue b| = |bitsValue a - bitsValue b| := by
  have multiple : |bitsValue a - bitsValue b| =
      (((significand a * 2 ^ binadeOf a : ℕ) : ℤ) -
        (significand b * 2 ^ binadeOf b : ℕ)).natAbs * 2 ^ minExponent := by
    rw [bitsValue_eq_mul, bitsValue_eq_mul, ← sub_mul, abs_mul, abs_of_pos (two_zpow_pos _),
      Nat.cast_natAbs]
    push_cast
    rfl
  rw [multiple] at h ⊢
  exact rounded_multiple h

lemma bitsValue_le (bits : ℕ) : bitsValue bits ≤ 2 ^ 53 * 2 ^ (binadeOf bits + minExponent) := by
  refine mul_le_mul_of_nonneg_right ?_ (two_zpow_pos _).le
  have short := significand_lt bits
  have long : 2 * leadingBit = 2 ^ 53 := by decide
  rw [long] at short
  exact_mod_cast short.le

lemma bitsValue_le_mul_sub {a b : ℕ} (lt : a < b) :
    bitsValue a ≤ 2 ^ 53 * (bitsValue b - bitsValue a) := by
  have next := strictMono_bitsValue.monotone (Nat.succ_le_of_lt lt)
  rw [Nat.succ_eq_add_one, bitsValue_succ] at next
  have bound := bitsValue_le a
  linarith

/-- Distinct doubles are apart by a share of either. -/
lemma bitsValue_div_le_abs_sub {a b : ℕ} (ne : a ≠ b) :
    bitsValue b / 2 ^ 54 ≤ |bitsValue a - bitsValue b| := by
  rcases Nat.lt_or_gt_of_ne ne with lt | gt
  · have far := bitsValue_le_mul_sub lt
    have order := strictMono_bitsValue lt
    rw [abs_of_neg (sub_neg.2 order)]
    linarith
  · have far := bitsValue_le_mul_sub gt
    have order := strictMono_bitsValue gt
    rw [abs_of_pos (sub_pos.2 order)]
    linarith

end PerfGate.Decimal
