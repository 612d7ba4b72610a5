import Mathlib.Algebra.Order.Floor.Semifield
import Mathlib.Data.Int.Log
import Mathlib.Data.Rat.Floor
import Mathlib.Tactic.FieldSimp
import PerfGate.Decimal.Nearest
import PerfGate.Proofs.Decimal.Value

/-!
# Rounding to doubles

`roundBits` is the magnitude of the double nearest to a number, a tie going to the even significand,
and `rounded` its value. Doubles are fixed by it (`roundBits_bitsValue`), and it is what the integer
arithmetic of `nearestBits` computes (`nearestBits_eq`).
-/

namespace PerfGate.Decimal

/-- The nearest natural number, a half going to the even neighbour. -/
def halfEven (x : ℚ) : ℕ :=
  if x - ⌊x⌋₊ < 1 / 2 then ⌊x⌋₊
  else if 1 / 2 < x - ⌊x⌋₊ then ⌊x⌋₊ + 1
  else ⌊x⌋₊ + ⌊x⌋₊ % 2

/-- The exponent of the least bit that a double near to a positive number has. -/
def gridOf (x : ℚ) : ℤ :=
  max (Int.log 2 x - 52) minExponent

/-- The magnitude bits of the double nearest to a number that is not negative. -/
def roundBits (x : ℚ) : ℕ :=
  if x ≤ 0 then 0
  else min infinityBits
    ((gridOf x - minExponent).toNat * leadingBit + halfEven (x / 2 ^ gridOf x))

/-- The value of the double nearest to a number. -/
def rounded (x : ℚ) : ℚ :=
  signed (x < 0) (bitsValue (roundBits |x|))

lemma halfEven_natCast (n : ℕ) : halfEven n = n := by
  rw [halfEven, Nat.floor_natCast, sub_self, if_pos (by norm_num)]

lemma floor_le_halfEven (x : ℚ) : ⌊x⌋₊ ≤ halfEven x := by
  unfold halfEven
  split
  · exact le_rfl
  split
  · exact Nat.le_succ _
  · exact Nat.le_add_right _ _

lemma halfEven_le {x : ℚ} {n : ℕ} (nonneg : 0 ≤ x) (h : x < n) : halfEven x ≤ n := by
  have floor : ⌊x⌋₊ < n := (Nat.floor_lt nonneg).2 h
  unfold halfEven
  split
  · exact floor.le
  split
  · exact floor
  · omega

lemma halfEven_mono {x y : ℚ} (h : x ≤ y) : halfEven x ≤ halfEven y := by
  have floors : ⌊x⌋₊ ≤ ⌊y⌋₊ := Nat.floor_mono h
  rcases floors.lt_or_eq with lt | same
  · have above : halfEven x ≤ ⌊x⌋₊ + 1 := by
      unfold halfEven
      split
      · omega
      split <;> omega
    have below := floor_le_halfEven y
    omega
  · unfold halfEven
    rw [same]
    by_cases left : y - ⌊y⌋₊ < 1 / 2
    · rw [if_pos left, if_pos (by linarith)]
    · rw [if_neg left]
      by_cases right : 1 / 2 < y - ⌊y⌋₊
      · rw [if_pos right]
        split
        · omega
        split <;> omega
      · rw [if_neg right]
        split
        · omega
        rw [if_neg (by linarith)]

lemma roundBits_le (x : ℚ) : roundBits x ≤ infinityBits := by
  unfold roundBits
  split
  · exact Nat.zero_le _
  · exact Nat.min_le_left _ _

lemma minExponent_le_gridOf (x : ℚ) : minExponent ≤ gridOf x := le_max_right _ _

lemma le_log {x : ℚ} {t : ℤ} (hx : 0 < x) (low : 2 ^ t ≤ x) : t ≤ Int.log 2 x :=
  (Int.zpow_le_iff_le_log (b := 2) one_lt_two hx).1 (by exact_mod_cast low)

lemma log_lt {x : ℚ} {t : ℤ} (hx : 0 < x) (high : x < 2 ^ t) : Int.log 2 x < t :=
  (Int.lt_zpow_iff_log_lt (b := 2) one_lt_two hx).1 (by exact_mod_cast high)

lemma log_eq {x : ℚ} {t : ℤ} (hx : 0 < x) (low : 2 ^ t ≤ x) (high : x < 2 ^ (t + 1)) :
    Int.log 2 x = t := by
  have below := le_log hx low
  have above := log_lt hx high
  omega

/-- On its grid a number has at most the length of a significand. -/
lemma halfEven_grid_le {x : ℚ} (pos : 0 < x) :
    halfEven (x / 2 ^ gridOf x) ≤ 2 * leadingBit := by
  refine halfEven_le (div_pos pos (two_zpow_pos _)).le ?_
  have high : x < (2 : ℚ) ^ (Int.log 2 x + 1) := by
    exact_mod_cast Int.lt_zpow_succ_log_self (b := 2) one_lt_two x
  have long : ((2 * leadingBit : ℕ) : ℚ) = 2 ^ (53 : ℤ) := by
    unfold leadingBit
    norm_num
  rw [div_lt_iff₀ (two_zpow_pos _), long, ← zpow_add₀ two_ne_zero]
  refine high.trans_le (zpow_le_zpow_right₀ one_le_two ?_)
  have := le_max_left (Int.log 2 x - 52) minExponent
  rw [gridOf]
  omega

/-- On a grid above the least one it has that length. -/
lemma leadingBit_le_halfEven {x : ℚ} (pos : 0 < x) (h : minExponent < gridOf x) :
    leadingBit ≤ halfEven (x / 2 ^ gridOf x) := by
  have grid : gridOf x = Int.log 2 x - 52 := by
    unfold gridOf at *
    omega
  refine le_trans (Nat.le_floor ?_) (floor_le_halfEven _)
  have low : (2 : ℚ) ^ Int.log 2 x ≤ x := by
    exact_mod_cast Int.zpow_log_le_self (b := 2) one_lt_two pos
  rw [le_div_iff₀ (two_zpow_pos _), leadingBit_cast, ← zpow_add₀ two_ne_zero, grid]
  exact le_trans (le_of_eq (by congr 1; omega)) low

/-- The grid of a multiple of a power of two, if the factor has the length of a significand. -/
lemma gridOf_mul {k m : ℕ} (hm : m ≠ 0) (h : k = 0 ∨ leadingBit ≤ m) (lt : m < 2 * leadingBit) :
    gridOf (m * 2 ^ (k + minExponent)) = k + minExponent := by
  have pos : (0 : ℚ) < m := by exact_mod_cast Nat.pos_of_ne_zero hm
  have unit := two_zpow_pos (k + minExponent)
  have log : Int.log 2 ((m : ℚ) * 2 ^ (k + minExponent)) = Nat.log2 m + (k + minExponent) := by
    apply log_eq (mul_pos pos unit)
    · rw [zpow_add₀ two_ne_zero (m.log2 : ℤ), zpow_natCast]
      exact mul_le_mul_of_nonneg_right (by exact_mod_cast Nat.log2_self_le hm) unit.le
    · rw [add_right_comm, zpow_add₀ two_ne_zero (m.log2 + 1 : ℤ)]
      have high : (m : ℚ) < 2 ^ ((m.log2 : ℤ) + 1) := by
        exact_mod_cast Nat.lt_log2_self
      exact mul_lt_mul_of_pos_right high unit
  have length : m.log2 < 53 := (Nat.log2_lt hm).2 lt
  rw [gridOf, log]
  rcases h with rfl | long
  · rw [Nat.cast_zero, zero_add]
    exact max_eq_right (by omega)
  · have full : 52 ≤ m.log2 := (Nat.le_log2 hm).2 long
    exact (max_eq_left (by omega)).trans (by omega)

lemma gridOf_mono {x y : ℚ} (pos : 0 < x) (h : x ≤ y) : gridOf x ≤ gridOf y := by
  have log : Int.log 2 x ≤ Int.log 2 y := Int.log_mono_right pos h
  unfold gridOf
  omega

/-- Greater numbers are not rounded to lesser doubles. -/
lemma roundBits_mono {x y : ℚ} (h : x ≤ y) : roundBits x ≤ roundBits y := by
  rcases le_or_gt x 0 with nonpos | pos
  · rw [roundBits, if_pos nonpos]
    exact Nat.zero_le _
  have pos' : 0 < y := pos.trans_le h
  have grid := minExponent_le_gridOf x
  rw [roundBits, roundBits, if_neg (not_le.2 pos), if_neg (not_le.2 pos')]
  refine min_le_min le_rfl ?_
  rcases (gridOf_mono pos h).lt_or_eq with finer | same
  · -- on a finer grid the significand cannot reach the next binade
    have high := halfEven_grid_le pos
    have low := leadingBit_le_halfEven pos' (grid.trans_lt finer)
    have steps : (gridOf x - minExponent).toNat + 1 ≤ (gridOf y - minExponent).toNat := by
      omega
    have scaled := Nat.mul_le_mul_right leadingBit steps
    rw [Nat.succ_mul] at scaled
    omega
  · rw [same]
    refine Nat.add_le_add_left (halfEven_mono ?_) _
    exact div_le_div_of_nonneg_right h (two_zpow_pos _).le

/-- Doubles are not changed by rounding. -/
lemma roundBits_bitsValue {bits : ℕ} (h : bits ≤ infinityBits) :
    roundBits (bitsValue bits) = bits := by
  rcases Nat.eq_zero_or_pos bits with rfl | pos
  · rw [bitsValue_zero, roundBits, if_pos le_rfl]
  have apart := eq_binade_add_significand bits
  have nonzero : significand bits ≠ 0 := by
    intro zero
    rcases leadingBit_le_significand bits with least | long
    · rw [zero, least] at apart
      omega
    · rw [zero] at long
      exact absurd long (by decide)
  have grid := gridOf_mul nonzero (leadingBit_le_significand bits) (significand_lt bits)
  rw [← bitsValue] at grid
  rw [roundBits, if_neg (not_le.2 (bitsValue_pos pos.ne')), grid, bitsValue,
    mul_div_cancel_right₀ _ (two_zpow_pos _).ne', halfEven_natCast, add_sub_cancel_right,
    Int.toNat_natCast, ← apart, Nat.min_eq_right h]

/-- From the power of two above all doubles on, the nearest double is infinity. -/
lemma roundBits_of_large {x : ℚ} (h : 2 ^ (1024 : ℤ) ≤ x) : roundBits x = infinityBits := by
  have pos : 0 < x := (two_zpow_pos 1024).trans_le h
  have log : 1024 ≤ Int.log 2 x := le_log pos h
  have grid : gridOf x = Int.log 2 x - 52 := by
    rw [gridOf]
    exact max_eq_left (by unfold minExponent; omega)
  have long := leadingBit_le_halfEven pos (by rw [grid]; unfold minExponent; omega)
  have far : 2046 ≤ (gridOf x - minExponent).toNat := by
    unfold minExponent
    omega
  rw [roundBits, if_neg (not_le.2 pos), Nat.min_eq_left]
  unfold infinityBits leadingBit at *
  omega

/-! ## Rounding with integers -/

/-- A fraction is its whole part and the rest over the denominator. -/
lemma div_eq_add_rest (num : ℕ) {den : ℕ} (h : 0 < den) :
    (num : ℚ) / den = (num / den : ℕ) + (num % den : ℕ) / (den : ℚ) := by
  have pos : (0 : ℚ) < den := by exact_mod_cast h
  rw [div_eq_iff pos.ne', add_mul, div_mul_cancel₀ _ pos.ne']
  exact_mod_cast (Nat.div_add_mod' num den).symm

lemma divHalfEven_eq {num den : ℕ} (h : 0 < den) :
    divHalfEven num den = halfEven (num / den : ℚ) := by
  have pos : (0 : ℚ) < den := by exact_mod_cast h
  have whole : ⌊(num : ℚ) / den⌋₊ = num / den := Nat.floor_div_eq_div num den
  have rest : (num : ℚ) / den - (num / den : ℕ) = (num % den : ℕ) / den :=
    sub_eq_of_eq_add' (div_eq_add_rest num h)
  have below : ((num % den : ℕ) : ℚ) / den < 1 / 2 ↔ 2 * (num % den) < den := by
    rw [div_lt_div_iff₀ pos two_pos, one_mul, mul_comm]
    exact_mod_cast Iff.rfl
  have above : 1 / 2 < ((num % den : ℕ) : ℚ) / den ↔ den < 2 * (num % den) := by
    rw [div_lt_div_iff₀ two_pos pos, one_mul, mul_comm _ (2 : ℚ)]
    exact_mod_cast Iff.rfl
  unfold divHalfEven halfEven
  simp only [whole, rest, below, above]

lemma two_pow_toNat (k : ℤ) : (2 : ℚ) ^ k.toNat = 2 ^ k * 2 ^ (-k).toNat := by
  rw [← zpow_natCast, ← zpow_natCast, ← zpow_add₀ two_ne_zero]
  congr 1
  omega

lemma shiftLeft_cast (n k : ℕ) : ((n <<< k : ℕ) : ℚ) = n * 2 ^ k := by
  rw [Nat.shiftLeft_eq]
  push_cast
  rfl

/-- Shifting numerator and denominator scales a quotient by a power of two. -/
lemma shifted_div (num : ℕ) {den : ℕ} (h : den ≠ 0) (k : ℤ) :
    ((num <<< (-k).toNat : ℕ) : ℚ) / (den <<< k.toNat : ℕ) = num / den / 2 ^ k := by
  have den_ne : (den : ℚ) ≠ 0 := by exact_mod_cast h
  have unit : (2 : ℚ) ^ k ≠ 0 := (two_zpow_pos k).ne'
  rw [shiftLeft_cast, shiftLeft_cast, two_pow_toNat k]
  field_simp

lemma shiftLeft_pos {n : ℕ} (h : n ≠ 0) (k : ℕ) : 0 < n <<< k := by
  rw [Nat.shiftLeft_eq]
  positivity

lemma denominator_pos (q : ℤ) : 0 < denominator q := shiftLeft_pos one_ne_zero _

/-- Numerator and denominator of a multiple of a power of two are those of a quotient. -/
lemma numerator_div_denominator (m : ℕ) (q : ℤ) :
    (numerator m q : ℚ) / denominator q = m * 2 ^ q := by
  have scaled := shifted_div m one_ne_zero (-q)
  rw [neg_neg, Nat.cast_one, div_one, zpow_neg, div_inv_eq_mul] at scaled
  exact scaled

lemma binade_eq {num den : ℕ} (hn : num ≠ 0) (hd : den ≠ 0) :
    binade num den = Int.log 2 (num / den : ℚ) := by
  have num_pos : (0 : ℚ) < num := by exact_mod_cast Nat.pos_of_ne_zero hn
  have den_pos : (0 : ℚ) < den := by exact_mod_cast Nat.pos_of_ne_zero hd
  have positive : (0 : ℚ) < num / den := div_pos num_pos den_pos
  have test (k : ℤ) : den <<< k.toNat ≤ num <<< (-k).toNat ↔ (2 : ℚ) ^ k ≤ num / den := by
    have shifted : (0 : ℚ) < (den <<< k.toNat : ℕ) := by exact_mod_cast shiftLeft_pos hd _
    rw [← one_le_div₀ (two_zpow_pos k), ← shifted_div num hd, one_le_div₀ shifted]
    exact_mod_cast Iff.rfl
  have numLow : (2 : ℚ) ^ (num.log2 : ℤ) ≤ num := by exact_mod_cast Nat.log2_self_le hn
  have numHigh : (num : ℚ) < 2 ^ ((num.log2 : ℤ) + 1) := by exact_mod_cast Nat.lt_log2_self
  have denLow : (2 : ℚ) ^ (den.log2 : ℤ) ≤ den := by exact_mod_cast Nat.log2_self_le hd
  have denHigh : (den : ℚ) < 2 ^ ((den.log2 : ℤ) + 1) := by exact_mod_cast Nat.lt_log2_self
  have low : (2 : ℚ) ^ ((num.log2 : ℤ) - den.log2 - 1) ≤ num / den := by
    rw [le_div_iff₀ den_pos]
    calc (2 : ℚ) ^ ((num.log2 : ℤ) - den.log2 - 1) * den
        ≤ 2 ^ ((num.log2 : ℤ) - den.log2 - 1) * 2 ^ ((den.log2 : ℤ) + 1) :=
          mul_le_mul_of_nonneg_left denHigh.le (two_zpow_pos _).le
      _ = 2 ^ (num.log2 : ℤ) := by
          rw [← zpow_add₀ two_ne_zero]
          congr 1
          ring
      _ ≤ num := numLow
  have high : (num / den : ℚ) < 2 ^ ((num.log2 : ℤ) - den.log2 + 1) := by
    rw [div_lt_iff₀ den_pos]
    calc (num : ℚ) < 2 ^ ((num.log2 : ℤ) + 1) := numHigh
      _ = 2 ^ ((num.log2 : ℤ) - den.log2 + 1) * 2 ^ (den.log2 : ℤ) := by
          rw [← zpow_add₀ two_ne_zero]
          congr 1
          ring
      _ ≤ 2 ^ ((num.log2 : ℤ) - den.log2 + 1) * den :=
          mul_le_mul_of_nonneg_left denLow (two_zpow_pos _).le
  simp only [binade]
  split
  · rename_i fits
    exact (log_eq positive ((test _).1 fits) high).symm
  · rename_i less
    rw [test, not_le] at less
    exact (log_eq positive low (by simpa using less)).symm

/-- The integer arithmetic computes the nearest double. -/
lemma nearestBits_eq (num : ℕ) {den : ℕ} (h : den ≠ 0) :
    nearestBits num den = roundBits (num / den : ℚ) := by
  by_cases zero : num = 0
  · rw [zero, Nat.cast_zero, zero_div, roundBits, if_pos le_rfl]
    rfl
  have num_pos : (0 : ℚ) < num := by exact_mod_cast Nat.pos_of_ne_zero zero
  have den_pos : (0 : ℚ) < den := by exact_mod_cast Nat.pos_of_ne_zero h
  have grid : max (binade num den - 52) minExponent = gridOf (num / den) := by
    rw [binade_eq zero h, gridOf]
  rw [nearestBits, if_neg zero, roundBits, if_neg (not_le.2 (div_pos num_pos den_pos))]
  simp only [grid]
  rw [divHalfEven_eq (shiftLeft_pos h _), shifted_div num h]

end PerfGate.Decimal
