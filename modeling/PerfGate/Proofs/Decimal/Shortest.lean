import PerfGate.Decimal.Shortest
import PerfGate.Proofs.Decimal.Rounding

/-!
# The shortest digits round to the double

`Numeral.nearestBits` is correct rounding of the number that a numeral stands for, although it does
not compute powers of ten that are far off (`nearestBits_numeral`). Whatever numeral `shortest`
finds is nearest to the double it was searched for (`nearestBits_shortest`): a grid gives only what
it has tested, and the numeral taken when every grid fails is the value itself.
-/

namespace PerfGate.Decimal

/-- The number that a numeral stands for. -/
def Numeral.value (n : Numeral) : ℚ :=
  n.digits * 10 ^ n.exponent

lemma ten_zpow_pos (e : ℤ) : (0 : ℚ) < 10 ^ e := zpow_pos (by norm_num) e

/-- The powers of two and of ten that bound the doubles. -/
lemma two_zpow_le_ten_zpow : (2 : ℚ) ^ (1023 : ℤ) ≤ 10 ^ (308 : ℤ) := by
  calc (2 : ℚ) ^ (1023 : ℤ) = (2 ^ (93 : ℤ)) ^ (11 : ℤ) := zpow_mul _ 93 11
    _ ≤ (10 ^ (28 : ℤ)) ^ (11 : ℤ) := zpow_le_zpow_left₀ (by norm_num) (by norm_num) (by norm_num)
    _ = 10 ^ (308 : ℤ) := (zpow_mul _ 28 11).symm

lemma halfEven_of_lt {x : ℚ} (h : x < 1 / 2) : halfEven x = 0 := by
  have floor : ⌊x⌋₊ = 0 := Nat.floor_eq_zero.2 (h.trans (by norm_num))
  rw [halfEven, floor, Nat.cast_zero, sub_zero, if_pos h]

/-- Below half of the least positive double, the nearest double is zero. -/
lemma roundBits_of_small {x : ℚ} (h : x < 2 ^ (-1075 : ℤ)) : roundBits x = 0 := by
  rcases le_or_gt x 0 with nonpos | pos
  · rw [roundBits, if_pos nonpos]
  have log : Int.log 2 x < -1075 := log_lt pos h
  have grid : gridOf x = minExponent := by
    rw [gridOf]
    exact max_eq_right (by unfold minExponent; omega)
  have short : x / 2 ^ minExponent < 1 / 2 := by
    rw [div_lt_iff₀ (two_zpow_pos _)]
    refine h.trans_le (le_of_eq ?_)
    rw [show (1 / 2 : ℚ) = 2 ^ (-1 : ℤ) by norm_num, ← zpow_add₀ two_ne_zero]
    rfl
  rw [roundBits, if_neg (not_le.2 pos), grid, halfEven_of_lt short, sub_self]
  rfl

/-- A numeral as the fraction that is rounded. -/
lemma value_numeral (n : Numeral) : n.value =
    ((n.digits * Nat.pow 10 n.exponent.toNat : ℕ) : ℚ) / (Nat.pow 10 (-n.exponent).toNat : ℕ) := by
  rw [Numeral.value]
  cases n.exponent with
  | ofNat e => simp
  | negSucc e => simp [Int.neg_negSucc, div_eq_mul_inv]

/-- A numeral is rounded correctly. -/
lemma nearestBits_numeral (n : Numeral) : n.nearestBits = roundBits n.value := by
  unfold Numeral.nearestBits
  split
  · rename_i zero
    rw [Numeral.value, zero, Nat.cast_zero, zero_mul, roundBits, if_pos le_rfl]
  rename_i nonzero
  split
  · rename_i large
    refine (roundBits_of_large ?_).symm
    have digits : (1 : ℚ) ≤ n.digits := by exact_mod_cast Nat.one_le_iff_ne_zero.2 nonzero
    calc (2 : ℚ) ^ (1024 : ℤ) = 2 ^ (1023 : ℤ) * 2 := zpow_add_one₀ two_ne_zero 1023
      _ ≤ 10 ^ (308 : ℤ) * 10 ^ (2 : ℤ) :=
          mul_le_mul two_zpow_le_ten_zpow (by norm_num) two_pos.le (ten_zpow_pos _).le
      _ = 10 ^ (310 : ℤ) := (zpow_add₀ (by norm_num) _ _).symm
      _ ≤ 10 ^ n.exponent := zpow_le_zpow_right₀ (by norm_num) large
      _ ≤ n.value := le_mul_of_one_le_left (ten_zpow_pos _).le digits
  split
  · rename_i small
    refine (roundBits_of_small ?_).symm
    have digits : (n.digits : ℚ) < 10 ^ ((n.digits.log2 : ℤ) + 1) := by
      calc (n.digits : ℚ) < 2 ^ ((n.digits.log2 : ℤ) + 1) := by exact_mod_cast Nat.lt_log2_self
        _ ≤ 10 ^ ((n.digits.log2 : ℤ) + 1) :=
            zpow_le_zpow_left₀ (by omega) (by norm_num) (by norm_num)
    have bound : (10 : ℚ) ^ (-324 : ℤ) ≤ 2 ^ (-1075 : ℤ) := by
      rw [zpow_neg, zpow_neg]
      refine inv_anti₀ (two_zpow_pos _) ?_
      calc (2 : ℚ) ^ (1075 : ℤ) = 2 ^ (1023 : ℤ) * 2 ^ (52 : ℤ) := zpow_add₀ two_ne_zero 1023 52
        _ ≤ 10 ^ (308 : ℤ) * 10 ^ (16 : ℤ) :=
            mul_le_mul two_zpow_le_ten_zpow (by norm_num) (two_zpow_pos _).le (ten_zpow_pos _).le
        _ = 10 ^ (324 : ℤ) := (zpow_add₀ (by norm_num) 308 16).symm
    calc n.value < 10 ^ ((n.digits.log2 : ℤ) + 1) * 10 ^ n.exponent :=
          mul_lt_mul_of_pos_right digits (ten_zpow_pos _)
      _ = 10 ^ (n.exponent + (n.digits.log2 + 1)) := by
          rw [← zpow_add₀ (by norm_num), add_comm]
      _ ≤ 10 ^ (-324 : ℤ) := zpow_le_zpow_right₀ (by norm_num) small
      _ ≤ 2 ^ (-1075 : ℤ) := bound
  · rw [value_numeral]
    exact nearestBits_eq _ (Nat.pow_pos (by decide)).ne'

/-! ## The search -/

/-- A grid gives only what reads back. -/
lemma nearestBits_onGrid {tie : Tie} {bits m : ℕ} {q k : ℤ} {n : Numeral}
    (h : onGrid tie bits m q k = some n) : n.nearestBits = bits := by
  unfold onGrid at h
  simp only at h
  split at h
  · rename_i lower upper
    split at h
    · cases h
      exact eq_of_beq lower
    · cases h
      exact eq_of_beq upper
    · cases h
      exact eq_of_beq upper
    · cases h
      split
      · exact eq_of_beq lower
      · exact eq_of_beq upper
  · rename_i lower _
    cases h
    exact eq_of_beq lower
  · rename_i _ upper
    cases h
    exact eq_of_beq upper
  · cases h

/-- The value itself as a numeral. -/
lemma value_exact (m : ℕ) (q : ℤ) :
    Numeral.value ⟨numerator m q * Nat.pow 5 (-q).toNat, min q 0⟩ = m * 2 ^ q := by
  unfold Numeral.value numerator
  cases q with
  | ofNat e => simp [Nat.shiftLeft_eq]
  | negSucc e =>
    have least : min (Int.negSucc e) 0 = Int.negSucc e := min_eq_left (Int.negSucc_lt_zero e).le
    have ten : (10 : ℚ) ^ (e + 1) = 5 ^ (e + 1) * 2 ^ (e + 1) := by
      rw [← mul_pow]
      norm_num
    rw [least, zpow_negSucc, zpow_negSucc, ten]
    simp
    field_simp

lemma nearestBits_firstOnGrid {tie : Tie} {bits m : ℕ} {q : ℤ}
    (exact : roundBits (m * 2 ^ q) = bits) (k : ℤ) (steps : ℕ) :
    (firstOnGrid tie bits m q k steps).nearestBits = bits := by
  induction steps generalizing k with
  | zero =>
    rw [firstOnGrid, nearestBits_numeral, value_exact, exact]
  | succ steps ih =>
    rw [firstOnGrid]
    split
    · rename_i found
      exact nearestBits_onGrid found
    · exact ih (k - 1)

/-- The shortest digits of a double are nearest to it. -/
lemma nearestBits_shortest (tie : Tie) {bits m : ℕ} {q : ℤ}
    (exact : roundBits (m * 2 ^ q) = bits) : (shortest tie bits m q).nearestBits = bits :=
  nearestBits_firstOnGrid exact _ _

end PerfGate.Decimal
