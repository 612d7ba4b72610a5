import PerfGate.Proofs.Decimal.RelativeError
import PerfGate.Proofs.Gate.Boundary

/-!
# Changes that are apart from the threshold

Each of the three operations moves a percentage by a share of it of at most `unitRoundoff`, so a
change is classified as its exact amount says whenever this amount is apart from the threshold by
more than `margin` of it (`classifiesExactly_of_apart`). Rounding can decide only within this margin
of the threshold.
-/

namespace PerfGate

open Decimal

/-- The share of a threshold within which rounding can carry a change across it. -/
def margin : ℚ := 1 / 2 ^ 50

lemma Decimal.leastNormal_le : leastNormal ≤ 1 / 2 ^ 60 := by
  have power : (1 / 2 ^ 60 : ℚ) = 2 ^ (-60 : ℤ) := by norm_num
  rw [power]
  exact zpow_le_zpow_right₀ one_le_two (by norm_num)

/-- The amount of the rounded change is the exact amount, rounded at the same places. -/
lemma abs_roundedChange {b : ℚ} (c : ℚ) (pos : 0 < b) :
    |roundedChange b c| = rounded (rounded (rounded |c - b| / b) * 100) := by
  rw [roundedChange, abs_rounded, abs_mul, abs_rounded, abs_div, abs_rounded, abs_of_pos pos]
  norm_num

section

variable {m n : ℕ}

/-- The difference of two doubles is rounded, if at all, within the normal ones. -/
lemma rounded_difference (hm : m < infinityBits) (hn : n < infinityBits) :
    |bitsValue n - bitsValue m| * (1 - unitRoundoff) ≤ rounded |bitsValue n - bitsValue m| ∧
      rounded |bitsValue n - bitsValue m| ≤ |bitsValue n - bitsValue m| * (1 + unitRoundoff) := by
  have nonneg : 0 ≤ |bitsValue n - bitsValue m| * unitRoundoff := by
    unfold unitRoundoff
    positivity
  rcases lt_or_ge |bitsValue n - bitsValue m| leastNormal with small | normal
  · rw [rounded_abs_sub small]
    constructor <;> linarith
  refine ⟨(le_rounded normal).resolve_right fun infinite => ?_, rounded_le normal⟩
  -- the difference is at most the greater of the two, so it cannot overflow
  have greater : max n m < infinityBits := max_lt hn hm
  have least : |bitsValue n - bitsValue m| ≤ bitsValue (max n m) := by
    apply abs_sub_le_of_nonneg_of_le (bitsValue_nonneg n) _ (bitsValue_nonneg m)
    · exact strictMono_bitsValue.monotone (le_max_right n m)
    · exact strictMono_bitsValue.monotone (le_max_left n m)
  have bound := rounded_le_rounded (abs_nonneg _) least
  rw [infinite, rounded_bitsValue greater.le, ← bitsValue_infinityBits] at bound
  exact bound.not_gt (strictMono_bitsValue greater)

/-- The quotient of a difference of distinct doubles is never below the normal ones. -/
lemma leastNormal_le_quotient (hm : m < infinityBits) (hn : n < infinityBits) (ne : n ≠ m)
    (pos : 0 < bitsValue m) :
    leastNormal ≤ rounded |bitsValue n - bitsValue m| / bitsValue m := by
  have far := bitsValue_div_le_abs_sub ne
  have near := (rounded_difference hm hn).1
  unfold unitRoundoff at near
  refine leastNormal_le.trans ?_
  rw [le_div_iff₀ pos]
  linarith

/-- Nor is the percentage before its last rounding. -/
lemma leastNormal_le_percentage {q : ℚ} (normal : leastNormal ≤ q) :
    leastNormal ≤ rounded q * 100 := by
  have pos := leastNormal_pos
  rcases le_rounded normal with near | infinite
  · unfold unitRoundoff at near
    linarith
  · have large : (1 : ℚ) ≤ 2 ^ (1024 : ℤ) := one_le_zpow₀ one_le_two (by norm_num)
    rw [infinite]
    calc leastNormal
        ≤ 1 / 2 ^ 60 := leastNormal_le
      _ ≤ 1 := by norm_num
      _ ≤ 2 ^ (1024 : ℤ) := large
      _ ≤ 2 ^ (1024 : ℤ) * 100 := le_mul_of_one_le_right (two_zpow_pos 1024).le (by norm_num)

/-- The rounded change is not much greater than the exact one. -/
lemma abs_roundedChange_le (hm : m < infinityBits) (hn : n < infinityBits)
    (pos : 0 < bitsValue m) (ne : n ≠ m) :
    |roundedChange (bitsValue m) (bitsValue n)| * bitsValue m ≤
      100 * |bitsValue n - bitsValue m| * (1 + unitRoundoff) ^ 3 := by
  have normal := leastNormal_le_quotient hm hn ne pos
  have difference := (rounded_difference hm hn).2
  have quotient := rounded_le normal
  have percentage := rounded_le (leastNormal_le_percentage normal)
  have factor : 0 < 1 + unitRoundoff := by
    unfold unitRoundoff
    norm_num
  rw [abs_roundedChange _ pos]
  generalize |bitsValue n - bitsValue m| = d at *
  generalize rounded d = d' at *
  calc rounded (rounded (d' / bitsValue m) * 100) * bitsValue m
      ≤ rounded (d' / bitsValue m) * 100 * (1 + unitRoundoff) * bitsValue m := by gcongr
    _ ≤ d' / bitsValue m * (1 + unitRoundoff) * 100 * (1 + unitRoundoff) * bitsValue m := by gcongr
    _ = 100 * d' * (1 + unitRoundoff) ^ 2 := by field_simp
    _ ≤ 100 * (d * (1 + unitRoundoff)) * (1 + unitRoundoff) ^ 2 := by gcongr
    _ = 100 * d * (1 + unitRoundoff) ^ 3 := by ring

/-- Nor is it much less, unless it overflows. -/
lemma le_abs_roundedChange (hm : m < infinityBits) (hn : n < infinityBits)
    (pos : 0 < bitsValue m) (ne : n ≠ m) :
    100 * |bitsValue n - bitsValue m| * (1 - unitRoundoff) ^ 3 ≤
        |roundedChange (bitsValue m) (bitsValue n)| * bitsValue m ∨
      |roundedChange (bitsValue m) (bitsValue n)| = 2 ^ (1024 : ℤ) := by
  have normal := leastNormal_le_quotient hm hn ne pos
  have difference := (rounded_difference hm hn).1
  have factor : 0 < 1 - unitRoundoff := by
    unfold unitRoundoff
    norm_num
  rw [abs_roundedChange _ pos]
  rcases le_rounded (leastNormal_le_percentage normal) with percentage | infinite
  · rcases le_rounded normal with quotient | infinite
    · left
      generalize |bitsValue n - bitsValue m| = d at *
      generalize rounded d = d' at *
      calc 100 * d * (1 - unitRoundoff) ^ 3
          = 100 * (d * (1 - unitRoundoff)) * (1 - unitRoundoff) ^ 2 := by ring
        _ ≤ 100 * d' * (1 - unitRoundoff) ^ 2 := by gcongr
        _ = d' / bitsValue m * (1 - unitRoundoff) * 100 * (1 - unitRoundoff) * bitsValue m := by
          field_simp
        _ ≤ rounded (d' / bitsValue m) * 100 * (1 - unitRoundoff) * bitsValue m := by gcongr
        _ ≤ rounded (rounded (d' / bitsValue m) * 100) * bitsValue m := by gcongr
    · -- an infinite quotient stays infinite when it is multiplied
      right
      rw [infinite]
      apply rounded_of_large
      exact le_mul_of_one_le_right (two_zpow_pos 1024).le (by norm_num)
  · exact .inr infinite

/-- Apart from the threshold, the rounded amount is on the side of the exact one. -/
lemma lt_abs_roundedChange_iff {k : ℕ} (hm : m < infinityBits) (hn : n < infinityBits)
    (hk : k < infinityBits) (pos : 0 < bitsValue m) (positive : 0 < bitsValue k)
    (apart : bitsValue k * bitsValue m * margin <
      |100 * |bitsValue n - bitsValue m| - bitsValue k * bitsValue m|) :
    bitsValue k < |roundedChange (bitsValue m) (bitsValue n)| ↔
      bitsValue k * bitsValue m < 100 * |bitsValue n - bitsValue m| := by
  have scaled := mul_pos positive pos
  rcases eq_or_ne n m with rfl | ne
  · simp only [roundedChange, sub_self, rounded_zero, zero_div, zero_mul, abs_zero, mul_zero]
    exact iff_of_false positive.not_gt scaled.not_gt
  have above := le_abs_roundedChange hm hn pos ne
  have below := abs_roundedChange_le hm hn pos ne
  rw [← mul_lt_mul_iff_left₀ pos]
  unfold margin at apart
  unfold unitRoundoff at above below
  rcases lt_or_ge (bitsValue k * bitsValue m) (100 * |bitsValue n - bitsValue m|) with more | less
  · refine iff_of_true ?_ more
    rw [abs_of_pos (sub_pos.2 more)] at apart
    rcases above with above | infinite
    · linarith
    · rw [infinite, ← bitsValue_infinityBits]
      exact mul_lt_mul_of_pos_right (strictMono_bitsValue hk) pos
  · refine iff_of_false ?_ less.not_gt
    rw [abs_of_nonpos (sub_nonpos.2 less)] at apart
    linarith

end

/-- A name that both stores hold with finite positive values is classified exactly if its change is
apart from the threshold. -/
theorem classifiesExactly_of_apart {baseline current : Store} {policy : Policy} {name : String}
    {b c : Float} (stored : baseline.get? name = some b) (stored' : current.get? name = some c)
    (hb : isFinite b) (pos : 0 < b) (hc : isFinite c) (pos' : 0 < c)
    (valid : Policy.isValidPct (policy.effective name))
    (apart : value (policy.effective name) * value b * margin <
      |100 * |value c - value b| - value (policy.effective name) * value b|) :
    (compareStores baseline current policy).ClassifiesExactly name (value b) (value c)
      (value (policy.effective name)) := by
  have listed := mem_namesOf_rounded stored stored' hb pos hc pos' valid
  have positive := Policy.value_pos_of_isValidPct valid
  have ht := lt_infinityBits_of_isFinite (Bool.and_eq_true_iff.1 valid).1
  have hb := lt_infinityBits_of_isFinite hb
  have hc := lt_infinityBits_of_isFinite hc
  rw [pos_iff_value hb.le] at pos
  rw [pos_iff_value hc.le] at pos'
  rw [Comparison.classifiesExactly_iff pos positive listed]
  have baselineBits := value_of_nonneg pos.le
  have thresholdBits := value_of_nonneg positive.le
  rw [baselineBits] at pos
  rw [thresholdBits] at positive
  rw [baselineBits, value_of_nonneg pos'.le, thresholdBits] at apart ⊢
  exact lt_abs_roundedChange_iff hb hc ht pos positive apart

end PerfGate
