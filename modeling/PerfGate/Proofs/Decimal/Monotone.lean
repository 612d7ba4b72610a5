import PerfGate.Proofs.Decimal.Order
import PerfGate.Proofs.Decimal.RelativeError

/-!
# What operations on doubles keep

Rounding keeps the order of numbers, whatever their signs (`monotone_rounded`), and goes by the
amount alone (`rounded_neg`). The result of an operation is a number only if both operands are
(`number_of_sub`, `number_of_div`, `number_of_mul`), and an infinite double has no quotient with
another one (`not_number_div_infinity`). A finite double less itself is zero
(`sub_self_of_finite`).
-/

namespace PerfGate.Decimal

open Float.Model (UnpackedFloat)
open Float.Model.UnpackedFloat

/-! ## Order -/

lemma rounded_of_nonpos {x : ℚ} (h : x ≤ 0) : rounded x = -rounded (-x) := by
  have nonneg : 0 ≤ -x := neg_nonneg.2 h
  have mirrored : rounded (- -x) = -bitsValue (roundBits (-x)) := rounded_signed true nonneg
  rw [neg_neg] at mirrored
  rw [mirrored, rounded_of_nonneg nonneg]

/-- Rounding is the same on both sides of zero. -/
lemma rounded_neg (x : ℚ) : rounded (-x) = -rounded x := by
  rcases le_total 0 x with nonneg | nonpos
  · rw [rounded_of_nonpos (neg_nonpos.2 nonneg), neg_neg]
  · rw [rounded_of_nonpos nonpos, neg_neg]

/-- Rounding keeps the order. -/
theorem monotone_rounded : Monotone rounded := by
  intro x y h
  rcases le_total 0 x with nonneg | nonpos
  · exact rounded_le_rounded nonneg h
  rcases le_total 0 y with nonneg' | nonpos'
  · exact (rounded_nonpos nonpos).trans (rounded_nonneg nonneg')
  · rw [rounded_of_nonpos nonpos, rounded_of_nonpos nonpos']
    apply neg_le_neg
    exact rounded_le_rounded (neg_nonneg.2 nonpos') (neg_le_neg h)

/-! ## NaN -/

variable {x y : Float}

lemma unpacked_notANumber (negative : Bool) {bits : ℕ} (h : ¬ bits ≤ infinityBits) :
    unpacked negative bits = .notANumber :=
  if_pos (not_le.1 h)

lemma not_number_packed : ¬ magnitudeBits (packed .notANumber) ≤ infinityBits := by
  decide

/-- An operation that keeps NaN gives a number only on numbers. -/
lemma number_of_operation {f : UnpackedFloat → UnpackedFloat → UnpackedFloat}
    (left : ∀ v, f .notANumber v = .notANumber) (right : ∀ u, f u .notANumber = .notANumber)
    (h : magnitudeBits (packed (f (unpacked (isNegative x) (magnitudeBits x))
      (unpacked (isNegative y) (magnitudeBits y)))) ≤ infinityBits) :
    magnitudeBits x ≤ infinityBits ∧ magnitudeBits y ≤ infinityBits := by
  constructor
  · by_contra nan
    rw [unpacked_notANumber _ nan, left] at h
    exact not_number_packed h
  · by_contra nan
    rw [unpacked_notANumber _ nan, right] at h
    exact not_number_packed h

lemma number_of_sub (h : magnitudeBits (x - y) ≤ infinityBits) :
    magnitudeBits x ≤ infinityBits ∧ magnitudeBits y ≤ infinityBits := by
  rw [sub_eq] at h
  exact number_of_operation (fun _ => rfl) (fun u => by cases u <;> rfl) h

lemma number_of_mul (h : magnitudeBits (x * y) ≤ infinityBits) :
    magnitudeBits x ≤ infinityBits ∧ magnitudeBits y ≤ infinityBits := by
  rw [mul_eq] at h
  exact number_of_operation (fun _ => rfl) (fun u => by cases u <;> rfl) h

lemma number_of_div (h : magnitudeBits (x / y) ≤ infinityBits) :
    magnitudeBits x ≤ infinityBits ∧ magnitudeBits y ≤ infinityBits := by
  rw [div_eq] at h
  exact number_of_operation (fun _ => rfl) (fun u => by cases u <;> rfl) h

lemma number_of_neg (h : magnitudeBits (-x) ≤ infinityBits) : magnitudeBits x ≤ infinityBits := by
  by_contra nan
  rw [neg_eq, unpacked_notANumber _ nan] at h
  exact not_number_packed h

/-! ## Zero -/

/-- A finite double less itself is zero, and not the negative one. -/
lemma sub_self_of_finite (hx : magnitudeBits x < infinityBits) : x - x = 0 := by
  have zero : packed (.zero .positive) = 0 := by decide
  rw [sub_eq, ← zero]
  apply congrArg packed
  rcases unpacked_cases (isNegative x) hx.le with ⟨-, is⟩ | ⟨-, -, _, is⟩ | ⟨top, -⟩
  · rw [is]
    cases isNegative x <;> rfl
  · rw [is]
    have none (k e : ℤ) : normalize .binary64 (k - k) e .positive = .zero .positive := by
      rw [sub_self]
      rfl
    exact none _ _
  · exact absurd top hx.ne

/-- Zero over a positive double is zero again. -/
lemma zero_div_of_pos (hx : magnitudeBits x < infinityBits) (pos : 0 < value x) : 0 / x = 0 := by
  have nonzero : magnitudeBits x ≠ 0 := by
    intro zero
    rw [value, zero, bitsValue_zero, signed_zero] at pos
    exact lt_irrefl 0 pos
  have nonneg : isNegative x = false := by
    cases negative : isNegative x with
    | false => rfl
    | true =>
      rw [value, negative] at pos
      exact absurd (neg_pos.1 pos) (not_lt.2 (bitsValue_nonneg _))
  obtain ⟨sign, magnitude⟩ := parts_div (show magnitudeBits 0 < infinityBits by decide) hx nonzero
  apply eq_of_parts
  · rw [sign, nonneg]
    decide
  · have none : magnitudeBits 0 = 0 := by decide
    rw [magnitude, none, bitsValue_zero, zero_div]
    exact if_pos le_rfl

/-! ## Infinities -/

/-- A finite double less an infinity is an infinity. -/
lemma infinite_sub (hx : magnitudeBits x < infinityBits) (hy : magnitudeBits y = infinityBits) :
    magnitudeBits (x - y) = infinityBits := by
  have infinite : magnitudeBits (packed (.infinity (-signOf (isNegative y)))) = infinityBits := by
    rw [neg_signOf]
    exact (parts_packed_infinity _).2
  rw [sub_eq, hy, unpacked_infinity]
  rcases unpacked_cases (isNegative x) hx.le with ⟨-, zero⟩ | ⟨-, -, _, finite⟩ | ⟨top, -⟩
  · rw [zero]
    exact infinite
  · rw [finite]
    exact infinite
  · exact absurd top hx.ne

lemma not_number_div_infinity (hx : magnitudeBits x = infinityBits)
    (hy : magnitudeBits y = infinityBits) : ¬ magnitudeBits (x / y) ≤ infinityBits := by
  rw [div_eq, hx, hy, unpacked_infinity, unpacked_infinity]
  exact not_number_packed

end PerfGate.Decimal
