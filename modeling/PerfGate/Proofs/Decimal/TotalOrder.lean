import PerfGate.Proofs.Decimal.Order

/-!
# The total order of doubles

IEEE 754 has a total order beside the numerical one: it agrees with the numerical order where this
tells two doubles apart, puts the negative zero before the positive one, and NaN behind all numbers
(`Precedes`). `totalKey` gives every double its place in it (`totalKey_lt_iff`), and no two doubles
the same one (`totalKey_injective`).
-/

namespace PerfGate.Decimal

/-- The double comes before the other one in the total order. There is one NaN only, and its sign
bit is not set. -/
inductive Precedes (x y : Float) : Prop
  | number (h : x < y)
  | zero (negative : x = -0) (positive : y = 0)
  | nan (number : x.isNaN = false) (h : y.isNaN = true)

variable {x y : Float}

/-! ## NaN -/

lemma ofFloat_eq_nan (h : x.isNaN = true) : Binary.ofFloat x = .nan := by
  have above : ¬ magnitudeBits x ≤ infinityBits := by
    rw [← isNaN_eq_false_iff, h]
    exact Bool.noConfusion
  cases view : Binary.ofFloat x with
  | nan => rfl
  | infinite negative => exact absurd (parts_of_infinite view).2.le above
  | finite negative m q => exact absurd (parts_of_finite view).2.1.le above

/-- NaN has its place behind infinity. -/
lemma infinityBits_lt_totalKey (h : x.isNaN = true) : infinityBits < totalKey x := by
  have only : x = Float.ofBits 0x7FF8000000000000 := eq_of_nan (ofFloat_eq_nan h) (by decide)
  rw [only]
  decide

lemma totalKey_le_infinityBits (h : x.isNaN = false) : totalKey x ≤ infinityBits := by
  rw [isNaN_eq_false_iff] at h
  unfold totalKey
  split <;> omega

/-! ## Numbers -/

lemma lt_iff_signedBits (hx : x.isNaN = false) (hy : y.isNaN = false) :
    x < y ↔ signedBits (isNegative x) (magnitudeBits x) <
      signedBits (isNegative y) (magnitudeBits y) := by
  rw [isNaN_eq_false_iff] at hx hy
  rw [lt_iff_value hx hy, value, value, signed_lt_iff]

/-- The keys are in the order of the signed bits, but they tell the zeros apart. -/
lemma totalKey_lt_iff_signedBits (x y : Float) : totalKey x < totalKey y ↔
    signedBits (isNegative x) (magnitudeBits x) < signedBits (isNegative y) (magnitudeBits y) ∨
      (isNegative x = true ∧ isNegative y = false) ∧ magnitudeBits x = 0 ∧ magnitudeBits y = 0 := by
  unfold totalKey
  generalize isNegative x = n
  generalize isNegative y = n'
  cases n <;> cases n' <;> simp [signedBits] <;> omega

/-! ## The order -/

/-- The keys are in the total order. -/
theorem totalKey_lt_iff : totalKey x < totalKey y ↔ Precedes x y := by
  cases hx : x.isNaN with
  | true =>
    have top := infinityBits_lt_totalKey hx
    constructor
    · intro lt
      cases hy : y.isNaN with
      | true =>
        obtain rfl : x = y := eq_of_nan (ofFloat_eq_nan hx) (ofFloat_eq_nan hy)
        exact absurd lt (lt_irrefl _)
      | false =>
        have bound := totalKey_le_infinityBits hy
        exact absurd lt (by omega)
    · -- nothing comes behind NaN
      rintro (lt | ⟨rfl, -⟩ | ⟨number, -⟩)
      · have number := isNaN_eq_false_iff.2 (number_of_lt lt)
        cases hx.symm.trans number
      · cases hx
      · cases hx.symm.trans number
  | false =>
    cases hy : y.isNaN with
    | true =>
      have bound := totalKey_le_infinityBits hx
      have top := infinityBits_lt_totalKey hy
      exact iff_of_true (bound.trans_lt top) (.nan hx hy)
    | false =>
      rw [totalKey_lt_iff_signedBits, ← lt_iff_signedBits hx hy]
      constructor
      · rintro (lt | ⟨⟨negative, positive⟩, none, none'⟩)
        · exact .number lt
        · apply Precedes.zero
          · exact eq_of_parts (negative.trans (by decide)) (none.trans (by decide))
          · exact eq_of_parts (positive.trans (by decide)) (none'.trans (by decide))
      · rintro (lt | ⟨rfl, rfl⟩ | ⟨-, nan⟩)
        · exact .inl lt
        · exact .inr (by decide)
        · cases hy.symm.trans nan

instance : DecidableRel Precedes := fun _ _ => decidable_of_iff _ totalKey_lt_iff

/-- No two doubles have the same key. -/
theorem totalKey_injective : Function.Injective totalKey := by
  intro x y same
  have parts : isNegative x = isNegative y ∧ magnitudeBits x = magnitudeBits y := by
    unfold totalKey at same
    generalize isNegative x = n at *
    generalize isNegative y = n' at *
    cases n <;> cases n' <;> simp at same ⊢ <;> omega
  exact eq_of_parts parts.1 parts.2

end PerfGate.Decimal
