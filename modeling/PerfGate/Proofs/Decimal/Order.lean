import PerfGate.Proofs.Decimal.Arithmetic

/-!
# The order of doubles

Doubles that are not NaN are in the order of their values (`lt_iff_value`, `le_iff_value`). The
comparison of unpacked doubles goes by sign, exponent and significand; `signedBits` puts these into
one integer, in whose order both the doubles and their values are.
-/

namespace PerfGate.Decimal

open Float.Model (UnpackedFloat)
open Float.Model.UnpackedFloat

/-- The place of a double among the others; both zeros have the same. -/
def signedBits (negative : Bool) (bits : ℕ) : ℤ :=
  if negative then -bits else bits

/-- A greater exponent means greater bits. -/
lemma lt_of_binadeOf_lt {a b : ℕ} (lt : binadeOf a < binadeOf b) : a < b := by
  have apart := eq_binade_add_significand a
  have apart' := eq_binade_add_significand b
  have short := significand_lt a
  have long' := leadingBit_le_significand b
  unfold leadingBit at *
  omega

/-- Exponent and significand together are in the order of the bits. -/
lemma compare_bits (a b : ℕ) :
    (compare ((binadeOf a : ℤ) + minExponent) (binadeOf b + minExponent)).then
      (compare (significand a) (significand b)) = compare (a : ℤ) b := by
  rcases lt_trichotomy (binadeOf a) (binadeOf b) with lt | eq | gt
  · rw [compare_lt_iff_lt.2 (Int.ofNat_lt.2 (lt_of_binadeOf_lt lt)),
      compare_lt_iff_lt.2 (add_lt_add_left (Int.ofNat_lt.2 lt) _), Ordering.lt_then]
  · obtain ⟨c, whole, whole'⟩ : ∃ c, a = c + significand a ∧ b = c + significand b :=
      ⟨binadeOf a * leadingBit, eq_binade_add_significand a, by
        rw [eq]
        exact eq_binade_add_significand b⟩
    rw [eq, compare_eq_iff_eq.2 rfl, Ordering.eq_then]
    rcases lt_trichotomy (significand a) (significand b) with lt | same | gt
    · rw [compare_lt_iff_lt.2 lt, compare_lt_iff_lt.2 (by omega : (a : ℤ) < b)]
    · rw [compare_eq_iff_eq.2 same, compare_eq_iff_eq.2 (by omega : (a : ℤ) = b)]
    · rw [compare_gt_iff_gt.2 gt, compare_gt_iff_gt.2 (by omega : (b : ℤ) < a)]
  · rw [compare_gt_iff_gt.2 (Int.ofNat_lt.2 (lt_of_binadeOf_lt gt)),
      compare_gt_iff_gt.2 (add_lt_add_left (Int.ofNat_lt.2 gt) _), Ordering.gt_then]

lemma compare_neg_neg (k k' : ℤ) : compare (-k) (-k') = (compare k k').swap := by
  rcases lt_trichotomy k k' with lt | rfl | gt
  · rw [compare_lt_iff_lt.2 lt, compare_gt_iff_gt.2 (neg_lt_neg lt)]
    rfl
  · rw [compare_eq_iff_eq.2 rfl, compare_eq_iff_eq.2 rfl]
    rfl
  · rw [compare_gt_iff_gt.2 gt, compare_lt_iff_lt.2 (neg_lt_neg gt)]
    rfl

/-- A number is unpacked as a zero, a finite number or an infinity. -/
lemma unpacked_cases (negative : Bool) {bits : ℕ} (h : bits ≤ infinityBits) :
    (bits = 0 ∧ unpacked negative bits = .zero (signOf negative)) ∨
      (0 < bits ∧ bits < infinityBits ∧ ∃ pos, unpacked negative bits =
        .finite (signOf negative) (significand bits) (binadeOf bits + minExponent) pos) ∨
      (bits = infinityBits ∧ unpacked negative bits = .infinity (signOf negative)) := by
  rcases h.lt_or_eq with finite | rfl
  · by_cases zero : bits = 0
    · rw [zero]
      exact .inl ⟨rfl, unpacked_zero negative⟩
    · exact .inr (.inl ⟨Nat.pos_of_ne_zero zero, finite, _, unpacked_finite negative zero finite⟩)
  · exact .inr (.inr ⟨rfl, unpacked_infinity negative⟩)

lemma some_lt {k k' : ℤ} (h : k < k') : some Ordering.lt = some (compare k k') :=
  congrArg some (compare_lt_iff_lt.2 h).symm

lemma some_gt {k k' : ℤ} (h : k' < k) : some Ordering.gt = some (compare k k') :=
  congrArg some (compare_gt_iff_gt.2 h).symm

lemma signedBits_true (bits : ℕ) : signedBits true bits = -bits := rfl

lemma signedBits_false (bits : ℕ) : signedBits false bits = bits := rfl

lemma signedBits_zero (negative : Bool) : signedBits negative 0 = 0 := by
  cases negative <;> rfl

lemma signedBits_bound (negative : Bool) {bits : ℕ} (h : bits < infinityBits) :
    -(infinityBits : ℤ) < signedBits negative bits ∧ signedBits negative bits < infinityBits := by
  cases negative
  · rw [signedBits_false]
    omega
  · rw [signedBits_true]
    omega

/-- Numbers are compared by their signed bits. -/
lemma compare_unpacked (n n' : Bool) {a b : ℕ} (ha : a ≤ infinityBits) (hb : b ≤ infinityBits) :
    (unpacked n a).compare (unpacked n' b) = some (compare (signedBits n a) (signedBits n' b)) := by
  have top : (0 : ℤ) < infinityBits := by decide
  rcases unpacked_cases n ha with ⟨rfl, ea⟩ | ⟨pos, lt, _, ea⟩ | ⟨rfl, ea⟩ <;>
    rcases unpacked_cases n' hb with ⟨rfl, eb⟩ | ⟨pos', lt', _, eb⟩ | ⟨rfl, eb⟩ <;>
    rw [ea, eb]
  -- a zero on the left
  · rw [signedBits_zero, signedBits_zero]
    rfl
  · rw [signedBits_zero]
    cases n'
    · exact some_lt (by rw [signedBits_false]; omega)
    · exact some_gt (by rw [signedBits_true]; omega)
  · rw [signedBits_zero]
    cases n'
    · exact some_lt top
    · exact some_gt (neg_neg_of_pos top)
  -- a finite number on the left
  · rw [signedBits_zero]
    cases n
    · exact some_gt (by rw [signedBits_false]; omega)
    · exact some_lt (by rw [signedBits_true]; omega)
  · cases n <;> cases n'
    · exact congrArg some (compare_bits a b)
    · exact some_gt (by rw [signedBits_true, signedBits_false]; omega)
    · exact some_lt (by rw [signedBits_true, signedBits_false]; omega)
    · rw [signedBits_true, signedBits_true, compare_neg_neg, ← compare_bits]
      rfl
  · cases n'
    · exact some_lt (signedBits_bound n lt).2
    · exact some_gt (signedBits_bound n lt).1
  -- an infinity on the left
  · rw [signedBits_zero]
    cases n
    · exact some_gt top
    · exact some_lt (neg_neg_of_pos top)
  · cases n
    · exact some_gt (signedBits_bound n' lt').2
    · exact some_lt (signedBits_bound n' lt').1
  · cases n <;> cases n' <;> rfl

lemma lt_iff_compare (x y : Float) :
    x < y ↔ x.toModel.unpack.compare y.toModel.unpack = some .lt := by
  change decide (x.toModel < y.toModel) = true ↔ _
  rw [decide_eq_true_iff]
  exact beq_iff_eq

lemma le_iff_compare (x y : Float) :
    x ≤ y ↔ (x.toModel.unpack.compare y.toModel.unpack).any (·.isLE) = true := by
  change decide (x.toModel ≤ y.toModel) = true ↔ _
  rw [decide_eq_true_iff]
  rfl

/-- Values are in the order of the signed bits. -/
lemma signed_lt_iff (n n' : Bool) (a b : ℕ) :
    signed n (bitsValue a) < signed n' (bitsValue b) ↔ signedBits n a < signedBits n' b := by
  have nonneg := bitsValue_nonneg a
  have nonneg' := bitsValue_nonneg b
  cases n <;> cases n'
  · rw [signedBits_false, signedBits_false, Int.ofNat_lt]
    exact strictMono_bitsValue.lt_iff_lt
  · rw [signedBits_false, signedBits_true]
    refine ⟨fun h => ?_, fun h => ?_⟩
    · exact absurd (h.trans_le (neg_nonpos.2 nonneg')) (not_lt.2 nonneg)
    · omega
  · rw [signedBits_true, signedBits_false]
    change -bitsValue a < bitsValue b ↔ _
    by_cases zero : a = 0 ∧ b = 0
    · simp [zero]
    · have positive : 0 < bitsValue a ∨ 0 < bitsValue b := by
        by_cases ha : a = 0
        · exact .inr (bitsValue_pos fun hb => zero ⟨ha, hb⟩)
        · exact .inl (bitsValue_pos ha)
      refine ⟨fun _ => by omega, fun _ => ?_⟩
      rcases positive with h | h <;> linarith
  · rw [signedBits_true, signedBits_true, neg_lt_neg_iff, Int.ofNat_lt]
    exact neg_lt_neg_iff.trans strictMono_bitsValue.lt_iff_lt

/-- A double is less than another one if its value is, provided that both are numbers. -/
theorem lt_iff_value {x y : Float} (hx : magnitudeBits x ≤ infinityBits)
    (hy : magnitudeBits y ≤ infinityBits) : x < y ↔ value x < value y := by
  rw [lt_iff_compare, unpack_toModel, unpack_toModel, compare_unpacked _ _ hx hy,
    Option.some_inj, compare_lt_iff_lt, value, value, signed_lt_iff]

theorem le_iff_value {x y : Float} (hx : magnitudeBits x ≤ infinityBits)
    (hy : magnitudeBits y ≤ infinityBits) : x ≤ y ↔ value x ≤ value y := by
  rw [le_iff_compare, unpack_toModel, unpack_toModel, compare_unpacked _ _ hx hy, ← not_lt,
    value, value, signed_lt_iff, Option.any_some, Ordering.isLE_iff_ne_gt]
  exact not_congr compare_gt_iff_gt

/-! ## Numbers and NaN -/

/-- A number is one that its magnitude tells from NaN. -/
lemma isNaN_eq_false_iff {x : Float} : x.isNaN = false ↔ magnitudeBits x ≤ infinityBits := by
  change x.toModel.unpack.isNaN = false ↔ _
  rw [unpack_toModel]
  rcases le_or_gt (magnitudeBits x) infinityBits with number | nan
  · refine iff_of_true ?_ number
    rcases unpacked_cases (isNegative x) number with ⟨-, is⟩ | ⟨-, -, _, is⟩ | ⟨-, is⟩
    all_goals
      rw [is]
      rfl
  · rw [unpacked, if_pos nan]
    refine iff_of_false ?_ (not_le.2 nan)
    rintro ⟨⟩

variable {x y z : Float}

/-- NaN is less than nothing. -/
lemma number_of_lt (h : x < y) : magnitudeBits x ≤ infinityBits := by
  by_contra nan
  rw [lt_iff_compare, unpack_toModel, unpacked, if_pos (not_le.1 nan)] at h
  cases h

/-- Nothing is less than NaN. -/
lemma number_of_gt (h : x < y) : magnitudeBits y ≤ infinityBits := by
  by_contra nan
  rw [lt_iff_compare, unpack_toModel y, unpacked, if_pos (not_le.1 nan)] at h
  cases first : x.toModel.unpack with
  | notANumber | infinity _ | zero _ | finite _ _ _ _ =>
    rw [first] at h
    cases h

lemma number_lt_of_not_le (hx : x.isNaN = false) (hy : y.isNaN = false) (h : ¬ x ≤ y) : y < x := by
  rw [isNaN_eq_false_iff] at hx hy
  rw [le_iff_value hx hy, not_le] at h
  exact (lt_iff_value hy hx).2 h

lemma number_lt_of_lt_of_le (hx : x.isNaN = false) (hy : y.isNaN = false) (hz : z.isNaN = false)
    (lt : x < y) (le : y ≤ z) : x < z := by
  rw [isNaN_eq_false_iff] at hx hy hz
  rw [lt_iff_value hx hy] at lt
  rw [le_iff_value hy hz] at le
  exact (lt_iff_value hx hz).2 (lt.trans_le le)

lemma number_le_of_lt (hx : x.isNaN = false) (hy : y.isNaN = false) (lt : x < y) : x ≤ y := by
  rw [isNaN_eq_false_iff] at hx hy
  rw [lt_iff_value hx hy] at lt
  exact (le_iff_value hx hy).2 lt.le

lemma number_le_refl (hx : x.isNaN = false) : x ≤ x := by
  rw [isNaN_eq_false_iff] at hx
  exact (le_iff_value hx hx).2 le_rfl

lemma number_le_trans (hx : x.isNaN = false) (hy : y.isNaN = false) (hz : z.isNaN = false)
    (le : x ≤ y) (le' : y ≤ z) : x ≤ z := by
  rw [isNaN_eq_false_iff] at hx hy hz
  rw [le_iff_value hx hy] at le
  rw [le_iff_value hy hz] at le'
  exact (le_iff_value hx hz).2 (le.trans le')

lemma beq_iff_compare (x y : Float) :
    x == y ↔ x.toModel.unpack.compare y.toModel.unpack = some .eq := by
  change x.toModel.unpack.beq y.toModel.unpack = true ↔ _
  exact beq_iff_eq

/-- Numbers neither of which is less are equal as numbers; the zeros may differ in their sign. -/
lemma number_beq_of_le_of_le (hx : x.isNaN = false) (hy : y.isNaN = false) (le : x ≤ y)
    (ge : y ≤ x) : x == y := by
  rw [isNaN_eq_false_iff] at hx hy
  rw [le_iff_value hx hy, value, value, ← not_lt, signed_lt_iff, not_lt] at le
  rw [le_iff_value hy hx, value, value, ← not_lt, signed_lt_iff, not_lt] at ge
  rw [beq_iff_compare, unpack_toModel, unpack_toModel, compare_unpacked _ _ hx hy, Option.some_inj]
  exact compare_eq_iff_eq.2 (le_antisymm le ge)

end PerfGate.Decimal
