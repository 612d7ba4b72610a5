import Mathlib.Algebra.Order.Field.Power
import Mathlib.Data.Rat.Cast.Order
import Mathlib.Order.Monotone.Basic
import Mathlib.Tactic.Linarith
import Mathlib.Tactic.Positivity
import Mathlib.Tactic.Ring
import PerfGate.Decimal.Binary

/-!
# Doubles as rational numbers

`bitsValue` is the number that magnitude bits stand for, `value` that of a double. Doubles in the
order of their bits are in the order of their values (`strictMono_bitsValue`), and the bits of
infinity fit in: they stand for `2 ^ 1024`, which is above every finite double.
-/

namespace PerfGate.Decimal

/-- The exponent of the least bit, counted from that of the least double. -/
def binadeOf (bits : Nat) : Nat :=
  bits / leadingBit - 1

/-- The magnitude as a multiple of its least bit. -/
def significand (bits : Nat) : Nat :=
  bits - binadeOf bits * leadingBit

/-- The number that magnitude bits stand for. -/
def bitsValue (bits : Nat) : ℚ :=
  significand bits * (2 : ℚ) ^ (binadeOf bits + minExponent)

/-- A number with a sign. -/
def signed (negative : Bool) (v : ℚ) : ℚ :=
  if negative then -v else v

@[simp]
lemma signed_zero (negative : Bool) : signed negative 0 = 0 := by
  cases negative
  · rfl
  · exact neg_zero

/-- The number that a double stands for, an infinity for the power of two that comes next. -/
def value (x : Float) : ℚ :=
  signed (isNegative x) (bitsValue (magnitudeBits x))

lemma two_zpow_pos (e : ℤ) : (0 : ℚ) < 2 ^ e := zpow_pos rfl e

lemma two_zpow_succ (e : ℤ) : (2 : ℚ) ^ (e + 1) = 2 * 2 ^ e := by
  rw [zpow_add_one₀ two_ne_zero, mul_comm]

lemma leadingBit_cast : (leadingBit : ℚ) = 2 ^ (52 : ℤ) := by
  unfold leadingBit
  norm_num

lemma eq_binade_add_significand (bits : Nat) :
    bits = binadeOf bits * leadingBit + significand bits := by
  unfold significand binadeOf leadingBit
  omega

lemma leadingBit_le_significand (bits : Nat) :
    binadeOf bits = 0 ∨ leadingBit ≤ significand bits := by
  unfold significand binadeOf leadingBit
  omega

lemma significand_lt (bits : Nat) : significand bits < 2 * leadingBit := by
  unfold significand binadeOf leadingBit
  omega

/-- Bits may also be taken apart so that the significand is the next power of two. -/
lemma bitsValue_eq {k m : Nat} (h : k = 0 ∨ leadingBit ≤ m) (hm : m ≤ 2 * leadingBit) :
    bitsValue (k * leadingBit + m) = m * (2 : ℚ) ^ (k + minExponent) := by
  rcases Nat.lt_or_eq_of_le hm with lt | rfl
  · have binade : binadeOf (k * leadingBit + m) = k := by
      unfold binadeOf leadingBit at *
      omega
    rw [bitsValue, significand, binade, Nat.add_sub_cancel_left]
  · have binade : binadeOf (k * leadingBit + 2 * leadingBit) = k + 1 := by
      unfold binadeOf leadingBit
      omega
    have significand : significand (k * leadingBit + 2 * leadingBit) = leadingBit := by
      rw [significand, binade]
      unfold leadingBit
      omega
    have exponent : ((k + 1 : Nat) : ℤ) + minExponent = k + minExponent + 1 := by
      push_cast
      ring
    rw [bitsValue, binade, significand, exponent, two_zpow_succ]
    push_cast
    ring

@[simp]
lemma bitsValue_zero : bitsValue 0 = 0 := by
  have h := bitsValue_eq (k := 0) (m := 0) (.inl rfl) (Nat.zero_le _)
  simpa using h

/-- The bits of infinity stand for the power of two above all doubles. -/
lemma bitsValue_infinityBits : bitsValue infinityBits = 2 ^ (1024 : ℤ) := by
  have h := bitsValue_eq (k := 2046) (m := leadingBit) (.inr le_rfl) (by decide)
  rw [leadingBit_cast, ← zpow_add₀ two_ne_zero] at h
  exact h

/-- Neighbours are apart by one unit of the least bit of the lesser. -/
lemma bitsValue_succ (bits : Nat) :
    bitsValue (bits + 1) = bitsValue bits + 2 ^ (binadeOf bits + minExponent) := by
  have apart := eq_binade_add_significand bits
  have here := bitsValue_eq (leadingBit_le_significand bits) (Nat.le_of_lt (significand_lt bits))
  have next := bitsValue_eq (k := binadeOf bits) (m := significand bits + 1)
    ((leadingBit_le_significand bits).imp_right Nat.le_succ_of_le) (significand_lt bits)
  rw [← Nat.add_assoc, ← apart] at next
  rw [← apart] at here
  rw [here, next]
  push_cast
  ring

/-- Greater bits stand for a greater number. -/
lemma strictMono_bitsValue : StrictMono bitsValue := by
  refine strictMono_nat_of_lt_succ fun bits => ?_
  have step := two_zpow_pos (binadeOf bits + minExponent)
  rw [bitsValue_succ]
  linarith

lemma bitsValue_inj {a b : Nat} (h : bitsValue a = bitsValue b) : a = b :=
  strictMono_bitsValue.injective h

lemma bitsValue_nonneg (bits : Nat) : 0 ≤ bitsValue bits :=
  mul_nonneg (Nat.cast_nonneg _) (two_zpow_pos _).le

lemma bitsValue_pos {bits : Nat} (h : bits ≠ 0) : 0 < bitsValue bits := by
  rw [← bitsValue_zero]
  exact strictMono_bitsValue (Nat.pos_of_ne_zero h)

/-- What the view of a double as an exact number says of its sign and its magnitude. -/
lemma parts_of_finite {x : Float} {negative : Bool} {m : Nat} {q : ℤ}
    (h : Binary.ofFloat x = .finite negative m q) : isNegative x = negative ∧
      magnitudeBits x < infinityBits ∧ bitsValue (magnitudeBits x) = m * 2 ^ q := by
  have below : magnitudeBits x / leadingBit * leadingBit + magnitudeBits x % leadingBit =
      magnitudeBits x := Nat.div_add_mod' _ _
  have fraction : magnitudeBits x % leadingBit < leadingBit := Nat.mod_lt _ (by decide)
  have bound : magnitudeBits x < signBit := Nat.mod_lt _ (by decide)
  unfold Binary.ofFloat at h
  simp only at h
  split at h
  · split at h <;> cases h
  rename_i top
  have finite : magnitudeBits x < infinityBits := by
    unfold infinityBits
    unfold leadingBit at top
    unfold signBit at bound
    omega
  split at h
  · rename_i subnormal
    cases h
    rw [subnormal, Nat.zero_mul, Nat.zero_add] at below
    have bits := bitsValue_eq (k := 0) (m := magnitudeBits x) (.inl rfl) (by omega)
    rw [Nat.zero_mul, Nat.zero_add, Nat.cast_zero, zero_add] at bits
    refine ⟨rfl, finite, ?_⟩
    rw [bits, below]
  · rename_i normal
    cases h
    have bits := bitsValue_eq (k := magnitudeBits x / leadingBit - 1)
      (m := leadingBit + magnitudeBits x % leadingBit) (.inr (Nat.le_add_right _ _)) (by omega)
    have whole : (magnitudeBits x / leadingBit - 1) * leadingBit +
        (leadingBit + magnitudeBits x % leadingBit) = magnitudeBits x := by
      rw [← Nat.add_assoc, ← Nat.succ_mul, Nat.succ_eq_add_one,
        Nat.sub_add_cancel (Nat.pos_of_ne_zero normal), below]
    have exponent : ((magnitudeBits x / leadingBit - 1 : Nat) : ℤ) =
        (magnitudeBits x / leadingBit : Nat) - 1 := Nat.cast_pred (Nat.pos_of_ne_zero normal)
    rw [whole, exponent] at bits
    exact ⟨rfl, finite, bits⟩

/-- What it says of an infinity. -/
lemma parts_of_infinite {x : Float} {negative : Bool}
    (h : Binary.ofFloat x = .infinite negative) :
    isNegative x = negative ∧ magnitudeBits x = infinityBits := by
  have below := Nat.div_add_mod' (magnitudeBits x) leadingBit
  unfold Binary.ofFloat at h
  simp only at h
  split at h
  · rename_i top
    split at h
    · rename_i whole
      cases h
      rw [top, whole] at below
      exact ⟨rfl, below.symm⟩
    · cases h
  · split at h <;> cases h

/-- What it says of NaN. -/
lemma parts_of_nan {x : Float} (h : Binary.ofFloat x = .nan) : infinityBits < magnitudeBits x := by
  have below := Nat.div_add_mod' (magnitudeBits x) leadingBit
  unfold Binary.ofFloat at h
  simp only at h
  split at h
  · rename_i top
    split at h
    · cases h
    · rename_i fraction
      rw [top] at below
      unfold infinityBits
      unfold leadingBit at *
      omega
  · split at h <;> cases h

lemma lt_infinityBits_of_isFinite {x : Float} (h : isFinite x = true) :
    magnitudeBits x < infinityBits := by
  unfold isFinite at h
  split at h
  · rename_i finite
    exact (parts_of_finite finite).2.1
  · cases h

lemma isFinite_of_lt_infinityBits {x : Float} (h : magnitudeBits x < infinityBits) :
    isFinite x = true := by
  unfold isFinite
  cases view : Binary.ofFloat x with
  | nan => exact absurd (parts_of_nan view) (Nat.lt_asymm h)
  | infinite negative => exact absurd (parts_of_infinite view).2 h.ne
  | finite negative m q => rfl

/-- The value of a double is the exact number that it is viewed as. -/
lemma value_of_finite {x : Float} {negative : Bool} {m : Nat} {q : ℤ}
    (h : Binary.ofFloat x = .finite negative m q) : value x = signed negative (m * 2 ^ q) := by
  obtain ⟨sign, -, magnitude⟩ := parts_of_finite h
  rw [value, sign, magnitude]

end PerfGate.Decimal
