import Mathlib
import PerfGate.Proofs.Decimal.Value

/-!
# The bits of doubles

Lean computes with doubles by unpacking their bits into a sign, a significand and an exponent, and
packing the result. `unpack_toModel` says what a double is unpacked to, in terms of its sign and its
magnitude bits; `parts_packed_finite` and its siblings say which bits a packed result has.
Doubles that are not NaN are given by their sign and magnitude bits (`ofMagnitude_eq`).
-/

namespace PerfGate.Decimal

open Float.Model (Format UnpackedFloat)
open Float.Model.UnpackedFloat

/-- The sign of a double. -/
def signOf (negative : Bool) : Sign :=
  if negative then .negative else .positive

lemma significand_ne_zero {bits : ℕ} (h : bits ≠ 0) : significand bits ≠ 0 := by
  intro zero
  have apart := eq_binade_add_significand bits
  rcases leadingBit_le_significand bits with least | long
  · rw [zero, least] at apart
    omega
  · rw [zero] at long
    exact absurd long (by decide)

/-- What magnitude bits are unpacked to. -/
def unpacked (negative : Bool) (bits : ℕ) : UnpackedFloat :=
  if infinityBits < bits then .notANumber
  else if bits = infinityBits then .infinity (signOf negative)
  else if h : bits = 0 then .zero (signOf negative)
  else .finite (signOf negative) (significand bits) (binadeOf bits + minExponent)
    (Nat.pos_of_ne_zero (significand_ne_zero h))

/-! ## Fields -/

lemma toNat_append {m n : ℕ} (x : BitVec m) (y : BitVec n) :
    (x ++ y).toNat = x.toNat * 2 ^ n + y.toNat := by
  rw [BitVec.toNat_append, ← Nat.shiftLeft_add_eq_or_of_lt y.isLt, Nat.shiftLeft_eq]

lemma toNat_packComponents (s : Sign) (e : BitVec 11) (m : BitVec 52) :
    (packComponents .binary64 s e m).toNat =
      s.toBitVec.toNat * signBit + e.toNat * leadingBit + m.toNat := by
  change (s.toBitVec ++ e ++ m).toNat = _
  rw [toNat_append, toNat_append]
  unfold signBit leadingBit
  omega

variable (b : BitVec 64)

lemma toNat_unpackExponent :
    (@unpackExponent .binary64 b).toNat = b.toNat / leadingBit % 2048 := by
  simp [unpackExponent, BitVec.extractLsb_toNat, Nat.shiftRight_eq_div_pow, leadingBit]

lemma toNat_unpackMantissa :
    (@unpackMantissa .binary64 b).toNat = b.toNat % leadingBit := by
  simp [unpackMantissa, BitVec.extractLsb_toNat, leadingBit]

lemma toNat_unpackSign : (@unpackSign .binary64 b).toNat = b.toNat / signBit % 2 := by
  simp [unpackSign, BitVec.extractLsb_toNat, Nat.shiftRight_eq_div_pow, signBit]

lemma sign_unpackSign :
    Sign.ofBitVec (@unpackSign .binary64 b) = signOf (signBit ≤ b.toNat) := by
  have bound : b.toNat < 2 * signBit := b.isLt
  unfold Sign.ofBitVec signOf
  have zero : @unpackSign .binary64 b = 0#1 ↔ ¬ signBit ≤ b.toNat := by
    rw [← BitVec.toNat_inj, toNat_unpackSign]
    change b.toNat / signBit % 2 = 0 ↔ _
    unfold signBit at *
    omega
  by_cases h : signBit ≤ b.toNat
  · rw [if_neg (fun e => zero.1 e h), if_pos (decide_eq_true h)]
  · rw [if_pos (zero.2 h), if_neg (by simpa using h)]

lemma finite_congr {s : Sign} {m m' : ℕ} {e e' : ℤ} {h : 0 < m} {p : 0 < m'} (hm : m = m')
    (he : e = e') : UnpackedFloat.finite s m e h = .finite s m' e' p := by
  subst hm he
  rfl

/-- The exponent field, seen from the magnitude. -/
lemma unpackExponent_magnitude :
    (@unpackExponent .binary64 b).toNat = b.toNat % signBit / leadingBit := by
  rw [toNat_unpackExponent]
  unfold signBit leadingBit
  omega

/-- The fraction, seen from the magnitude. -/
lemma unpackMantissa_magnitude :
    (@unpackMantissa .binary64 b).toNat = b.toNat % signBit % leadingBit := by
  rw [toNat_unpackMantissa]
  unfold signBit leadingBit
  omega

lemma unpackExponent_eq_iff {e : BitVec 11} :
    @unpackExponent .binary64 b = e ↔ b.toNat % signBit / leadingBit = e.toNat := by
  rw [← unpackExponent_magnitude, ← BitVec.toNat_inj]

lemma unpackMantissa_eq_zero_iff :
    @unpackMantissa .binary64 b = 0#52 ↔ b.toNat % signBit % leadingBit = 0 := by
  rw [← unpackMantissa_magnitude, ← BitVec.toNat_inj]
  rfl

/-- Bits are unpacked as their sign and their magnitude say. -/
lemma unpack_eq : unpack .binary64 b = unpacked (signBit ≤ b.toNat) (b.toNat % signBit) := by
  have field := unpackExponent_magnitude b
  have fraction := unpackMantissa_magnitude b
  have full : @unpackExponent .binary64 b = -1#11 ↔ b.toNat % signBit / leadingBit = 2047 :=
    unpackExponent_eq_iff b
  have none : @unpackExponent .binary64 b = 0#11 ↔ b.toNat % signBit / leadingBit = 0 :=
    unpackExponent_eq_iff b
  have empty : @unpackMantissa .binary64 b = 0#52 ↔ b.toNat % signBit % leadingBit = 0 :=
    unpackMantissa_eq_zero_iff b
  have bias : (Format.binary64.exponentBias : ℤ) + Format.binary64.mantissaBitsWithoutImplicit =
      1075 := rfl
  have bound : b.toNat % signBit < signBit := Nat.mod_lt _ (by decide)
  have apart := eq_binade_add_significand (b.toNat % signBit)
  unfold Float.Model.UnpackedFloat.unpack unpacked
  simp only [full, none, empty, sign_unpackSign]
  generalize b.toNat % signBit = bits at *
  -- from here on both sides only ask for the exponent and the fraction of `bits`
  unfold binadeOf leadingBit at apart
  unfold signBit at bound
  unfold leadingBit at field fraction
  unfold binadeOf infinityBits leadingBit
  by_cases top : bits / 0x10000000000000 = 2047
  · rw [if_pos top]
    by_cases exact : bits % 0x10000000000000 = 0
    · rw [if_pos exact, if_neg (by omega), if_pos (by omega)]
    · rw [if_neg exact, if_pos (by omega)]
  · rw [if_neg top, if_neg (by omega : ¬ 0x7FF0000000000000 < bits),
      if_neg (by omega : ¬ bits = 0x7FF0000000000000)]
    by_cases subnormal : bits / 0x10000000000000 = 0
    · rw [if_pos subnormal]
      by_cases zero : bits % 0x10000000000000 = 0
      · rw [dif_pos zero, dif_pos (by omega)]
      · rw [dif_neg zero, dif_neg (by omega)]
        refine finite_congr ?_ ?_
        · rw [fraction]
          omega
        · rw [field, bias]
          unfold minExponent
          omega
    · rw [if_neg subnormal, dif_neg (by omega)]
      refine finite_congr ?_ ?_
      · rw [toNat_append, fraction]
        change 1 * 0x10000000000000 + _ = _
        omega
      · rw [field, bias]
        unfold minExponent
        omega

/-- A double is unpacked as its sign and its magnitude say. -/
lemma unpack_toModel (x : Float) : x.toModel.unpack = unpacked (isNegative x) (magnitudeBits x) :=
  unpack_eq x.toBits.toBitVec

/-! ## Packing -/

/-- The double with the given parts. -/
def packed (u : UnpackedFloat) : Float :=
  .ofModel (.pack u)

/-- A double is given by its sign and its magnitude. -/
lemma parts_of_toNat {x : Float} {negative : Bool} {bits : ℕ} (lt : bits < signBit)
    (h : x.toBits.toNat = (if negative then signBit else 0) + bits) :
    isNegative x = negative ∧ magnitudeBits x = bits := by
  unfold isNegative magnitudeBits
  rw [h]
  cases negative with
  | true =>
    rw [if_pos rfl, Nat.add_mod_left, Nat.mod_eq_of_lt lt]
    exact ⟨decide_eq_true (Nat.le_add_right _ _), rfl⟩
  | false =>
    rw [if_neg Bool.false_ne_true, Nat.zero_add, Nat.mod_eq_of_lt lt]
    exact ⟨decide_eq_false (Nat.not_le.2 lt), rfl⟩

lemma toNat_signOf (negative : Bool) :
    (signOf negative).toBitVec.toNat * signBit = if negative then signBit else 0 := by
  cases negative <;> rfl

lemma parts_packed_zero (negative : Bool) :
    isNegative (packed (.zero (signOf negative))) = negative ∧
      magnitudeBits (packed (.zero (signOf negative))) = 0 := by
  refine parts_of_toNat (by decide) ?_
  change (packComponents .binary64 (signOf negative) 0 0).toNat = _
  rw [toNat_packComponents, toNat_signOf]
  rfl

lemma parts_packed_infinity (negative : Bool) :
    isNegative (packed (.infinity (signOf negative))) = negative ∧
      magnitudeBits (packed (.infinity (signOf negative))) = infinityBits := by
  refine parts_of_toNat (by decide) ?_
  change (packComponents .binary64 (signOf negative) (-1#11) 0).toNat = _
  rw [toNat_packComponents, toNat_signOf]
  rfl

lemma toNat_pack_finite (s : Sign) {m k : ℕ} (pos : 0 < m) (lt : m < 2 * leadingBit)
    (h : k = 0 ∨ leadingBit ≤ m) :
    (pack .binary64 (.finite s m (k + minExponent) pos)).toNat =
      s.toBitVec.toNat * signBit + min infinityBits (k * leadingBit + m) := by
  have exponent : ((k : ℤ) + minExponent + Format.binary64.exponentBias +
      Format.binary64.mantissaBitsWithoutImplicit).toNat = k + 1 := by
    change ((k : ℤ) + -1074 + 1023 + 52).toNat = k + 1
    omega
  unfold Float.Model.UnpackedFloat.pack
  simp only [exponent]
  change BitVec.toNat (if 2048 ≤ k + 1 + 1 then packComponents .binary64 s (-1#11) 0#52
    else if m.log2 + 1 = 53 then
      packComponents .binary64 s (BitVec.ofNat 11 (k + 1)) (BitVec.ofNat 52 m)
    else packComponents .binary64 s 0#11 (BitVec.ofNat 52 m)) = _
  unfold leadingBit at lt h
  have long : m.log2 + 1 = 53 ↔ 0x10000000000000 ≤ m := by
    have low := Nat.le_log2 (k := 52) (Nat.pos_iff_ne_zero.1 pos)
    have high := Nat.log2_lt (k := 53) (Nat.pos_iff_ne_zero.1 pos)
    omega
  by_cases huge : 2048 ≤ k + 1 + 1
  · rw [if_pos huge, toNat_packComponents]
    change _ + 2047 * leadingBit + 0 = _
    unfold infinityBits leadingBit
    omega
  · rw [if_neg huge]
    by_cases normal : m.log2 + 1 = 53
    · rw [if_pos normal, toNat_packComponents, BitVec.toNat_ofNat, BitVec.toNat_ofNat]
      rw [long] at normal
      unfold infinityBits leadingBit
      omega
    · rw [if_neg normal, toNat_packComponents, BitVec.toNat_ofNat, BitVec.toNat_ofNat]
      rw [long] at normal
      unfold infinityBits leadingBit
      omega

/-- The bits of a finite result; beyond the doubles it is an infinity. -/
lemma parts_packed_finite (negative : Bool) {m k : ℕ} (pos : 0 < m) (lt : m < 2 * leadingBit)
    (h : k = 0 ∨ leadingBit ≤ m) :
    isNegative (packed (.finite (signOf negative) m (k + minExponent) pos)) = negative ∧
      magnitudeBits (packed (.finite (signOf negative) m (k + minExponent) pos)) =
        min infinityBits (k * leadingBit + m) := by
  refine parts_of_toNat (Nat.lt_of_le_of_lt (Nat.min_le_left _ _) (by decide)) ?_
  rw [← toNat_signOf]
  exact toNat_pack_finite _ pos lt h

/-! ## Doubles from their parts -/

lemma isNegative_and_magnitudeBits (x : Float) :
    x.toBits.toNat = (if isNegative x then signBit else 0) + magnitudeBits x := by
  have bound : x.toBits.toNat < 2 * signBit := x.toBits.toNat_lt
  unfold isNegative magnitudeBits
  by_cases h : signBit ≤ x.toBits.toNat
  · rw [if_pos (decide_eq_true h)]
    unfold signBit at *
    omega
  · rw [if_neg (by simpa using h)]
    unfold signBit at *
    omega

/-- There is one double that is not a number. -/
lemma eq_of_nan {x y : Float} (hx : Binary.ofFloat x = .nan) (hy : Binary.ofFloat y = .nan) :
    x = y := by
  have canonical {z : Float} (hz : Binary.ofFloat z = .nan) :
      z.toBits.toBitVec = packedNaN .binary64 := by
    refine (unpack_eq_notANumber_iff_of_valid z.toModel.valid).1 ?_
    change z.toModel.unpack = .notANumber
    rw [unpack_toModel, unpacked, if_pos (parts_of_nan hz)]
  rw [← Float.toBits_inj, ← UInt64.toBitVec_inj, canonical hx, canonical hy]

/-- Packing takes unpacking back. -/
lemma parts_packed_unpacked (negative : Bool) {bits : ℕ} (h : bits ≤ infinityBits) :
    isNegative (packed (unpacked negative bits)) = negative ∧
      magnitudeBits (packed (unpacked negative bits)) = bits := by
  unfold unpacked
  rw [if_neg (Nat.not_lt.2 h)]
  split
  · rename_i infinite
    rw [infinite]
    exact parts_packed_infinity negative
  split
  · rename_i zero
    rw [zero]
    exact parts_packed_zero negative
  · rename_i nonzero
    obtain ⟨sign, magnitude⟩ := parts_packed_finite negative
      (Nat.pos_of_ne_zero (significand_ne_zero nonzero)) (significand_lt bits)
      (leadingBit_le_significand bits)
    rw [← eq_binade_add_significand, Nat.min_eq_right h] at magnitude
    exact ⟨sign, magnitude⟩

/-- A double is made from its parts. -/
lemma ofMagnitude_eq (x : Float) : ofMagnitude (isNegative x) (magnitudeBits x) = x := by
  have bits : (if isNegative x then signBit + magnitudeBits x else magnitudeBits x) =
      x.toBits.toNat := by
    rw [isNegative_and_magnitudeBits]
    split
    · rfl
    · exact (Nat.zero_add _).symm
  rw [ofMagnitude, bits, UInt64.ofNat_toNat, Float.ofBits_toBits]

/-- A double is given by its sign and its magnitude. -/
lemma eq_of_parts {x y : Float} (sign : isNegative x = isNegative y)
    (magnitude : magnitudeBits x = magnitudeBits y) : x = y := by
  rw [← ofMagnitude_eq x, ← ofMagnitude_eq y, sign, magnitude]

lemma parts_ofMagnitude (negative : Bool) {bits : ℕ} (h : bits ≤ infinityBits) :
    isNegative (ofMagnitude negative bits) = negative ∧
      magnitudeBits (ofMagnitude negative bits) = bits := by
  obtain ⟨sign, magnitude⟩ := parts_packed_unpacked negative h
  have same := ofMagnitude_eq (packed (unpacked negative bits))
  rw [sign, magnitude] at same
  rw [same]
  exact ⟨sign, magnitude⟩

end PerfGate.Decimal
