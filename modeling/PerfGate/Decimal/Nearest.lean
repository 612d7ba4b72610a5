import PerfGate.Decimal.Binary

/-!
# The nearest double

`nearestBits num den` is the magnitude of the double nearest to `num / den`, a tie going to the even
significand, and infinity from half a unit above the greatest double on. A `Numeral` is a decimal
number, digits times a power of ten; `Numeral.toFloat` reads it as a double.
-/

namespace PerfGate.Decimal

/-- The exponent `k` with `2 ^ k ≤ num / den < 2 ^ (k + 1)`, both numbers positive. -/
def binade (num den : Nat) : Int :=
  let k : Int := (num.log2 : Int) - den.log2
  if den <<< k.toNat ≤ num <<< (-k).toNat then k else k - 1

/-- The magnitude bits of the double nearest to `num / den`, with `den` positive. The exponent field
and the significand are added, not joined, so a significand that rounds up to the next power of two
carries into the exponent. -/
def nearestBits (num den : Nat) : Nat :=
  if num = 0 then 0
  else
    let q := max (binade num den - 52) minExponent
    let m := divHalfEven (num <<< (-q).toNat) (den <<< q.toNat)
    min infinityBits ((q - minExponent).toNat * leadingBit + m)

/-- The decimal number `digits * 10 ^ exponent`. -/
structure Numeral where
  digits : Nat
  exponent : Int
  deriving DecidableEq, Repr

/-- The magnitude bits of the double nearest to the numeral. A power of ten that lies beyond all
doubles, or too close to zero for the digits to matter, is not computed. -/
def Numeral.nearestBits (n : Numeral) : Nat :=
  if n.digits = 0 then 0
  else if 310 ≤ n.exponent then infinityBits
  else if n.exponent + (n.digits.log2 + 1) ≤ -324 then 0
  else Decimal.nearestBits (n.digits * Nat.pow 10 n.exponent.toNat) (Nat.pow 10 (-n.exponent).toNat)

/-- The double nearest to the numeral, with a sign. -/
def Numeral.toFloat (negative : Bool) (n : Numeral) : Float :=
  ofMagnitude negative n.nearestBits

/-- The double nearest to a natural number. -/
def ofNat (n : Nat) : Float :=
  ofMagnitude false (nearestBits n 1)

/-- The double rounded to a whole number, a half away from zero. -/
def roundAway (x : Float) : Float :=
  match Binary.ofFloat x with
  | .finite negative m q =>
    let den := denominator q
    ofMagnitude negative (nearestBits ((2 * numerator m q + den) / (2 * den)) 1)
  | _ => x

end PerfGate.Decimal
