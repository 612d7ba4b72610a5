/-!
# Doubles as exact numbers

`Binary` says what a double stands for: not a number, an infinity, or a sign and a magnitude
`m * 2 ^ q` with natural `m`. Everything that prints, reads or rounds a double goes through this
view, so that the work is done on integers.
-/

namespace PerfGate.Decimal

/-- What a double stands for. -/
inductive Binary where
  | nan
  | infinite (negative : Bool)
  /-- The magnitude is `m * 2 ^ q`. -/
  | finite (negative : Bool) (m : Nat) (q : Int)
  deriving DecidableEq, Repr

/-- The exponent of the least positive double. -/
def minExponent : Int := -1074

/-- The bit of the sign. -/
def signBit : Nat := 0x8000000000000000

/-- The least bit of the exponent field, which is also the leading bit of the significand. -/
def leadingBit : Nat := 0x10000000000000

/-- The bits of the infinite magnitude. -/
def infinityBits : Nat := 0x7FF0000000000000

/-- A double's bits without the sign. -/
def magnitudeBits (x : Float) : Nat :=
  x.toBits.toNat % signBit

/-- The sign bit is set. -/
def isNegative (x : Float) : Bool :=
  signBit ≤ x.toBits.toNat

/-- The double with the given sign and magnitude bits. -/
def ofMagnitude (negative : Bool) (bits : Nat) : Float :=
  Float.ofBits (UInt64.ofNat (if negative then signBit + bits else bits))

/-- The number a double stands for. -/
def Binary.ofFloat (x : Float) : Binary :=
  let bits := magnitudeBits x
  let field : Nat := bits / leadingBit
  let fraction : Nat := bits % leadingBit
  if field = 0x7FF then
    if fraction = 0 then .infinite (isNegative x) else .nan
  else if field = 0 then .finite (isNegative x) fraction minExponent
  else .finite (isNegative x) (leadingBit + fraction) ((field : Int) - 1 + minExponent)

/-- A natural number over a positive one, rounded to the nearest natural number, a half to the even
neighbour. -/
def divHalfEven (num den : Nat) : Nat :=
  let quotient := num / den
  let twice := 2 * (num % den)
  if twice < den then quotient
  else if den < twice then quotient + 1
  else quotient + quotient % 2

/-- The numerator of `m * 2 ^ q` over `denominator q`. -/
def numerator (m : Nat) (q : Int) : Nat :=
  m <<< q.toNat

/-- The denominator of `m * 2 ^ q`. -/
def denominator (q : Int) : Nat :=
  1 <<< (-q).toNat

/-- The double is finite. -/
def isFinite (x : Float) : Bool :=
  match Binary.ofFloat x with
  | .finite .. => true
  | _ => false

/-- The double is a whole number. -/
def isWhole (x : Float) : Bool :=
  match Binary.ofFloat x with
  | .finite _ m q => numerator m q % denominator q = 0
  | _ => false

/-- A place in the total order of doubles: negative numbers below positive ones, `-0.0` just below
`0.0`, infinities at the ends. -/
def totalKey (x : Float) : Int :=
  if isNegative x then -(magnitudeBits x : Int) - 1 else magnitudeBits x

end PerfGate.Decimal
