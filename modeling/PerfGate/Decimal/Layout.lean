import PerfGate.Decimal.Shortest

/-!
# Numbers as text

The ways in which a double is written: `plain`, with the shortest digits and no exponent; `fixed`,
with a fixed number of places, the exact value being rounded half to even; and `literal?`, with the
shortest digits and a point or an exponent in every number.
-/

namespace PerfGate.Decimal

/-- So many zeros. -/
def zeros (n : Nat) : String :=
  String.ofList (List.replicate n '0')

/-- The digits with a decimal point before the last `places` of them, zeros being put in front where
there are too few. -/
def withPoint (digits : String) (places : Nat) : String :=
  let cs := (zeros (places + 1 - digits.length) ++ digits).toList
  let whole := cs.length - places
  String.ofList (cs.take whole ++ '.' :: cs.drop whole)

/-- The number in positional notation; a whole number has no point. -/
def Numeral.plain (n : Numeral) : String :=
  let digits := toString n.digits
  if 0 ≤ n.exponent then digits ++ zeros n.exponent.toNat
  else withPoint digits (-n.exponent).toNat

/-- The number in positional notation; a whole number ends in `.0`. -/
def Numeral.pointed (n : Numeral) : String :=
  if 0 ≤ n.exponent then n.plain ++ ".0" else n.plain

/-- The number with one digit before the point and a signed exponent. -/
def Numeral.scientific (n : Numeral) : String :=
  let digits := toString n.digits
  let exponent := n.exponent + (digits.length - 1 : Nat)
  let mantissa := if digits.length = 1 then digits else withPoint digits (digits.length - 1)
  mantissa ++ (if exponent < 0 then "e-" else "e+") ++ toString exponent.natAbs

/-- The sign of a negative number. -/
def minus (negative : Bool) : String :=
  if negative then "-" else ""

/-- The text of an infinity. -/
def infinity (negative : Bool) : String :=
  minus negative ++ "inf"

/-- The shortest digits, in positional notation whatever the magnitude. -/
def plain (x : Float) : String :=
  match Binary.ofFloat x with
  | .nan => "NaN"
  | .infinite negative => infinity negative
  | .finite negative 0 _ => minus negative ++ "0"
  | .finite negative m q => minus negative ++ (shortest .up (magnitudeBits x) m q).plain

/-- The digits of `m * 2 ^ q`, rounded to `places` places, a half to even. -/
def fixedDigits (places m : Nat) (q : Int) : String :=
  let digits := toString (divHalfEven (numerator m q * Nat.pow 10 places) (denominator q))
  if places = 0 then digits else withPoint digits places

/-- The number with exactly `places` places. A number that rounds to zero keeps its sign. -/
def fixed (places : Nat) (x : Float) : String :=
  match Binary.ofFloat x with
  | .nan => "NaN"
  | .infinite negative => infinity negative
  | .finite negative m q => minus negative ++ fixedDigits places m q

/-- The number with exactly `places` places and a sign, `+` standing before what is not negative. -/
def signedFixed (places : Nat) (x : Float) : String :=
  match Binary.ofFloat x with
  | .nan => "NaN"
  | .infinite negative => (if negative then "-" else "+") ++ infinity false
  | .finite negative m q => (if negative then "-" else "+") ++ fixedDigits places m q

/-- The shortest digits of a finite number, positional from `1e-5` up to but not including `1e16`
and with an exponent beyond; nothing for a number that is not finite. -/
def literal? (x : Float) : Option String :=
  match Binary.ofFloat x with
  | .nan => none
  | .infinite _ => none
  | .finite negative 0 _ => some (minus negative ++ "0.0")
  | .finite negative m q =>
    let n := shortest .even (magnitudeBits x) m q
    let leading := n.exponent + (toString n.digits).length - 1
    some (minus negative ++ if -5 ≤ leading ∧ leading < 16 then n.pointed else n.scientific)

end PerfGate.Decimal
