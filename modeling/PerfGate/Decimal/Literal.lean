import PerfGate.Decimal.Nearest

/-!
# Numbers read from text

The literals of doubles and integers. A double is an optional sign and either a decimal number,
digits on at least one side of an optional point and an optional exponent, or one of the words for
infinity and not-a-number in any case; it is rounded correctly. An integer is ASCII digits with an
optional sign and must fit its range.
-/

namespace PerfGate.Decimal

/-- The value of an ASCII digit. -/
def digitValue (c : Char) : Nat :=
  c.toNat - 48

/-- The value of a run of digits as `high * scale + low`. Only `low` and `scale` change with every
digit, so that a long run does not cost a long multiplication for each of its digits. -/
structure RunValue where
  high : Nat
  low : Nat
  scale : Nat

namespace RunValue

/-- The value of no digits. -/
def empty : RunValue := ⟨0, 0, 1⟩

/-- The value itself. -/
def total (v : RunValue) : Nat :=
  v.high * v.scale + v.low

/-- From this scale on the low part is joined to the high one. -/
def scaleLimit : Nat := Nat.pow 10 400

/-- The value of the run with one more digit. -/
def push (v : RunValue) (c : Char) : RunValue :=
  if v.scale < scaleLimit then ⟨v.high, 10 * v.low + digitValue c, 10 * v.scale⟩
  else ⟨v.total, digitValue c, 10⟩

theorem total_push (v : RunValue) (c : Char) :
    (v.push c).total = 10 * v.total + digitValue c := by
  unfold push
  split
  · simp only [total]
    rw [Nat.mul_left_comm]
    omega
  · simp only [total]
    omega

end RunValue

/-- The value of a run of ASCII digits. -/
def digitsValue (cs : List Char) : Nat :=
  (cs.foldl RunValue.push RunValue.empty).total

/-- The text is at least one character long and holds ASCII digits only. -/
def isDigits (cs : List Char) : Bool :=
  !cs.isEmpty && cs.all Char.isDigit

/-- A sign in front, as "is it a minus", and the rest. -/
def splitSign : List Char → Bool × List Char
  | '-' :: cs => (true, cs)
  | '+' :: cs => (false, cs)
  | cs => (false, cs)

/-- An exponent that has reached this bound takes no further digits. -/
def exponentBound : Nat := 0x10000

/-- The value of the digits of an exponent, of which no more are read than it takes to reach the
bound. -/
def exponentValue (cs : List Char) : Nat :=
  cs.foldl (fun n c => if n < exponentBound then 10 * n + digitValue c else n) 0

/-- The value of an exponent part, `e` or `E` with an optional sign and digits; no exponent part
means zero. -/
def exponentPart : List Char → Option Int
  | [] => some 0
  | c :: cs =>
    if c = 'e' ∨ c = 'E' then
      let (negative, digits) := splitSign cs
      if isDigits digits then
        let n : Int := exponentValue digits
        some (if negative then -n else n)
      else none
    else none

/-- The decimal number written by unsigned text. -/
def Numeral.read (cs : List Char) : Option Numeral :=
  let whole := cs.takeWhile Char.isDigit
  let afterWhole := cs.dropWhile Char.isDigit
  let (places, afterPlaces) :=
    match afterWhole with
    | '.' :: r => (r.takeWhile Char.isDigit, r.dropWhile Char.isDigit)
    | r => ([], r)
  if whole.isEmpty && places.isEmpty then none
  else (exponentPart afterPlaces).map fun e => ⟨digitsValue (whole ++ places), e - places.length⟩

/-- The double written by the text. -/
def readFloat (text : String) : Option Float :=
  let (negative, cs) := splitSign text.toList
  let word := String.ofList (cs.map Char.toLower)
  if word == "inf" || word == "infinity" then some (ofMagnitude negative infinityBits)
  else if word == "nan" then some (0.0 / 0.0)
  else (Numeral.read cs).map (·.toFloat negative)

/-- The natural number below `bound` written by the text, a `+` being allowed in front. -/
def readNat (bound : Nat) (text : String) : Option Nat :=
  let digits := match text.toList with
    | '+' :: cs => cs
    | cs => cs
  let n := digitsValue digits
  if isDigits digits && n < bound then some n else none

/-- The integer of 64 bits written by the text. -/
def readInt64 (text : String) : Option Int :=
  let (negative, digits) := splitSign text.toList
  let n : Int := digitsValue digits
  let i := if negative then -n else n
  let fits := Int64.minValue.toInt ≤ i ∧ i ≤ Int64.maxValue.toInt
  if isDigits digits && decide fits then some i else none

end PerfGate.Decimal
