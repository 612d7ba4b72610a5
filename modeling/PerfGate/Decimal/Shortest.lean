import PerfGate.Decimal.Nearest

/-!
# Shortest digits

`shortest` finds the decimal number with the fewest digits that reads back as a given double. It
tries the grids of multiples of `10 ^ k` from a coarse one down; on each grid only the two
neighbours of the value can read back, and of two that do the nearer one is taken. The grid
`10 ^ min q 0` contains the value itself, so the search ends there at the latest.
-/

namespace PerfGate.Decimal

/-- Which of two neighbours is taken when the value lies exactly between them. -/
inductive Tie where
  | up
  | even
  deriving DecidableEq, Repr

/-- The number on the grid of multiples of `10 ^ k` that reads back as the double with magnitude
`bits`, given that the magnitude is `m * 2 ^ q`. -/
def onGrid (tie : Tie) (bits m : Nat) (q k : Int) : Option Numeral :=
  let num := numerator m q * Nat.pow 10 (-k).toNat
  let den := denominator q * Nat.pow 10 k.toNat
  let lower : Numeral := ⟨num / den, k⟩
  let upper : Numeral := ⟨num / den + 1, k⟩
  match lower.nearestBits == bits, upper.nearestBits == bits with
  | true, true =>
    match compare (2 * (num % den)) den, tie with
    | .lt, _ => some lower
    | .gt, _ => some upper
    | .eq, .up => some upper
    | .eq, .even => some (if lower.digits % 2 = 0 then lower else upper)
  | true, false => some lower
  | false, true => some upper
  | false, false => none

/-- The first number found on the grids `10 ^ k`, `10 ^ (k - 1)`, …; when all `steps` of them fail,
the value itself. -/
def firstOnGrid (tie : Tie) (bits m : Nat) (q : Int) : Int → Nat → Numeral
  | _, 0 => ⟨numerator m q * Nat.pow 5 (-q).toNat, min q 0⟩
  | k, steps + 1 =>
    match onGrid tie bits m q k with
    | some n => n
    | none => firstOnGrid tie bits m q (k - 1) steps

/-- A power of ten that is above `2 ^ (e + 1)`, by the bound `0.30103` for the logarithm of two. -/
def coarsestGrid (e : Int) : Int :=
  max ((e + 1) * 30103 / 100000) ((e + 1) * 30102 / 100000) + 1

/-- The decimal number with the fewest digits that reads back as the positive double with magnitude
`bits`, which is `m * 2 ^ q`. -/
def shortest (tie : Tie) (bits m : Nat) (q : Int) : Numeral :=
  let k := coarsestGrid (q + m.log2)
  firstOnGrid tie bits m q k (k - min q 0 + 1).toNat

end PerfGate.Decimal
