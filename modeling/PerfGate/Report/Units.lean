import PerfGate.Decimal.Layout

/-!
# Units

Durations and percentages as reports show them, and rounding to a number of decimal places in
floating-point arithmetic.
-/

namespace PerfGate.Report

/-- A duration in nanoseconds, in the largest unit of which it holds at least one. -/
def duration (ns : Float) : String :=
  if 1000000 ≤ ns then Decimal.fixed 2 (ns / 1000000) ++ " ms"
  else if 1000 ≤ ns then Decimal.fixed 2 (ns / 1000) ++ " µs"
  else Decimal.fixed 2 ns ++ " ns"

/-- A percentage with as many decimals as it needs. -/
def percentage (pct : Float) : String :=
  let small := -1000000000000000 < pct && pct < 1000000000000000
  (if Decimal.isWhole pct && small then Decimal.fixed 0 pct else Decimal.plain pct) ++ "%"

/-- The product of `product` and `base` to the power of `n`, by squaring. -/
def powerOnto (product base : Float) (n : Nat) : Float :=
  let product := if n % 2 = 1 then product * base else product
  if n < 2 then product else powerOnto product (base * base) (n / 2)
termination_by n
decreasing_by omega

/-- Ten to a power, in floating-point arithmetic. -/
def powerOfTen (exponent : Int) : Float :=
  let power := powerOnto 1 10 exponent.natAbs
  if exponent < 0 then 1 / power else power

/-- The number rounded to so many decimal places, by scaling, rounding and scaling back. -/
def roundTo (places : Int) (x : Float) : Float :=
  let factor := powerOfTen places
  Decimal.roundAway (x * factor) / factor

end PerfGate.Report
