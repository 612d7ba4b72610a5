/-!
# Ranges of characters

A property of characters as a table of closed ranges of code points, and the look-up in it.
-/

namespace PerfGate.Text

/-- The character lies in one of the ranges. -/
def inRanges (ranges : List (Nat × Nat)) (c : Char) : Bool :=
  ranges.any fun (first, last) => first ≤ c.toNat && c.toNat ≤ last

/-- The value of the range that the character lies in. -/
def valueIn? {α : Type} (ranges : List (Nat × Nat × α)) (c : Char) : Option α :=
  ranges.findSome? fun (first, last, value) =>
    if first ≤ c.toNat ∧ c.toNat ≤ last then some value else none

end PerfGate.Text
