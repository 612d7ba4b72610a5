import PerfGate.Decimal.Layout

/-!
# Diagnostics of a result file

What is reported about the lines of a result file. None of it stops the reading: a line that cannot
be read is skipped, a doubtful one is kept. Lines are counted from one.
-/

namespace PerfGate

/-- Something to report about a result file. -/
inductive Diagnostic where
  /-- Reading stopped at the line cap. -/
  | truncated (maxLines : Nat)
  /-- The line has no colon. -/
  | missingSeparator (line : Nat) (text : String)
  /-- Nothing but blanks stands before the colon. -/
  | emptyName (line : Nat) (text : String)
  /-- What follows the colon is no finite number. -/
  | malformedValue (line : Nat) (text : String)
  /-- The value is below zero. -/
  | negativeValue (line : Nat) (name : String) (value : Float)
  /-- The name has a value from an earlier line. -/
  | duplicate (line : Nat) (name : String)

namespace Diagnostic

/-- The line was dropped. -/
def isSkippedLine : Diagnostic → Bool
  | missingSeparator .. | emptyName .. | malformedValue .. => true
  | _ => false

/-- The line was kept, but its data is doubtful. -/
def isDataQuality : Diagnostic → Bool
  | negativeValue .. | duplicate .. => true
  | _ => false

/-- The text shown to the user. -/
def message : Diagnostic → String
  | truncated maxLines => s!"Truncated after {maxLines} lines"
  | missingSeparator line text => s!"Skipping line {line} without ':' separator: {text}"
  | emptyName line text => s!"Skipping line {line} with empty name: {text}"
  | malformedValue line text => s!"Skipping malformed line {line}: {text}"
  | negativeValue line name value =>
    s!"Negative value at line {line}: {name}: " ++ Decimal.plain value
  | duplicate line name => s!"Duplicate benchmark '{name}' at line {line} overrides earlier value"

end Diagnostic

end PerfGate
