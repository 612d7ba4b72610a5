/-!
# Columns

Cells of a table, padded with spaces to a width counted in code points. A cell wider than its column
is written whole.
-/

namespace PerfGate.Text

/-- The text, then spaces up to the width. -/
def padRight (width : Nat) (s : String) : String :=
  s ++ String.ofList (List.replicate (width - s.length) ' ')

/-- Spaces up to the width, then the text. -/
def padLeft (width : Nat) (s : String) : String :=
  String.ofList (List.replicate (width - s.length) ' ') ++ s

/-- A ruled line: one character, repeated. -/
def rule (width : Nat) (c : Char) : String :=
  String.ofList (List.replicate width c)

end PerfGate.Text
