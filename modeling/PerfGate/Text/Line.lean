/-!
# Lines

A text is cut at its line feeds; a carriage return just before a line feed belongs to the line end.
The functions are generic in the unit, so that a file's bytes and a text's characters are cut by one
rule.
-/

namespace PerfGate.Text

variable {α : Type} [BEq α]

/-- The line without the one `ret` at its end, if it has one. -/
def dropReturn (ret : α) (line : List α) : List α :=
  match line.getLast? with
  | some c => if c == ret then line.dropLast else line
  | none => line

/-- The lines of a text in which `feed` ends a line and a `ret` before it is dropped. What follows
the last `feed` is a line of its own unless it is empty, and keeps its `ret`. -/
def linesBy (feed ret : α) (units : List α) : List (List α) :=
  let pieces := units.splitOn feed
  let ended := pieces.dropLast.map (dropReturn ret)
  match pieces.getLast? with
  | some last => if last.isEmpty then ended else ended ++ [last]
  | none => ended

/-- The lines of a text. -/
def lines (text : String) : List (List Char) :=
  linesBy '\n' '\r' text.toList

/-- The lines of a file, as bytes. -/
def byteLines (bytes : ByteArray) : List (List UInt8) :=
  linesBy 0x0A 0x0D bytes.data.toList

end PerfGate.Text
