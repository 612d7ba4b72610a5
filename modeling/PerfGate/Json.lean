import PerfGate.Decimal.Layout

/-!
# JSON documents

A JSON value and its text, laid out with two spaces of indentation per level. Members keep the order
in which they are given. A number that is not finite is written as `null`.
-/

namespace PerfGate

/-- A JSON value. -/
inductive Json where
  | boolean (b : Bool)
  | count (n : Nat)
  | number (x : Float)
  | text (s : String)
  | list (items : List Json)
  | record (members : List (String × Json))

namespace Json

/-- One hexadecimal digit, in lower case. -/
def hexDigit (n : Nat) : Char :=
  Char.ofNat (if n < 10 then 48 + n else 87 + n)

/-- A character inside a quoted text: quotes, backslashes and control characters are escaped. -/
def quoteChar (c : Char) : List Char :=
  match c with
  | '"' => ['\\', '"']
  | '\\' => ['\\', '\\']
  | '\n' => ['\\', 'n']
  | '\r' => ['\\', 'r']
  | '\t' => ['\\', 't']
  | '\x08' => ['\\', 'b']
  | '\x0c' => ['\\', 'f']
  | c =>
    if c.toNat < 0x20 then ['\\', 'u', '0', '0', hexDigit (c.toNat / 16), hexDigit (c.toNat % 16)]
    else [c]

/-- The text in quotes. -/
def quote (s : String) : String :=
  String.ofList ('"' :: s.toList.flatMap quoteChar ++ ['"'])

/-- The line start of a nesting level. -/
def indent (depth : Nat) : String :=
  String.ofList (List.replicate (2 * depth) ' ')

/-- The lines of a list or record between its brackets; nothing stands between the brackets of an
empty one. -/
def bracket (opening closing : String) (depth : Nat) (lines : List String) : String :=
  if lines.isEmpty then opening ++ closing
  else
    opening ++ "\n" ++ String.intercalate ",\n" lines ++ "\n" ++ indent depth ++ closing

mutual

/-- The text of a value that stands at a nesting level. -/
def renderAt (depth : Nat) : Json → String
  | .boolean b => if b then "true" else "false"
  | .count n => toString n
  | .number x => (Decimal.literal? x).getD "null"
  | .text s => quote s
  | .list items => bracket "[" "]" depth (itemLines (depth + 1) items)
  | .record members => bracket "\x7b" "\x7d" depth (memberLines (depth + 1) members)

/-- The lines of a list's items. -/
def itemLines (depth : Nat) : List Json → List String
  | [] => []
  | item :: items => (indent depth ++ renderAt depth item) :: itemLines depth items

/-- The lines of a record's members. -/
def memberLines (depth : Nat) : List (String × Json) → List String
  | [] => []
  | (name, value) :: members =>
    (indent depth ++ quote name ++ ": " ++ renderAt depth value) :: memberLines depth members

end

/-- The text of a document. -/
def render (value : Json) : String :=
  renderAt 0 value

end Json

end PerfGate
