import PerfGate.Text.Printable

/-!
# Quoted text

Text between double quotes, for messages that show what was found. Quotes, backslashes and whatever
has no visible form of its own are escaped.
-/

namespace PerfGate.Text

/-- The number in lower-case hexadecimal digits. -/
def hex (n : Nat) : String :=
  String.ofList (Nat.toDigits 16 n)

/-- A character between quotes. -/
def quotedChar (c : Char) : String :=
  match c with
  | '"' => "\\\""
  | '\\' => "\\\\"
  | '\n' => "\\n"
  | '\r' => "\\r"
  | '\t' => "\\t"
  | '\x00' => "\\0"
  | c => if isPrintable c then String.singleton c else "\\u\x7b" ++ hex c.toNat ++ "\x7d"

/-- The text in quotes. -/
def quoted (s : String) : String :=
  "\"" ++ String.join (s.toList.map quotedChar) ++ "\""

end PerfGate.Text
