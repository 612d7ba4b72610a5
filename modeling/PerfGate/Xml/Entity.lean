import PerfGate.Text.Quoted
import PerfGate.Text.Utf8

/-!
# Entities

The characters that a document writes as entities. `escape` replaces the five characters that have
a name; `unescape` replaces every entity of a run of text by its character, and fails on one that it
does not know, with the place of the entity in the run, in bytes.
-/

namespace PerfGate.Xml

/-- A character in a run of text: markup characters are written as entities. -/
def escapeChar : Char → List Char
  | '<' => "&lt;".toList
  | '>' => "&gt;".toList
  | '&' => "&amp;".toList
  | '\'' => "&apos;".toList
  | '"' => "&quot;".toList
  | c => [c]

/-- The run of text that stands for the characters. -/
def escape (cs : List Char) : List Char :=
  cs.flatMap escapeChar

/-- Why an entity has no character. Places are byte offsets in the run of text. -/
inductive EntityError where
  /-- There is no `;` before the next `&` or the end. -/
  | unterminated (start stop : Nat)
  | unknown (start stop : Nat) (name : List Char)
  | null (start stop : Nat)
  | hexTooLong
  | decimalTooLong
  | badHexDigit (byte : UInt8)
  | badDecimalDigit (byte : UInt8)
  /-- The number belongs to no character. -/
  | invalidCodepoint (n : Nat)
  deriving DecidableEq, Repr

namespace EntityError

/-- The byte as the character with its number. -/
def byteChar (byte : UInt8) : Char :=
  Char.ofNat byte.toNat

/-- The text shown to the user. -/
def message : EntityError → String
  | unterminated start stop =>
    s!"Error while escaping character at range {start}..{stop}: Cannot find ';' after '&'"
  | unknown start stop name =>
    s!"Error while escaping character at range {start}..{stop}: Unrecognized escape symbol: " ++
      Text.quoted (String.ofList name)
  | null start stop =>
    s!"Error while escaping character at range {start}..{stop}: Null character entity not allowed"
  | hexTooLong => "Cannot convert hexadecimal to utf8"
  | decimalTooLong => "Cannot convert decimal to utf8"
  | badHexDigit byte => s!"'{byteChar byte}' is not a valid hexadecimal character"
  | badDecimalDigit byte => s!"'{byteChar byte}' is not a valid decimal character"
  | invalidCodepoint n => s!"'{n}' is not a valid codepoint"

end EntityError

/-- The value of a hexadecimal digit. -/
def hexValue? (c : Char) : Option Nat :=
  if c.isDigit then some (c.toNat - 48)
  else if 'a' ≤ c ∧ c ≤ 'f' then some (c.toNat - 87)
  else if 'A' ≤ c ∧ c ≤ 'F' then some (c.toNat - 55)
  else none

/-- The value of a decimal digit. -/
def decimalValue? (c : Char) : Option Nat :=
  if c.isDigit then some (c.toNat - 48) else none

/-- The number written in a base; fails on the first character that is no digit of it. -/
def readBase (base : Nat) (digit? : Char → Option Nat) (bad : UInt8 → EntityError)
    (cs : List Char) : Except EntityError Nat :=
  cs.foldlM (fun n c =>
    match digit? c with
    | some d => .ok (base * n + d)
    | none => .error (bad (Text.leadByte c))) 0

/-- The number of a character reference, given without its `#`. -/
def referenceNumber : List Char → Except EntityError Nat
  | 'x' :: cs =>
    if 6 < Text.utf8Length cs then .error .hexTooLong else readBase 16 hexValue? .badHexDigit cs
  | cs =>
    if 7 < Text.utf8Length cs then .error .decimalTooLong
    else readBase 10 decimalValue? .badDecimalDigit cs

/-- The character with a name. -/
def named? (name : List Char) : Option Char :=
  match String.ofList name with
  | "lt" => some '<'
  | "gt" => some '>'
  | "amp" => some '&'
  | "apos" => some '\''
  | "quot" => some '"'
  | _ => none

/-- The character of an entity whose `&` and `;` stand at the given places. -/
def entityChar (start stop : Nat) (name : List Char) : Except EntityError Char :=
  match name with
  | '#' :: digits =>
    match referenceNumber digits with
    | .error e => .error e
    | .ok n =>
      if n = 0 then .error (.null start stop)
      else if h : n.isValidChar then .ok (Char.ofNatAux n h)
      else .error (.invalidCodepoint n)
  | name =>
    match named? name with
    | some c => .ok c
    | none => .error (.unknown (start + 1) stop name)

/-- Replaces entities from a place in a run of `total` bytes on. An entity whose `&` was met is held
as its place and its characters so far, the latest first; so is what was written. -/
def unescapeFrom (total : Nat) :
    List Char → Nat → Option (Nat × List Char) → List Char → Except EntityError (List Char)
  | [], _, none, out => .ok out.reverse
  | [], _, some (start, _), _ => .error (.unterminated start total)
  | c :: cs, offset, none, out =>
    if c = '&' then unescapeFrom total cs (offset + 1) (some (offset, [])) out
    else unescapeFrom total cs (offset + c.utf8Size) none (c :: out)
  | c :: cs, offset, some (start, name), out =>
    if c = ';' then
      match entityChar start offset name.reverse with
      | .ok d => unescapeFrom total cs (offset + 1) none (d :: out)
      | .error e => .error e
    else if c = '&' then .error (.unterminated start total)
    else unescapeFrom total cs (offset + c.utf8Size) (some (start, c :: name)) out

/-- The characters that a run of text stands for. -/
def unescape (raw : List Char) : Except EntityError (List Char) :=
  unescapeFrom (Text.utf8Length raw) raw 0 none []

end PerfGate.Xml
