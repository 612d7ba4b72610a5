/-!
# Percent escapes

In an address a byte may be written as `%` and two hexadecimal digits. `escape` writes so whatever a
part of an address cannot hold as it is; `unescape` reads a text as bytes and takes every escape
that is whole for its byte.
-/

namespace PerfGate.Http

/-- A half of a byte as a hexadecimal digit. -/
def hexDigit (n : Nat) : Char :=
  if n < 10 then Char.ofNat (48 + n) else Char.ofNat (55 + n)

/-- The value of a hexadecimal digit, in either case. -/
def hexValue? (c : Char) : Option Nat :=
  if c.isDigit then some (c.toNat - 48)
  else if 'a' ≤ c ∧ c ≤ 'f' then some (c.toNat - 87)
  else if 'A' ≤ c ∧ c ≤ 'F' then some (c.toNat - 55)
  else none

/-- The escape of a byte. -/
def escapeByte (b : UInt8) : List Char :=
  ['%', hexDigit (b.toNat / 16), hexDigit (b.toNat % 16)]

/-- The character cannot stand in any part of an address: it is a control or not ASCII. -/
def isForeign (c : Char) : Bool :=
  c.toNat < 0x20 || 0x7F ≤ c.toNat

/-- A character of an address part, escaped if it is foreign or reserved there. -/
def escapeChar (reserved : List Char) (c : Char) : List Char :=
  if isForeign c || reserved.contains c then (String.utf8EncodeChar c).flatMap escapeByte else [c]

/-- The text with its foreign and reserved characters escaped. -/
def escape (reserved : List Char) (cs : List Char) : List Char :=
  cs.flatMap (escapeChar reserved)

/-- The bytes that a text stands for. -/
def unescape : List Char → List UInt8
  | [] => []
  | c :: high :: low :: rest =>
    if c = '%' then
      match hexValue? high, hexValue? low with
      | some h, some l => UInt8.ofNat (16 * h + l) :: unescape rest
      | _, _ => String.utf8EncodeChar c ++ unescape (high :: low :: rest)
    else String.utf8EncodeChar c ++ unescape (high :: low :: rest)
  | c :: rest => String.utf8EncodeChar c ++ unescape rest

end PerfGate.Http
