import PerfGate.HostName.Ascii
import PerfGate.Http.Percent

/-!
# Hosts

The host in an address: a name, or a number of version 4 or 6. A text whose last label is a number
must be a version 4 address; such an address has up to four parts, decimal, octal or hexadecimal, of
which the last takes all the bytes that are left. A text in brackets is a version 6 address.
`Host.text` writes every address in one way.
-/

namespace PerfGate.Http

/-- Why a text is no host. -/
inductive HostError where
  | empty
  | badName
  | badIpv4
  | badIpv6
  deriving DecidableEq, Repr

/-- Where a server is. -/
inductive Host where
  | name (text : String)
  | ipv4 (number : Nat)
  /-- The eight pieces of the address. -/
  | ipv6 (pieces : List Nat)
  deriving DecidableEq, Repr

namespace Host

/-- The characters that no name holds, beside the controls. -/
def forbiddenInName : List Char :=
  [' ', '#', '%', '/', ':', '<', '>', '?', '@', '[', '\\', ']', '^', '|']

/-- The character cannot stand in a name. -/
def isForbidden (c : Char) : Bool :=
  c.toNat < 0x20 || c.toNat == 0x7F || forbiddenInName.contains c

/-- The value of digits to a base. -/
def valueToBase (base : Nat) (digits : List Char) : Option Nat :=
  digits.foldl (fun n? c => do
    let n ← n?
    let d ← hexValue? c
    if d < base then some (base * n + d) else none) (some 0)

/-- A part of a version 4 address: hexadecimal after `0x`, octal after another `0`, else decimal. -/
def ipv4Part : List Char → Option Nat
  | [] => none
  | '0' :: 'x' :: digits => valueToBase 16 digits
  | '0' :: d :: digits => valueToBase 8 (d :: digits)
  | digits => valueToBase 10 digits

/-- The labels of a name without the empty one behind a last dot. -/
def labels (name : List Char) : List (List Char) :=
  let parts := name.splitOn '.'
  if 1 < parts.length ∧ parts.getLast? = some [] then parts.dropLast else parts

/-- The last label of the name is a number. -/
def endsInNumber (name : List Char) : Bool :=
  match (labels name).getLast? with
  | some label => (!label.isEmpty && label.all Char.isDigit) || (ipv4Part label).isSome
  | none => false

/-- The number of a version 4 address whose last part stands behind `before`. -/
def joinIpv4 (before : List Nat) (last : Nat) : Option Nat :=
  if 3 < before.length ∨ before.any (255 < ·) ∨ Nat.pow 256 (4 - before.length) ≤ last then none
  else some (before.foldl (256 * · + ·) 0 * Nat.pow 256 (4 - before.length) + last)

/-- The number of a version 4 address. -/
def readIpv4 (name : List Char) : Option Nat := do
  let parts ← (labels name).mapM ipv4Part
  joinIpv4 parts.dropLast (← parts.getLast?)

/-- A piece of a version 6 address: up to four hexadecimal digits. -/
def ipv6Piece (digits : List Char) : Option Nat :=
  if digits.isEmpty ∨ 4 < digits.length then none else valueToBase 16 digits

/-- A byte in decimal digits, without a zero in front. -/
def decimalByte (digits : List Char) : Option Nat :=
  if digits.isEmpty ∨ 3 < digits.length ∨ (1 < digits.length ∧ digits.head? = some '0') then none
  else (valueToBase 10 digits).filter (· ≤ 255)

/-- The last two pieces of a version 6 address, written as a version 4 one. -/
def ipv4Pieces (text : List Char) : Option (List Nat) := do
  match ← (text.splitOn '.').mapM decimalByte with
  | [a, b, c, d] => some [256 * a + b, 256 * c + d]
  | _ => none

/-- The pieces between colons; at the end of the address the last may be written in dots. -/
def ipv6Pieces (atEnd : Bool) (text : List Char) : Option (List Nat) :=
  if text.isEmpty then some []
  else do
    let parts := text.splitOn ':'
    let last ← parts.getLast?
    let before ← parts.dropLast.mapM ipv6Piece
    let end_ ← if atEnd && last.contains '.' then ipv4Pieces last else (ipv6Piece last).map ([·])
    some (before ++ end_)

/-- What stands before and after the first two colons in a row. -/
def splitGap : List Char → Option (List Char × List Char)
  | ':' :: ':' :: rest => some ([], rest)
  | c :: rest => (splitGap rest).map fun (before, after) => (c :: before, after)
  | [] => none

/-- The pieces of a version 6 address. Two colons in a row stand for at least one piece of zero. -/
def readIpv6 (text : List Char) : Option (List Nat) := do
  match splitGap text with
  | none =>
    let pieces ← ipv6Pieces true text
    if pieces.length = 8 then some pieces else none
  | some (before, after) =>
    let front ← ipv6Pieces false before
    let back ← ipv6Pieces true after
    if front.length + back.length ≤ 7 then
      some (front ++ List.replicate (8 - front.length - back.length) 0 ++ back)
    else none

/-- The name in ASCII that bytes spell. -/
def readName (bytes : List UInt8) : Except HostError (List Char) :=
  match (String.fromUTF8? ⟨bytes.toArray⟩).bind fun text => HostName.toAscii text.toList with
  | none => .error .badName
  | some [] => .error .empty
  | some ascii => if ascii.any isForbidden then .error .badName else .ok ascii

/-- The host that a text stands for. -/
def parse (text : List Char) : Except HostError Host := do
  match text with
  | [] => throw .empty
  | '[' :: inner =>
    if inner.getLast? ≠ some ']' then throw .badIpv6
    match readIpv6 inner.dropLast with
    | some pieces => pure (.ipv6 pieces)
    | none => throw .badIpv6
  | _ =>
    let name ← readName (unescape text)
    if endsInNumber name then
      match readIpv4 name with
      | some number => pure (.ipv4 number)
      | none => throw .badIpv4
    else pure (.name (String.ofList name))

/-- A version 4 address as four numbers with dots. -/
def ipv4Text (n : Nat) : String :=
  String.intercalate "." ([n / 16777216, n / 65536 % 256, n / 256 % 256, n % 256].map toString)

/-- Pieces of a version 6 address with colons between them. -/
def piecesText (pieces : List Nat) : String :=
  String.intercalate ":" (pieces.map fun n => String.ofList (Nat.toDigits 16 n))

/-- The number of zeros in front. -/
def zeroRun (pieces : List Nat) : Nat :=
  (pieces.takeWhile (· == 0)).length

/-- The place of the longest run of zeros, the first of the longest ones, and its length. -/
def longestZeroRun : List Nat → Nat × Nat
  | [] => (0, 0)
  | piece :: rest =>
    let (place, length) := longestZeroRun rest
    let here := zeroRun (piece :: rest)
    if length ≤ here then (0, here) else (place + 1, length)

/-- A version 6 address, with two colons in place of the longest run of zeros if there are two or
more. -/
def ipv6Text (pieces : List Nat) : String :=
  let (place, length) := longestZeroRun pieces
  if length < 2 then piecesText pieces
  else piecesText (pieces.take place) ++ "::" ++ piecesText (pieces.drop (place + length))

/-- The host as it is written in an address. -/
def text : Host → String
  | name text => text
  | ipv4 number => ipv4Text number
  | ipv6 pieces => "[" ++ ipv6Text pieces ++ "]"

end Host

end PerfGate.Http
