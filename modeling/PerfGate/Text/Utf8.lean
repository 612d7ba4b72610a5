/-!
# UTF-8

Bytes read as text. `validLength` says how many bytes at the front of an array form whole
characters; an array is a text exactly when that is all of them, and otherwise it is the offset at
which reading must stop.
-/

namespace PerfGate.Text

/-- The number of bytes from offset `i` on that form whole characters, `i` included. -/
def validLengthFrom (bytes : ByteArray) (i : Nat) : Nat :=
  if i < bytes.size then
    match bytes.utf8DecodeChar? i with
    | some c => validLengthFrom bytes (i + c.utf8Size)
    | none => i
  else i
termination_by bytes.size - i
decreasing_by have := c.utf8Size_pos; omega

/-- The length of the longest part at the front that is made of whole characters. -/
def validLength (bytes : ByteArray) : Nat :=
  validLengthFrom bytes 0

/-- The text that the bytes encode, or the length of the part that is still text. -/
def ofUtf8 (bytes : ByteArray) : Except Nat String :=
  match String.fromUTF8? bytes with
  | some text => .ok text
  | none => .error (validLength bytes)

/-- The number of bytes that encode the characters. -/
def utf8Length (cs : List Char) : Nat :=
  cs.foldl (fun n c => n + c.utf8Size) 0

/-- The first byte of the character's encoding. -/
def leadByte (c : Char) : UInt8 :=
  (String.utf8EncodeChar c).headD 0

end PerfGate.Text
