import PerfGate.HostName.Folding
import PerfGate.Text.Mark
import PerfGate.Text.Printable

/-!
# Characters of host names

Which characters a host name can hold, and what the others become. What has no form of its own is
refused, marks and joiners aside; so is what would put a dot or the description of another character
into the name.
-/

namespace PerfGate.HostName

/-- The character belongs to the standard alphabet. -/
def isAscii (c : Char) : Bool :=
  c.toNat < 0x80

/-- The sign that keeps its neighbours apart. -/
def nonJoiner : Char := '\u200c'

/-- The sign that joins its neighbours. -/
def joiner : Char := '\u200d'

/-- Characters that are refused although they have a form of their own: those that are spelled with
a dot, those that describe ideographs, and the stand-ins for what cannot be shown. -/
def refusedRanges : List (Nat × Nat) :=
  [(0x2024, 0x2026), (0x2488, 0x249b), (0x2ff0, 0x2fff), (0x31ef, 0x31ef), (0x33c2, 0x33c2),
    (0x33c7, 0x33c7), (0x33d8, 0x33d8), (0xfe12, 0xfe12), (0xfe19, 0xfe19), (0xfe30, 0xfe30),
    (0xfe52, 0xfe52), (0xfffc, 0xfffd), (0x1f100, 0x1f100)]

/-- The character beyond ASCII cannot be used in a host name. -/
def isRefused (c : Char) : Bool :=
  Text.inRanges refusedRanges c ||
    !(Text.isPrintable c || Text.isMark c || c == nonJoiner || c == joiner)

/-- What the character becomes in a host name, if it can be used there. -/
def mapped? (c : Char) : Option (List Char) :=
  if isAscii c then some [c.toLower]
  else
    match folded? c with
    | some cs => some cs
    | none => if isRefused c then none else some [c]

/-- The character is used in host names as it is. -/
def isSteady (c : Char) : Bool :=
  mapped? c == some [c]

/-- The text in the letters of host names, if it has any that can be used. -/
def map? (cs : List Char) : Option (List Char) :=
  (cs.mapM mapped?).map List.flatten

end PerfGate.HostName
