import PerfGate.HostName.Composite
import PerfGate.HostName.Punycode
import PerfGate.Text.Direction
import PerfGate.Text.Joining

/-!
# Labels

The parts of a host name between its dots. A label is well formed if no mark stands in front, its
joiners have something to join or keep apart, and it is not too long to be written in ASCII. If a
host name is written from right to left anywhere, the directions of every label must fit.
-/

namespace PerfGate.HostName

/-- What a label in ASCII begins with if it stands for one beyond ASCII. -/
def codedStart : List Char := ['x', 'n', '-', '-']

/-- The most characters that a label beyond ASCII may have. -/
def maxLength : Nat := 1000

/-- The most characters in ASCII that may stand for a label. -/
def maxCodedLength : Nat := 2000

/-- The character ends in a sign that takes the vowel from it. -/
def endsInVirama : List Char → Bool
  | latest :: _ => Text.isVirama latest
  | [] => false

/-- The first letter that is not transparent joins. -/
def reachesJoin (joins : Text.Joining → Bool) (cs : List Char) : Bool :=
  (cs.map Text.joining).find? (· != .transparent) |>.any joins

/-- A joiner has something to do between what stands before it, the latest first, and after it. -/
def joinerFits (before : List Char) (c : Char) (after : List Char) : Bool :=
  if c = joiner then endsInVirama before
  else if c = nonJoiner then
    endsInVirama before ||
      (reachesJoin Text.Joining.joinsAfter before && reachesJoin Text.Joining.joinsBefore after)
  else true

/-- Every joiner has something to do. -/
def joinersFit (before : List Char) : List Char → Bool
  | [] => true
  | c :: after => joinerFits before c after && joinersFit (c :: before) after

/-- No mark stands in front. -/
def startsWithLetter : List Char → Bool
  | c :: _ => !Text.isMark c
  | [] => true

/-- The label beyond ASCII is well formed. -/
def isWellFormed (label : List Char) : Bool :=
  label.length ≤ maxLength && startsWithLetter label && joinersFit [] label

/-- The label that characters stand for: themselves, or what is coded in them. A coded label must be
one beyond ASCII that is mapped to itself. -/
def readLabel (cs : List Char) : Option (List Char) :=
  if cs.take 4 = codedStart then do
    let coded := cs.drop 4
    if !coded.all isAscii ∨ coded.getLast?.all (· == '-') ∨ maxCodedLength < coded.length then none
    let label ← decode coded
    if label.all isSteady ∧ composed label = label ∧ isWellFormed label then some label else none
  else if cs.all isAscii ∨ isWellFormed cs then some cs
  else none

/-- The label in ASCII. -/
def writeLabel (label : List Char) : List Char :=
  if label.all isAscii then label else codedStart ++ encode label

/-- The direction makes a host name one that is written from right to left. -/
def isFromRight (d : Text.Direction) : Bool :=
  d == .rightToLeft || d == .arabicNumber

/-- A label can end in the direction if it begins in the other one given. -/
def canEnd (start d : Text.Direction) : Bool :=
  d == start || d == .number || (start == .rightToLeft && d == .arabicNumber)

/-- A label can hold the direction if it begins in the other one given. -/
def canHold (start d : Text.Direction) : Bool :=
  match start with
  | .leftToRight => !isFromRight d
  | .rightToLeft => d != .leftToRight
  | _ => false

/-- The directions of a label fit together: it begins with a letter and ends, marks aside, with one
of that direction or a number; none goes against the first; and the figures are of one kind. -/
def directionsFit (label : List Char) : Bool :=
  match label.map Text.direction with
  | [] => true
  | start :: rest =>
    let rest := (rest.reverse.dropWhile (· == .nonspacing)).reverse
    (start == .leftToRight || start == .rightToLeft) && rest.all (canHold start) &&
      rest.getLast?.all (canEnd start) && !(rest.contains .number && rest.contains .arabicNumber)

end PerfGate.HostName
