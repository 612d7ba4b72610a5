import PerfGate.HostName.Label

/-!
# Host names in ASCII

A host name may hold characters beyond ASCII; `toAscii` gives the name in ASCII that it stands for.
-/

namespace PerfGate.HostName

/-- The labels that a text names. -/
def labels? (text : List Char) : Option (List (List Char)) := do
  let letters ← map? text
  ((composed letters).splitOn '.').mapM readLabel

/-- The labels are not written from right to left anywhere, or the directions fit in each. -/
def areDirected (labels : List (List Char)) : Bool :=
  !labels.any (·.any fun c => isFromRight (Text.direction c)) || labels.all directionsFit

/-- The host name in ASCII that a text stands for, if it stands for any. -/
def toAscii (text : List Char) : Option (List Char) := do
  let labels ← labels? text
  if labels.all (·.all isAscii) || areDirected labels then
    some (['.'].intercalate (labels.map writeLabel))
  else none

end PerfGate.HostName
