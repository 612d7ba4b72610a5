import PerfGate.Decimal.Layout
import PerfGate.FileSystem
import PerfGate.Failure
import PerfGate.Measurement.Store

/-!
# Writing a result file

A header of comment lines, then one line per measurement in the order of the names, with two
decimals.
-/

namespace PerfGate.ResultFile

/-- A point in time, as a calendar shows it. -/
structure Timestamp where
  year : Int
  month : Nat
  day : Nat
  hour : Nat
  minute : Nat
  second : Nat

namespace Timestamp

/-- The number with zeros in front up to the width. -/
def padZero (width n : Nat) : String :=
  let digits := toString n
  String.ofList (List.replicate (width - digits.length) '0') ++ digits

/-- The year in four digits, with a sign when it needs more or lies before the year zero. -/
def yearText (year : Int) : String :=
  let sign := if year < 0 then "-" else if 9999 < year then "+" else ""
  sign ++ padZero 4 year.natAbs

/-- Date and time of day. -/
def text (t : Timestamp) : String :=
  yearText t.year ++ "-" ++ padZero 2 t.month ++ "-" ++ padZero 2 t.day ++ " " ++
    padZero 2 t.hour ++ ":" ++ padZero 2 t.minute ++ ":" ++ padZero 2 t.second

end Timestamp

/-- What the header of a result file says beside the number of its measurements. -/
structure Header where
  title : String
  runCount : Nat
  generated : Timestamp

/-- The lines of the header. -/
def Header.lines (h : Header) (measurements : Nat) : List String :=
  ["# Performance Results - " ++ h.title,
   "# Generated: " ++ h.generated.text,
   "# Method: minimum of " ++ toString h.runCount ++ " runs",
   "# Total benchmarks: " ++ toString measurements,
   "#",
   "# Format: benchmark_name: ns_per_op",
   "#"]

/-- The line of one measurement. -/
def measurementLine (name : String) (value : Float) : String :=
  name ++ ": " ++ Decimal.fixed 2 value

/-- The text of a result file. -/
def render (store : Store) (header : Header) : String :=
  String.join ((header.lines store.size ++ store.toList.map fun m => measurementLine m.1 m.2).map
    (· ++ "\n"))

/-- The failure to write the result file to a path. -/
def unwritable (path : String) (e : PathError) : Failure :=
  .unwritable path e.message

/-- The file system after the result file was written. -/
def write (fs : FileSystem) (path : String) (store : Store) (header : Header) :
    Except Failure FileSystem :=
  (fs.write path (render store header)).mapError (unwritable path)

end PerfGate.ResultFile
