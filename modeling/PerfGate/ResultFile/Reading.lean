import PerfGate.Decimal.Literal
import PerfGate.FileSystem
import PerfGate.Logged
import PerfGate.Failure
import PerfGate.Measurement.Store
import PerfGate.ResultFile.Diagnostic
import PerfGate.Text.Blank

/-!
# Reading a result file

A result file holds one measurement per line, `name: value`. Blank lines and lines that start with
`#` say nothing. `Line.ofText` decides what one line is, without regard to its neighbours, and
`Reading.add` what it does to the measurements read so far. Of a text, a stream of bytes or a file,
at most as many lines are read as the cap allows; a further line is noticed, not read.
-/

namespace PerfGate.ResultFile

/-- The cap on the lines of a result file when none is given. -/
def defaultMaxLines : Nat := 10000

/-- What a line says. -/
inductive Line where
  /-- Blank or a comment. -/
  | silent
  | missingSeparator
  | emptyName
  | malformedValue
  | measurement (name : String) (value : Float)

/-- What a line says once the blanks at its ends are gone. -/
def Line.ofTrimmed (line : List Char) : Line :=
  if line.isEmpty || line.head? == some '#' then .silent
  else
    match line.dropWhile (· != ':') with
    | [] => .missingSeparator
    | _ :: rest =>
      let name := Text.trimChars (line.takeWhile (· != ':'))
      if name.isEmpty then .emptyName
      else
        match Decimal.readFloat (String.ofList (Text.trimChars rest)) with
        | some value =>
          if Decimal.isFinite value then .measurement (String.ofList name) value
          else .malformedValue
        | none => .malformedValue

/-- A file that is to be read: its path, and what opening it gave. -/
structure Source where
  path : String
  opened : Except PathError FileSystem.Opened

/-- The file at a path of a file system. -/
def Source.ofPath (fs : FileSystem) (path : String) : Source :=
  ⟨path, fs.openRead path⟩

/-- What has been read of a result file: the measurements and what there is to report, in the order
of the lines. -/
structure Reading where
  store : Store
  diagnostics : Array Diagnostic

namespace Reading

/-- Nothing has been read. -/
def start : Reading := ⟨Store.empty, #[]⟩

/-- Reports one diagnostic. -/
def report (r : Reading) (d : Diagnostic) : Reading :=
  { r with diagnostics := r.diagnostics.push d }

/-- Adds a line, given with its number. -/
def add (r : Reading) (number : Nat) (raw : List Char) : Reading :=
  let line := Text.trimChars raw
  match Line.ofTrimmed line with
  | .silent => r
  | .missingSeparator => r.report (.missingSeparator number (String.ofList line))
  | .emptyName => r.report (.emptyName number (String.ofList line))
  | .malformedValue => r.report (.malformedValue number (String.ofList line))
  | .measurement name value =>
    let r' := if value < 0 then r.report (.negativeValue number name value) else r
    let r'' := if r.store.contains name then r'.report (.duplicate number name) else r'
    { r'' with store := r.store.insert name value }

/-- Adds lines, the first of which has the given number. -/
def addFrom (r : Reading) (number : Nat) : List (List Char) → Reading
  | [] => r
  | line :: lines => (r.add number line).addFrom (number + 1) lines

/-- Reading stopped at the line cap. -/
def isTruncated (r : Reading) : Bool :=
  r.diagnostics.any fun d => d matches .truncated _

/-- The reading of the lines up to the cap, with a report if there are more. -/
def ofLines (maxLines : Nat) (lines : List (List Char)) : Reading :=
  let r := start.addFrom 1 (lines.take maxLines)
  if maxLines < lines.length then r.report (.truncated maxLines) else r

/-- The reading of a text. -/
def ofText (maxLines : Nat) (text : String) : Reading :=
  ofLines maxLines (Text.lines text)

/-- The reading of lines that may fail to be read. Only a failure within the cap counts. -/
def ofLines? (maxLines : Nat) (lines : List (Except PathError (List Char))) :
    Except PathError Reading := do
  let readable ← (lines.take maxLines).mapM id
  let r := start.addFrom 1 readable
  pure (if maxLines < lines.length then r.report (.truncated maxLines) else r)

/-- The reading of a stream of bytes. -/
def ofBytes (maxLines : Nat) (bytes : ByteArray) : Except PathError Reading :=
  ofLines? maxLines (FileSystem.Opened.bytes bytes).lines

/-- The reading of a file. Everything that there is to report is given as a warning too. -/
def ofSource (maxLines : Nat) (source : Source) : Logged (Except Failure Reading) :=
  match source.opened >>= fun opened => ofLines? maxLines opened.lines with
  | .error e => pure (.error (.unreadable source.path e.message))
  | .ok r => do
    Logged.warnAll (r.diagnostics.toList.map (·.message))
    pure (.ok r)

/-- The reading of a file that must hold a measurement. -/
def ofNonEmptySource (maxLines : Nat) (source : Source) : Logged (Except Failure Reading) := do
  match ← ofSource maxLines source with
  | .ok r => pure (if r.store.isEmpty then .error (.emptyResults source.path) else .ok r)
  | .error e => pure (.error e)

end Reading

end PerfGate.ResultFile
