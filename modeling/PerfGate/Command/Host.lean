import PerfGate.Logged
import PerfGate.Report.Remark
import PerfGate.ResultFile.Reading
import PerfGate.ResultFile.Writing

/-!
# Hosts

A `Host` is what a command sees of the world around it: files, the time of day, and the places where
its output and its warnings go. Commands are written over a host in some monad. A `World` is such a
surrounding as a value, and `Host.ofWorld` the host that acts on it, so that a command can be
followed from the files that it found to the files that it left.
-/

namespace PerfGate.Command

/-- What a command can do, in a monad. -/
structure Host (m : Type → Type) where
  /-- Opens the file at a path. -/
  openRead : String → m (Except PathError FileSystem.Opened)
  /-- Writes a text to the file at a path. -/
  write : String → String → m (Except PathError Unit)
  /-- The time of day. -/
  now : m ResultFile.Timestamp
  /-- Writes to the output. -/
  print : String → m Unit
  /-- Gives a warning. -/
  warn : String → m Unit

namespace Host

variable {m : Type → Type} [Monad m]

/-- Writes lines to the output. -/
def printLines (host : Host m) (lines : List String) : m Unit :=
  host.print (String.join (lines.map (· ++ "\n")))

/-- Writes remarks to the output, if remarks are asked for. -/
def remark (host : Host m) (enabled : Bool) (remarks : List Remark) : m Unit :=
  if enabled then host.printLines (remarks.map Remark.line) else pure ()

/-- Gives the warnings that came with a value. -/
def absorb {α : Type} (host : Host m) (x : Logged α) : m α := do
  x.warnings.forM host.warn
  pure x.value

/-- The file at a path, for reading. -/
def source (host : Host m) (path : String) : m ResultFile.Source := do
  let opened ← host.openRead path
  pure ⟨path, opened⟩

/-- The host in a monad that can do more. -/
def lift {n : Type → Type} [MonadLift m n] (host : Host m) : Host n where
  openRead path := liftM (host.openRead path)
  write path text := liftM (host.write path text)
  now := liftM host.now
  print text := liftM (host.print text)
  warn message := liftM (host.warn message)

end Host

/-- The surroundings of a command. -/
structure World where
  files : FileSystem
  time : ResultFile.Timestamp
  /-- What was written to the output. -/
  output : String
  /-- The warnings that were given, in order. -/
  warnings : List String

/-- The host that acts on a world. -/
def Host.ofWorld : Host (StateM World) where
  openRead path := modifyGet fun w => (w.files.openRead path, w)
  write path text := modifyGet fun w =>
    match w.files.write path text with
    | .ok files => (.ok (), { w with files })
    | .error e => (.error e, w)
  now := modifyGet fun w => (w.time, w)
  print text := modify fun w => { w with output := w.output ++ text }
  warn message := modify fun w => { w with warnings := w.warnings ++ [message] }

end PerfGate.Command
