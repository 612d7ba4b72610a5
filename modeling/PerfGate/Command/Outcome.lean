import PerfGate.Command.Host
import PerfGate.Decimal.Literal
import PerfGate.Failure
import PerfGate.Text.Blank

/-!
# How a command ends

A command ends well, or finds a regression, or fails; each has an exit status of its own.
-/

namespace PerfGate.Command

/-- The end of a command that did its work. -/
inductive Outcome where
  | passed
  /-- A benchmark regressed. -/
  | regressed
  deriving DecidableEq, Repr

/-- Why a command did not do its work. -/
inductive CommandError where
  | failed (reason : Failure)
  | invalidInput (reason : String)
  /-- The first call to a server failed. -/
  | serverUnavailable (url : String) (port : Nat) (reason : String)
  deriving DecidableEq, Repr

/-- The text shown to the user. -/
def CommandError.message : CommandError → String
  | failed reason => reason.message
  | invalidInput reason => "Invalid input: " ++ reason
  | serverUnavailable url port reason =>
    s!"Cannot connect to server at {url}: {reason}\n" ++
      s!"Make sure the benchmark server is running and listening on port {port}"

/-- What a command ends with. -/
abbrev Ending := Except CommandError Outcome

/-- The exit status of a command. -/
def exitStatus : Ending → Nat
  | .ok .passed => 0
  | .ok .regressed => 1
  | .error _ => 2

/-- The line for the error output, if the command failed. -/
def errorLine? : Ending → Option String
  | .ok _ => none
  | .error e => some ("Error: " ++ e.message)

/-- Repeats a failure as a remark, if remarks are asked for. -/
def remarkFailure {m : Type → Type} [Monad m] (host : Host m) (enabled : Bool) (ending : Ending) :
    m Ending := do
  match ending with
  | .ok _ => pure ()
  | .error e => host.remark enabled [.ofFailure e.message]
  pure ending

/-- The word in lower case, as far as it is ASCII. -/
def lowerCase (word : String) : String :=
  String.ofList (word.toList.map Char.toLower)

/-- The name of the environment variable that holds the line cap. -/
def maxLinesVariable : String := "RPCGATE_MAX_LINES"

/-- The line cap that a setting asks for; the default one if it asks for none. -/
def maxLines (setting : Option String) : Nat :=
  match setting.bind fun raw => Decimal.readNat UInt64.size (Text.trim raw) with
  | some n => if n = 0 then ResultFile.defaultMaxLines else n
  | none => ResultFile.defaultMaxLines

end PerfGate.Command
