/-!
# Failures

The reasons for which a comparison, a reduction or a load run stops. Lines that cannot be read and
calls that fail are not among them: they are counted and reported by what meets them.
-/

namespace PerfGate

/-- Why a run stopped. -/
inductive Failure where
  | invalidConfig (parameter reason : String)
  | unreadable (path reason : String)
  | unwritable (path reason : String)
  | emptyResults (path : String)
  | noValidInput
  | unreachable (reason : String)
  deriving DecidableEq, Repr

namespace Failure

/-- The text shown to the user. -/
def message : Failure → String
  | invalidConfig parameter reason => s!"Invalid configuration parameter '{parameter}': {reason}"
  | unreadable path reason => s!"Failed to read '{path}': {reason}"
  | unwritable path reason => s!"Failed to write '{path}': {reason}"
  | emptyResults path => s!"'{path}' is empty or contains no valid data"
  | noValidInput => "No valid benchmark data found in any input file"
  | unreachable reason => s!"Cannot connect to server: {reason}"

/-- The caller's configuration is at fault. -/
def isConfig : Failure → Bool
  | invalidConfig .. => true
  | _ => false

end Failure

end PerfGate
