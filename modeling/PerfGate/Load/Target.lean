/-!
# Call targets

What a load run talks to. A `Target` is a state machine: it can be asked for a connection and to
answer a call on one of the connections that it opened, and each answer may depend on everything
that happened before. Connections are known by their number, in the order of opening.
-/

namespace PerfGate.Load

/-- Why a single call failed. -/
inductive CallError where
  /-- The connection failed, was refused or was closed. -/
  | transport (reason : String)
  /-- The call took longer than allowed. -/
  | timeout (reason : String)
  /-- The server answered with a fault of the application. -/
  | fault (code : Int64) (message : String)
  /-- The server answered with something that is no response. -/
  | protocol (reason : String)
  deriving DecidableEq, Repr

namespace CallError

/-- The text shown to the user. -/
def message : CallError → String
  | transport reason => s!"transport error: {reason}"
  | timeout reason => s!"call timed out: {reason}"
  | fault code text => s!"fault {code.toInt}: {text}"
  | protocol reason => s!"protocol error: {reason}"

/-- The call might succeed on another connection. -/
def isTransport : CallError → Bool
  | transport _ | timeout _ => true
  | _ => false

end CallError

/-- A method with its argument. -/
structure Request (π : Type) where
  method : String
  payload : π

/-- Something that opens connections and answers calls on them, with a state of type `σ`, arguments
of type `π` and responses of type `ρ`. -/
structure Target (σ π ρ : Type) where
  /-- Where the target is, for messages. -/
  description : String
  /-- Opens a connection. -/
  connect : σ → Except CallError Unit × σ
  /-- Answers a call on the connection with the given number. -/
  call : Nat → Request π → σ → Except CallError ρ × σ
  /-- Looks whether the target can be reached, for a target whose connections open only with their
  first call. Any other target is looked for by opening a connection. -/
  probe : Option (σ → Except CallError Unit × σ)

/-- The description of a target that has none of its own. -/
def Target.unnamed : String := "call target"

end PerfGate.Load
