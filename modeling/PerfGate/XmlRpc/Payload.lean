import PerfGate.Load.Run
import PerfGate.XmlRpc.Value

/-!
# Workloads

The two workloads of a load run: both call the method that answers with its argument, one with a
small struct, the other with a long text.
-/

namespace PerfGate.XmlRpc

/-- The method that answers with its argument. -/
def echoMethod : String := "echo"

/-- A struct as a typical call carries it. -/
def smallPayload : Value :=
  .ofMembers
    [("Username", .text "user"),
     ("Password", .text "12345678"),
     ("Server", .text "SERVER"),
     ("Method", .text "Method_API"),
     ("Params", .array [.int 87654321])]

/-- The length of the large payload, in bytes. -/
def largePayloadSize : Nat := 1024 * 1024

/-- A long text. -/
def largePayload : Value :=
  .text (String.ofList (List.replicate largePayloadSize 'x'))

/-- The workload with the small payload. -/
def smallScenario (total : Nat) : Load.Scenario Value :=
  ⟨"small_payload", ⟨echoMethod, smallPayload⟩, total⟩

/-- The workload with the large payload. -/
def largeScenario (total : Nat) : Load.Scenario Value :=
  ⟨"large_payload", ⟨echoMethod, largePayload⟩, total⟩

end PerfGate.XmlRpc
