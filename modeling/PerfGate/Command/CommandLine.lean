import PerfGate.Command.Arguments
import PerfGate.Command.Compare
import PerfGate.Command.Rps
import PerfGate.Command.SelectMin

/-!
# The command line

The commands with their options and defaults. `Invocation.parse` reads the words of a command line,
`Invocation.execute` performs the command that they ask for. The names of formats are looked at only
when a command is performed, so a wrong one is an error of the command and not of its usage.
-/

namespace PerfGate.Command

open Load (Stage)
open XmlRpc (Endpoint Value)

/-- A natural number below a bound; a sign is allowed in front. -/
def readBounded (bound : Nat) (text : String) : Option Nat :=
  match Decimal.readInt64 text with
  | some i => if 0 ≤ i ∧ i < bound then some i.toNat else none
  | none => none

/-- A natural number of 64 bits. -/
def readCount (text : String) : Option Nat :=
  Decimal.readNat UInt64.size text

/-- The port numbers end below this one. -/
def portBound : Nat := UInt16.size

namespace OptionKind

/-- A value that some reader understands. -/
def readBy {α : Type} (read : String → Option α) : OptionKind :=
  .value fun text => if (read text).isSome then .ok () else .error .valueValidation

/-- Any text. -/
def text : OptionKind :=
  .value fun _ => .ok ()

/-- A path, which cannot be empty. -/
def path : OptionKind :=
  .value fun text => if text.isEmpty then .error .invalidValue else .ok ()

end OptionKind

namespace Given

/-- The value of an option as a reader understands it, or a default one. -/
def readD {α : Type} (g : Given) (name : String) (read : String → Option α) (standard : α) : α :=
  ((g.value? name).bind read).getD standard

/-- The operand at a place. -/
def operandD (g : Given) (i : Nat) : String :=
  (g.operands[i]?).getD ""

end Given

/-- A command with its options. The names of formats are not read yet. -/
inductive Invocation where
  | compare (options : ReportFormat → CompareOptions) (format : String)
  | selectMin (options : SelectMinOptions)
  | rps (options : ScenarioChoice → ExportFormat → RpsOptions) (scenario format : String)
      (quiet : Bool)

/-- The arguments of `compare`. -/
def compareSignature : Signature :=
  { options :=
      [⟨"threshold", none, .readBy Decimal.readFloat, false⟩,
       ⟨"relaxed-threshold", none, .readBy Decimal.readFloat, false⟩,
       ⟨"relaxed-benchmarks", none, .text, false⟩,
       ⟨"github-actions", none, .flag, false⟩,
       ⟨"format", some 'f', .text, false⟩]
    least := 2
    most := some 2 }

/-- The command `compare` with the arguments given. -/
def compareInvocation (g : Given) : Invocation :=
  .compare
    (fun format =>
      { baseline := g.operandD 0
        current := g.operandD 1
        threshold := g.readD "threshold" Decimal.readFloat Policy.standardPct
        relaxedThreshold := (g.value? "relaxed-threshold").bind Decimal.readFloat
        relaxedNames := g.value? "relaxed-benchmarks"
        remarks := g.has "github-actions"
        format })
    ((g.value? "format").getD "console")

/-- The arguments of `select-min`. -/
def selectMinSignature : Signature :=
  { options :=
      [⟨"output", some 'o', .path, true⟩,
       ⟨"title", none, .text, false⟩,
       ⟨"github-actions", none, .flag, false⟩]
    least := 1
    most := none }

/-- The title of a reduction when none is given. -/
def standardTitle : String := "rpcgate"

/-- The command `select-min` with the arguments given. -/
def selectMinInvocation (g : Given) : Invocation :=
  .selectMin
    { files := g.operands
      output := (g.value? "output").getD ""
      title := (g.value? "title").getD standardTitle
      remarks := g.has "github-actions" }

/-- The arguments of `rps`. -/
def rpsSignature : Signature :=
  { options :=
      [⟨"host", none, .text, false⟩,
       ⟨"port", none, .readBy (readBounded portBound), false⟩,
       ⟨"path", none, .text, false⟩,
       ⟨"requests", none, .readBy readCount, false⟩,
       ⟨"clients", none, .text, false⟩,
       ⟨"warmup", none, .readBy readCount, false⟩,
       ⟨"scenario", none, .text, false⟩,
       ⟨"large-requests", none, .readBy readCount, false⟩,
       ⟨"timeout-secs", none, .readBy readCount, false⟩,
       ⟨"output", none, .text, false⟩,
       ⟨"quiet", some 'q', .flag, false⟩]
    least := 0
    most := some 0 }

/-- The command `rps` with the arguments given. -/
def rpsInvocation (g : Given) : Invocation :=
  let standard := Endpoint.standard
  .rps
    (fun scenario output =>
      { host := (g.value? "host").getD standard.host
        port := g.readD "port" (readBounded portBound) standard.port
        path := (g.value? "path").getD standard.path
        requests := g.readD "requests" readCount Load.Config.standard.requests
        clients := (g.value? "clients").getD Load.standardLevels
        warmup := g.readD "warmup" readCount Load.Config.standard.warmup
        scenario
        largeRequests := (g.value? "large-requests").bind readCount
        timeoutSecs := g.readD "timeout-secs" readCount (standard.timeoutMs / 1000)
        output
        quiet := g.has "quiet" })
    ((g.value? "scenario").getD "both")
    ((g.value? "output").getD "table")
    (g.has "quiet")

/-- The names of the commands, with how their arguments are read. -/
def commands : List (String × Signature × (Given → Invocation)) :=
  [("compare", compareSignature, compareInvocation),
   ("select-min", selectMinSignature, selectMinInvocation),
   ("rps", rpsSignature, rpsInvocation)]

/-- What is shown when the version is asked for. -/
def versionText : String := "rpcgate 1.0.0"

/-- The name of the command that explains the others. -/
def helpCommand : String := "help"

/-- The word names a command. -/
def isCommand (word : String) : Bool :=
  word == helpCommand || commands.any (·.1 == word)

/-- What the words after the command `help` ask for. -/
def readHelp : List String → UsageError
  | [] => .helpRequested
  | [topic] => if isCommand topic then .helpRequested else .invalidSubcommand
  | _ => .invalidSubcommand

/-- What an option in front of any command asks for, given without its dashes. -/
def readGlobalOption (word : List Char) : UsageError :=
  let name := String.ofList (word.takeWhile (· != '='))
  let attached := word.contains '='
  if name == "help" then if attached then .tooManyValues else .helpRequested
  else if name == "version" then if attached then .tooManyValues else .versionRequested
  else .unknownArgument

/-- What a letter in front of any command asks for. -/
def readGlobalLetter (letter : Char) : UsageError :=
  if letter = 'h' then .helpRequested
  else if letter = 'V' then .versionRequested
  else .unknownArgument

namespace Invocation

/-- The command that the words ask for. -/
def parse : List String → Except UsageError Invocation
  | [] => .error .missingSubcommand
  | word :: words =>
    match word.toList with
    | ['-', '-'] =>
      match words with
      | [] => .error .missingSubcommand
      | next :: _ => .error (if isCommand next then .unknownArgument else .invalidSubcommand)
    | '-' :: '-' :: long => .error (readGlobalOption long)
    | '-' :: letter :: _ => .error (readGlobalLetter letter)
    | _ =>
      if word == helpCommand then .error (readHelp words)
      else
        match commands.lookup word with
        | some (signature, invocation) => (signature.read words).map invocation
        | none => .error .invalidSubcommand

/-- Only warnings are to be given while the command runs. -/
def isQuiet : Invocation → Bool
  | rps _ _ _ quiet => quiet
  | _ => false

variable {m : Type → Type} [Monad m]

/-- Performs the command. -/
def execute (host : Host m) (stageFor : Endpoint → Stage m Value Value) (maxLines : Nat) :
    Invocation → m Ending
  | compare options format =>
    match ReportFormat.parse format with
    | .error e => pure (.error e)
    | .ok format => Command.compare host maxLines (options format)
  | selectMin options => Command.selectMin host maxLines options
  | rps options scenario format _ =>
    match ScenarioChoice.parse scenario, ExportFormat.parse format with
    | .error e, _ => pure (.error e)
    | .ok _, .error e => pure (.error (.failed e))
    | .ok scenario, .ok output => Command.rps host stageFor (options scenario output)

end Invocation

end PerfGate.Command
