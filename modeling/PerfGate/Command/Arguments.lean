/-!
# Arguments

Reads the words of a command line by a `Signature`, which lists the options of a command and says
how many operands it takes. An option has a long name and perhaps a letter. A value follows its
option as the next word, or in the same word: after `=`, or right after the letter. Letters may
share a word. After the word `--` everything is an operand.

A word is settled only when the next one shows that it is complete, so the first word that makes no
sense decides what is reported, not the first value.
-/

namespace PerfGate.Command

/-- Why the words of a command line are not a command, or not one to run. -/
inductive UsageError where
  /-- A value is not of its option's kind. -/
  | valueValidation
  | unknownArgument
  | missingRequiredArgument
  /-- An option is given twice. -/
  | argumentConflict
  /-- An option has no value, or an operand is empty. -/
  | invalidValue
  /-- An option that takes no value has one. -/
  | tooManyValues
  | invalidSubcommand
  | missingSubcommand
  | helpRequested
  | versionRequested
  deriving DecidableEq, Repr

/-- The exit status: asking for help is no error. -/
def UsageError.exitStatus : UsageError → Nat
  | helpRequested | versionRequested => 0
  | _ => 2

/-- What an option needs. -/
inductive OptionKind where
  /-- No value. -/
  | flag
  /-- No value; everything else is forgotten. -/
  | help
  /-- A value of some kind. -/
  | value (accepts : String → Except UsageError Unit)

/-- An option of a command. -/
structure OptionSpec where
  name : String
  letter : Option Char
  kind : OptionKind
  /-- The command cannot do without it. -/
  required : Bool

/-- What a command can be given. -/
structure Signature where
  options : List OptionSpec
  /-- The least number of operands. -/
  least : Nat
  /-- The greatest number of operands, if there is one. -/
  most : Option Nat

/-- What a command was given. -/
structure Given where
  /-- Flags, and options with their values, the latest first. -/
  options : List (String × String)
  operands : List String

namespace Given

/-- Nothing was given. -/
def none : Given := ⟨[], []⟩

/-- The option was given. -/
def has (g : Given) (name : String) : Bool :=
  g.options.any (·.1 == name)

/-- The value of an option. -/
def value? (g : Given) (name : String) : Option String :=
  g.options.lookup name

/-- Takes an option, unless it was given before. -/
def takeOption (g : Given) (o : OptionSpec) (value : String) : Except UsageError Given :=
  if g.has o.name then .error .argumentConflict
  else
    match o.kind with
    | .value accepts => do
      accepts value
      pure { g with options := (o.name, value) :: g.options }
    | .flag => .ok { g with options := (o.name, value) :: g.options }
    | .help => .error .helpRequested

/-- Takes operands, none of which may be empty. -/
def takeOperands (g : Given) (operands : List String) : Except UsageError Given :=
  if operands.any String.isEmpty then .error .invalidValue
  else .ok { g with operands := g.operands ++ operands }

end Given

/-- What was read, but not yet taken. -/
inductive Pending where
  | nothing
  /-- An option that takes a value, and the value, once it was read. -/
  | option (o : OptionSpec) (value : Option String)
  | operands (operands : List String)

/-- The words read so far. -/
structure Progress where
  given : Given
  pending : Pending
  /-- Only operands can follow. -/
  literal : Bool

namespace Progress

/-- Takes what was read. -/
def settle (p : Progress) : Except UsageError Progress := do
  let given ←
    match p.pending with
    | .nothing => pure p.given
    | .option _ Option.none => throw .invalidValue
    | .option o (some value) => p.given.takeOption o value
    | .operands operands => p.given.takeOperands operands
  pure { p with given, pending := .nothing }

/-- Takes what was read, and then an option. -/
def settleWith (p : Progress) (o : OptionSpec) (value : String) : Except UsageError Progress := do
  let p ← p.settle
  pure { p with given := ← p.given.takeOption o value }

/-- Takes what was read, and waits for the value of an option. -/
def await (p : Progress) (o : OptionSpec) : Except UsageError Progress := do
  let p ← p.settle
  pure { p with pending := .option o Option.none }

/-- Reads an operand. -/
def operand (s : Signature) (p : Progress) (word : String) : Except UsageError Progress := do
  let waiting := match p.pending with
    | .operands operands => operands
    | _ => []
  let count := p.given.operands.length + waiting.length
  match s.most with
  | some most =>
    if most ≤ count then throw .unknownArgument
    let p ← p.settle
    pure { p with pending := .operands [word] }
  | Option.none =>
    let p ← if waiting.isEmpty then p.settle else pure p
    pure { p with pending := .operands (waiting ++ [word]) }

/-- Reads a long option, given without its dashes. -/
def longOption (s : Signature) (p : Progress) (word : List Char) : Except UsageError Progress :=
  let name := String.ofList (word.takeWhile (· != '='))
  let attached := match word.dropWhile (· != '=') with
    | [] => Option.none
    | _ :: value => some (String.ofList value)
  match s.options.find? (·.name == name) with
  | Option.none => .error .unknownArgument
  | some o =>
    match o.kind, attached with
    | .value _, some value => p.settleWith o value
    | .value _, Option.none => p.await o
    | _, some _ => .error .tooManyValues
    | _, Option.none => p.settleWith o ""

/-- Reads the letters of a word, given without its dash. -/
def letters (s : Signature) (p : Progress) : List Char → Except UsageError Progress
  | [] => .ok p
  | c :: cs =>
    match s.options.find? (·.letter == some c) with
    | Option.none => .error .unknownArgument
    | some o =>
      match o.kind with
      | .value _ =>
        match cs with
        | [] => p.await o
        | '=' :: value => p.settleWith o (String.ofList value)
        | value => p.settleWith o (String.ofList value)
      | _ => do letters s (← p.settleWith o "") cs

/-- Reads a word that is no option. -/
def plain (s : Signature) (p : Progress) (word : String) : Except UsageError Progress :=
  match p.pending with
  | .option o Option.none => .ok { p with pending := .option o (some word) }
  | _ => p.operand s word

/-- Reads a word. -/
def read (s : Signature) (p : Progress) (word : String) : Except UsageError Progress :=
  if p.literal then p.operand s word
  else
    match word.toList with
    | ['-', '-'] => .ok { p with literal := true }
    | '-' :: '-' :: long => p.longOption s long
    | '-' :: c :: cs => p.letters s (c :: cs)
    | _ => p.plain s word

end Progress

/-- The option that asks for help; every command has it. -/
def helpOption : OptionSpec := ⟨"help", some 'h', .help, false⟩

/-- Reads the words of a command. -/
def Signature.read (s : Signature) (words : List String) : Except UsageError Given := do
  let s := { s with options := s.options ++ [helpOption] }
  let p ← words.foldlM (Progress.read s) ⟨.none, .nothing, false⟩
  let p ← p.settle
  let missing := s.options.any fun o => o.required && !p.given.has o.name
  if missing || p.given.operands.length < s.least then throw .missingRequiredArgument
  pure p.given

end PerfGate.Command
