import Std.Async.DNS
import Std.Async.TCP
import Std.Async.Timer
import Std.Time
import PerfGate.Command.CommandLine

/-!
# The program

Performs the command that the command line asks for, on the files and the network of the machine.
Everything that is decided is decided by the library; here are only the files, the sockets, the
clock and the threads.
-/

open Std Async Net

namespace PerfGate.Program

open Load (CallError Procedure Phase Stage)
open XmlRpc (Endpoint Exchange Value)

/-- The number and the words of a failure of the system. -/
def systemFailure? : IO.Error → Option (Nat × String)
  | .alreadyExists _ code words | .otherError code words | .resourceBusy code words
  | .resourceVanished code words | .unsupportedOperation code words | .hardwareFault code words
  | .unsatisfiedConstraints code words | .illegalOperation code words | .protocolError code words
  | .timeExpired code words | .interrupted _ code words | .noFileOrDirectory _ code words
  | .invalidArgument _ code words | .permissionDenied _ code words
  | .resourceExhausted _ code words | .inappropriateType _ code words | .noSuchThing _ code words =>
    some (code.toInt32.toInt.natAbs, words)
  | .unexpectedEof | .userError _ => none

/-- The text of a failure of the system. -/
def systemText (e : IO.Error) : String :=
  match systemFailure? e with
  | some (code, words) => s!"{words.capitalize} (os error {code})"
  | none => toString e

/-- The library's reason for a failure of the system. -/
def pathError (e : IO.Error) : PathError :=
  match systemFailure? e with
  | some (2, _) => .notFound
  | some (20, _) => .notDirectory
  | some (21, _) => .isDirectory
  | some (36, _) => .nameTooLong
  | _ => .other (systemText e)

/-- Reads bytes up to the end, or until there are more lines than the cap allows. -/
partial def readLines (handle : IO.FS.Handle) (maxLines feeds : Nat) (before : ByteArray) :
    IO ByteArray := do
  if maxLines < feeds then return before
  let piece ← handle.read 65536
  if piece.isEmpty then return before
  readLines handle maxLines (feeds + piece.data.toList.count 0x0A) (before ++ piece)

/-- What an opened file holds, as far as the cap allows. A directory shows itself only when it is
read. -/
def contents (maxLines : Nat) (handle : IO.FS.Handle) :
    IO (Except PathError FileSystem.Opened) := do
  match ← (readLines handle maxLines 0 ByteArray.empty).toBaseIO with
  | .ok bytes => return .ok (.bytes bytes)
  | .error e =>
    match pathError e with
    | .isDirectory => return .ok .directory
    | reason => return .error reason

/-- Opens a file of the machine and reads as much of it as the cap allows. -/
def openRead (maxLines : Nat) (path : String) : IO (Except PathError FileSystem.Opened) := do
  match ← (IO.FS.Handle.mk path .read).toBaseIO with
  | .ok handle => contents maxLines handle
  | .error e => return .error (pathError e)

/-- Writes a file of the machine. -/
def writeFile (path text : String) : IO (Except PathError Unit) := do
  return (← (IO.FS.writeFile path text).toBaseIO).mapError pathError

/-- The local time. -/
def localTime : IO ResultFile.Timestamp := do
  let t ← Time.PlainDateTime.now
  return ⟨t.year, t.month.val.toNat, t.day.val.toNat, t.hour.val.toNat, t.minute.val.toNat,
    t.second.val.toNat⟩

/-- The machine as a host. -/
def host (maxLines : Nat) : Command.Host IO where
  openRead := openRead maxLines
  write := writeFile
  now := localTime
  print := IO.print
  warn message := IO.eprintln (" WARN " ++ message)

/-- The host of an address, as it is looked up. -/
def hostName : Http.Host → String
  | .ipv6 pieces => Http.Host.ipv6Text pieces
  | host => host.text

/-- The addresses of a port of a server. -/
def addresses (host : String) (port : Nat) : IO (Array SocketAddress) := do
  let found ← (DNS.getAddrInfo host (toString port)).block
  let port := UInt16.ofNat port
  return found.map fun address =>
    match address with
    | .v4 a => .v4 ⟨a, port⟩
    | .v6 a => .v6 ⟨a, port⟩

/-- What a step of an exchange gave, or nothing if the time is over. -/
def within {α : Type} [Inhabited α] (deadline : Nat) (step : Async α) : IO (Option α) := do
  let left := deadline - (← IO.monoMsNow)
  let timed : Async (Option α) := some <$> step
  let expired : Async (Option α) := do
    sleep (.ofNat (max left 1))
    return none
  (Async.race timed expired).block

/-- Opens a socket to the first address of a server that accepts one. -/
def openSocket (host : String) (port deadline : Nat) :
    IO (Except CallError TCP.Socket.Client) := do
  match ← (addresses host port).toBaseIO with
  | .error reason =>
    return .error (.transport s!"cannot resolve {host}:{port}: {systemText reason}")
  | .ok found =>
    let mut failure := CallError.transport s!"no addresses found for {host}:{port}"
    for address in found do
      try
        let socket ← TCP.Socket.Client.mk
        match ← within deadline (socket.connect address) with
        | some () => return .ok socket
        | none => failure := .timeout "connection timed out"
      catch reason => failure := .transport (systemText reason)
    return .error failure

/-- Receives bytes until an answer is complete. -/
partial def receive (socket : TCP.Socket.Client) (deadline : Nat) (before : ByteArray) :
    IO (Except Exchange Http.Progress) := do
  match Http.Answer.read before false with
  | .incomplete =>
    if XmlRpc.maxBody + 65536 < before.size then return .ok (.complete 200 before false)
    match ← within deadline (socket.recv? 65536) with
    | none => return .error (.late "timed out reading response")
    | some none => return .ok (Http.Answer.read before true)
    | some (some piece) => receive socket deadline (before ++ piece)
  | progress => return .ok progress

/-- Sends a request on a socket and receives the answer. Gives the socket back if it can be used
again. -/
def exchangeOn (socket : TCP.Socket.Client) (deadline : Nat) (request : Http.Request) :
    IO (Exchange × Option TCP.Socket.Client) := do
  try
    match ← within deadline (socket.send request.bytes) with
    | none => return (.late "timed out writing request", none)
    | some () =>
      match ← receive socket deadline ByteArray.empty with
      | .error failed => return (failed, none)
      | .ok progress =>
        let again := match progress with
          | .complete _ _ true => some socket
          | _ => none
        return (.ofProgress progress, again)
  catch reason => return (.broken (systemText reason), none)

/-- A connection: its socket, once there is one. -/
abbrev Link := IO.Ref (Option TCP.Socket.Client)

/-- The socket of a connection, unless the server has closed it. -/
def liveSocket (link : Link) : IO (Option TCP.Socket.Client) := do
  match ← link.get with
  | none => return none
  | some socket =>
    try
      let pending ← (socket.recvSelector 1).tryFn.block
      return if pending.isSome then none else some socket
    catch _ => return none

/-- Exchanges a request on a connection, opening a socket if it has none. -/
def exchange (e : Endpoint) (link : Link) (request : Http.Request) : IO Exchange := do
  let deadline := (← IO.monoMsNow) + e.timeoutMs
  let port := request.address.port.getD Http.Address.standardPort
  try
    let socket ← match ← liveSocket link with
      | some socket => pure (.ok socket)
      | none => openSocket (hostName request.address.host) port deadline
    match socket with
    | .error (.timeout reason) => return .late reason
    | .error (.transport reason) => return .unconnected reason
    | .error reason => return .unconnected reason.message
    | .ok socket =>
      let (answer, again) ← exchangeOn socket deadline request
      link.set again
      return answer
  catch reason => return .broken (systemText reason)

/-- What the workers of a run share. -/
structure Shared where
  endpoint : Endpoint
  links : IO.Ref (Array Link)
  errors : IO.Ref Nat
  samples : IO.Ref (List Nat)

/-- Makes a connection, which has no socket yet. -/
def Shared.connect (s : Shared) : IO Nat := do
  let link ← IO.mkRef none
  s.links.modifyGet fun links => (links.size, links.push link)

/-- Looks whether the server can be reached. -/
def Shared.probe (s : Shared) : IO (Except CallError Unit) := do
  try
    let deadline := (← IO.monoMsNow) + s.endpoint.timeoutMs
    return (← openSocket s.endpoint.host s.endpoint.port deadline).map fun _ => ()
  catch reason => return .error (.transport (systemText reason))

/-- Makes a call. -/
def Shared.call (s : Shared) (conn : Nat) (request : Load.Request Value) :
    IO (Except CallError Value) := do
  match (← s.links.get)[conn]? with
  | some link => XmlRpc.callThrough s.endpoint (exchange s.endpoint link) request
  | none => return .error (.transport "no such connection")

/-- Performs a procedure. -/
def perform {α : Type} (s : Shared) : Procedure Value Value α → IO α
  | .finish a => pure a
  | .connect next => do perform s (next (.ok (← s.connect)))
  | .probe next => do perform s (next (← s.probe))
  | .call conn request next => do perform s (next (← s.call conn request))
  | .readClock next => do perform s (next (← IO.monoNanosNow))
  | .countError next => do
    perform s (next (← s.errors.modifyGet fun n => (n + 1, n + 1)))
  | .warn message next => do
    IO.eprintln (" WARN " ++ message)
    perform s next
  | .deposit samples next => do
    s.samples.modify (samples ++ ·)
    perform s next

/-- Performs the procedures of workers, each in a thread of its own. -/
def performTogether (s : Shared) (workers : List (Procedure Value Value Unit)) : IO Phase := do
  s.errors.set 0
  s.samples.set []
  let start ← IO.monoNanosNow
  let tasks ← workers.mapM fun worker => IO.asTask (perform s worker) .dedicated
  for task in tasks do
    IO.ofExcept (← IO.wait task)
  let stop ← IO.monoNanosNow
  return ⟨← s.samples.get, ← s.errors.get, stop - start⟩

/-- The stage on which calls to a server are made. -/
def stageOf (links : IO.Ref (Array Link)) (errors : IO.Ref Nat) (samples : IO.Ref (List Nat))
    (e : Endpoint) : Stage IO Value Value :=
  let shared : Shared := ⟨e, links, errors, samples⟩
  { description := e.url
    run := perform shared
    together := performTogether shared }

/-- The lines that explain the program. -/
def usage : String :=
  "Usage: rpcgate <COMMAND>\n\n" ++
    "Commands:\n" ++
    "  compare BASELINE CURRENT [--threshold PCT] [--relaxed-threshold PCT]\n" ++
    "          [--relaxed-benchmarks NAMES] [--github-actions] [-f, --format FORMAT]\n" ++
    "  select-min FILE... -o, --output FILE [--title TITLE] [--github-actions]\n" ++
    "  rps [--host HOST] [--port PORT] [--path PATH] [--requests N] [--clients LIST]\n" ++
    "      [--warmup N] [--scenario NAME] [--large-requests N] [--timeout-secs N]\n" ++
    "      [--output FORMAT] [-q, --quiet]\n" ++
    "  help"

/-- What is wrong with a command line. -/
def usageReason : Command.UsageError → String
  | .valueValidation => "invalid value"
  | .unknownArgument => "unexpected argument"
  | .missingRequiredArgument => "a required argument was not provided"
  | .argumentConflict => "an argument cannot be used multiple times"
  | .invalidValue => "a value is required but none was supplied"
  | .tooManyValues => "an unexpected value was supplied"
  | .invalidSubcommand => "unrecognized subcommand"
  | .missingSubcommand | .helpRequested | .versionRequested => ""

/-- Answers a command line that asks for no command. -/
def explain (e : Command.UsageError) : IO UInt32 := do
  match e with
  | .helpRequested => IO.println usage
  | .versionRequested => IO.println Command.versionText
  | .missingSubcommand => IO.eprintln usage
  | e => IO.eprintln ("error: " ++ usageReason e ++ "\n\n" ++ usage)
  return UInt32.ofNat e.exitStatus

/-- Performs a command. -/
def execute (invocation : Command.Invocation) : IO UInt32 := do
  let maxLines := Command.maxLines (← IO.getEnv Command.maxLinesVariable)
  let stageFor := stageOf (← IO.mkRef #[]) (← IO.mkRef 0) (← IO.mkRef [])
  let ending ← invocation.execute (host maxLines) stageFor maxLines
  if let some line := Command.errorLine? ending then IO.eprintln line
  return UInt32.ofNat (Command.exitStatus ending)

end PerfGate.Program

/-- The program. -/
def main (args : List String) : IO UInt32 := do
  match PerfGate.Command.Invocation.parse args with
  | .error e => PerfGate.Program.explain e
  | .ok invocation => PerfGate.Program.execute invocation
