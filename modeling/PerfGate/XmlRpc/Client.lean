import PerfGate.Http.Answer
import PerfGate.Http.Request
import PerfGate.Load.Target
import PerfGate.Text.Quoted
import PerfGate.XmlRpc.Decoding
import PerfGate.XmlRpc.Encoding

/-!
# Calls over HTTP

A call is one exchange: the document of the call goes out, and an answer comes back or does not.
`outcomeOf` says what the call amounts to; an answer that came back whole is never an error of the
connection. `Network.target` makes a call target of a network, which says for every exchange what
becomes of it.
-/

namespace PerfGate.XmlRpc

open Load (CallError Target)

/-- Where a server is, and how long it may take for an answer. -/
structure Endpoint where
  host : String
  port : Nat
  path : String
  timeoutMs : Nat
  deriving DecidableEq, Repr

namespace Endpoint

/-- The path that is asked for when none is given. -/
def standardPath : String := "/RPC"

/-- The time that is allowed when none is given. -/
def standardTimeoutMs : Nat := 30000

/-- The server when nothing is asked for. -/
def standard : Endpoint := ⟨"localhost", 8080, standardPath, standardTimeoutMs⟩

/-- Host and port. -/
def authority (e : Endpoint) : String :=
  e.host ++ ":" ++ toString e.port

/-- The address that documents are sent to. -/
def url (e : Endpoint) : String :=
  "http://" ++ e.authority ++ e.path

/-- The name under which documents are sent. -/
def agent : String := "rpcgate/1.0.0"

/-- The address that documents are sent to, in its parts. Host and path may say more than their
names tell: a host with a slash begins the path, and a path without one goes on with the port. -/
def address (e : Endpoint) : Except Http.AddressError Http.Address :=
  Http.Address.parse (e.authority ++ e.path)

/-- The request that posts a document to an address. -/
def request (address : Http.Address) (document : String) : Http.Request :=
  { address, agent, contentType := "text/xml", document }

/-- How many seconds the clock shows at least when a call is made. -/
def clockStart : Int := 0x1000

/-- The clock does not reach the end of the time that is allowed: it shows less than `2 ^ 63`
seconds. -/
def isBoundless (e : Endpoint) : Bool :=
  Int64.maxValue.toInt < clockStart + e.timeoutMs / 1000

/-- A connection to the server, as a programmer wants to see it. -/
def connectionText (e : Endpoint) : String :=
  "XmlRpcConnection \x7b url: " ++ Text.quoted e.url ++ ", .. \x7d"

end Endpoint

/-- What became of an exchange. -/
inductive Exchange where
  /-- An answer came back whole. -/
  | answered (status : Nat) (body : ByteArray)
  /-- No connection could be opened. -/
  | unconnected (reason : String)
  /-- The connection broke before the answer was whole. -/
  | broken (reason : String)
  /-- The answer was not whole in time. -/
  | late (reason : String)
  /-- What came back is no answer. -/
  | garbled (reason : String)

/-- What became of an exchange, by what came in up to its end. -/
def Exchange.ofProgress : Http.Progress → Exchange
  | .complete status body _ => .answered status body
  | .malformed reason => .garbled reason
  | .incomplete | .broken => .broken "response ended early"

/-- The most bytes that the body of an answer may have. -/
def maxBody : Nat := 64 * 1024 * 1024

/-- The result that an answer holds. -/
def answerResult (status : Nat) (body : ByteArray) : Except CallError Value :=
  if status ≠ 200 then .error (.protocol s!"HTTP status {status}")
  else if maxBody < body.size then
    .error (.protocol s!"response body exceeds limit of {maxBody} bytes")
  else
    match decodeResponse body with
    | .ok (.success value) => .ok value
    | .ok (.fault code message) => .error (.fault code message)
    | .error e => .error (.protocol e.message)

/-- What a call amounts to, by what became of its exchange with the server at an address. -/
def outcomeOf (url : String) : Exchange → Except CallError Value
  | .answered status body => answerResult status body
  | .unconnected reason =>
    .error (.transport (url ++ ": Connection Failed: Connect error: " ++ reason))
  | .broken reason => .error (.transport (url ++ ": Network Error: " ++ reason))
  | .late reason => .error (.timeout (url ++ ": Network Error: " ++ reason))
  | .garbled reason => .error (.protocol (url ++ ": " ++ reason))

/-- The request of a call, or what is wrong with the call before anything is exchanged: it has no
document, the time that is allowed has no end, or the server has no address. -/
def requestOf (e : Endpoint) (call : Load.Request Value) : Except CallError Http.Request :=
  match encodeCall call.method [call.payload] with
  | .error reason => .error (.protocol reason.message)
  | .ok document =>
    if e.isBoundless then .error (.transport "Network Error: Request deadline overflowed")
    else
      match e.address with
      | .error reason => .error (.protocol ("Bad URL: failed to parse URL: " ++ reason.message))
      | .ok address => .ok (Endpoint.request address document)

/-- A call: its request is exchanged, if there is one and any time is allowed for it. -/
def callThrough {m : Type → Type} [Monad m] (e : Endpoint) (exchange : Http.Request → m Exchange)
    (call : Load.Request Value) : m (Except CallError Value) :=
  match requestOf e call with
  | .error reason => pure (.error reason)
  | .ok request =>
    if e.timeoutMs = 0 then pure (outcomeOf request.address.text (.late "timed out connecting"))
    else do
      let answer ← exchange request
      pure (outcomeOf request.address.text answer)

/-- A network with a state of type `σ`. -/
structure Network (σ : Type) where
  /-- Opens a connection to the server and closes it again; or an error. -/
  dial : Endpoint → StateM σ (Except CallError Unit)
  /-- Exchanges a request on the connection with the given number. -/
  exchange : Endpoint → Nat → Http.Request → StateM σ Exchange

namespace Network

/-- A network in which no server can be reached. -/
def unreachable (reason : String) : Network Unit where
  dial _ := pure (.error (.transport reason))
  exchange _ _ _ := pure (.unconnected reason)

/-- The server as a call target. Connections are opened by their first call. -/
def target {σ : Type} (network : Network σ) (e : Endpoint) : Target σ Value Value where
  description := e.url
  connect s := (.ok (), s)
  call conn request s := (callThrough e (network.exchange e conn) request).run s
  probe := some (network.dial e).run

end Network

end PerfGate.XmlRpc
