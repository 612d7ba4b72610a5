import PerfGate.Http.Address

/-!
# Requests

The text of a request that posts a document to a server.
-/

namespace PerfGate.Http

/-- A document on its way to a server. -/
structure Request where
  address : Address
  /-- The program that asks. -/
  agent : String
  /-- The type of the document. -/
  contentType : String
  document : String

namespace Request

/-- The lines in front of the document. -/
def head (r : Request) : List String :=
  ["POST " ++ r.address.target ++ " HTTP/1.1",
   "Host: " ++ r.address.authority,
   "User-Agent: " ++ r.agent,
   "Accept: */*",
   "Content-Type: " ++ r.contentType,
   "Content-Length: " ++ toString r.document.utf8ByteSize,
   ""]

/-- The bytes that are sent. -/
def bytes (r : Request) : ByteArray :=
  (String.join (r.head.map (· ++ "\r\n")) ++ r.document).toUTF8

end Request

end PerfGate.Http
