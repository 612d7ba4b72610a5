/-!
# Answers

Reads an answer from the bytes that have come in so far: a status line, header lines up to an empty
one, and a body whose end is found by chunks, by a length, or by the end of the connection.
`Answer.read` says whether more bytes are needed, or what the answer is.
-/

namespace PerfGate.Http

/-- How far an answer could be read. -/
inductive Progress where
  /-- More bytes are needed. -/
  | incomplete
  /-- The answer breaks off, or its body makes no sense. -/
  | broken
  | malformed (reason : String)
  /-- The answer, and whether the connection can be used again. -/
  | complete (status : Nat) (body : ByteArray) (reusable : Bool)

/-- How the end of a body is found. -/
inductive Framing where
  | chunked
  | length (n : Nat)
  | untilClose
  deriving DecidableEq, Repr

/-- The place of the first line feed from a place on. -/
def feedFrom (bytes : ByteArray) (i : Nat) : Option Nat :=
  if h : i < bytes.size then
    if bytes[i] = 0x0A then some i else feedFrom bytes (i + 1)
  else none
termination_by bytes.size - i

/-- The line at a place, without its end, and the place behind it. -/
def lineAt (bytes : ByteArray) (i : Nat) : Option (List Char × Nat) :=
  (feedFrom bytes i).map fun j =>
    let cs := (bytes.extract i j).data.toList.map fun b => Char.ofNat b.toNat
    (if cs.getLast? = some '\r' then cs.dropLast else cs, j + 1)

/-- The lines from a place up to an empty one, and the place behind that. -/
def linesAt (bytes : ByteArray) (i : Nat) : Option (List (List Char) × Nat) :=
  match lineAt bytes i with
  | none => none
  | some ([], j) => some ([], j)
  | some (line, j) =>
    if i < bytes.size ∧ i < j then
      (linesAt bytes j).map fun (lines, k) => (line :: lines, k)
    else none
termination_by bytes.size - i
decreasing_by omega

/-- A text without the spaces and tabs around it. -/
def trimmed (cs : List Char) : List Char :=
  let isSpace := fun c => c == ' ' || c == '\t'
  ((cs.dropWhile isSpace).reverse.dropWhile isSpace).reverse

/-- A text in lower case. -/
def lower (cs : List Char) : String :=
  String.ofList (cs.map Char.toLower)

/-- The number that digits in some base stand for. -/
def number? (base : Nat) (digits : List Char) : Option Nat :=
  let value? (c : Char) : Option Nat :=
    let n :=
      if c.isDigit then c.toNat - 48
      else if 'a' ≤ c.toLower ∧ c.toLower ≤ 'f' then c.toLower.toNat - 87
      else base
    if n < base then some n else none
  if digits.isEmpty then none
  else digits.foldlM (fun n c => (value? c).map (base * n + ·)) 0

/-- The lines in front of a body. -/
structure Head where
  status : Nat
  /-- The server speaks the newer version of the protocol. -/
  persistent : Bool
  /-- The fields, by name in lower case. -/
  fields : List (String × String)

namespace Head

/-- The version and the status in a status line. -/
def readStatus (line : List Char) : Option (Bool × Nat) :=
  match line.splitOn ' ' with
  | ['H', 'T', 'T', 'P', '/', major, '.', minor] :: status :: _ =>
    if major.isDigit && minor.isDigit && status.length == 3 then
      (number? 10 status).map fun n => (!(major == '1' && minor == '0'), n)
    else none
  | _ => none

/-- The field in a line; a line without a colon has none. -/
def readField (line : List Char) : Option (String × String) :=
  match line.dropWhile (· != ':') with
  | [] => none
  | _ :: value =>
    some (lower (trimmed (line.takeWhile (· != ':'))), String.ofList (trimmed value))

/-- The head that lines form. -/
def ofLines : List (List Char) → Option Head
  | [] => none
  | first :: rest =>
    (readStatus first).map fun (persistent, status) =>
      ⟨status, persistent, rest.filterMap readField⟩

/-- How the end of the body is found. Any transfer encoding counts as chunks, and counts before a
length. -/
def framing (h : Head) : Framing :=
  if (h.fields.lookup "transfer-encoding").isSome then .chunked
  else
    match (h.fields.lookup "content-length").bind fun value => number? 10 value.toList with
    | some n => .length n
    | none => .untilClose

/-- The connection stays open after the answer. -/
def keepsOpen (h : Head) : Bool :=
  h.persistent &&
    match h.fields.lookup "connection" with
    | some value => lower value.toList != "close"
    | none => true

end Head

/-- How far a body could be read. -/
inductive Body where
  | incomplete
  | malformed
  | complete (contents : ByteArray)

/-- The body in the chunks from a place on, behind what was read of it. -/
def chunksAt (bytes : ByteArray) (i : Nat) (before : ByteArray) : Body :=
  match lineAt bytes i with
  | none => .incomplete
  | some (line, start) =>
    match number? 16 (trimmed (line.takeWhile (· != ';'))) with
    | none => .malformed
    | some 0 => if (linesAt bytes start).isSome then .complete before else .incomplete
    | some n =>
      match lineAt bytes (start + n) with
      | none => .incomplete
      | some (_ :: _, _) => .malformed
      | some ([], next) =>
        if i < bytes.size ∧ i < next then
          chunksAt bytes next (before ++ bytes.extract start (start + n))
        else .malformed
termination_by bytes.size - i
decreasing_by omega

namespace Answer

/-- Reads a body that begins at a place. -/
def readBody (bytes : ByteArray) (ended : Bool) (h : Head) (start : Nat) : Progress :=
  let unfinished : Progress := if ended then .broken else .incomplete
  match h.framing with
  | .length n =>
    if start + n ≤ bytes.size then
      .complete h.status (bytes.extract start (start + n)) h.keepsOpen
    else unfinished
  | .untilClose =>
    if ended then .complete h.status (bytes.extract start bytes.size) false else .incomplete
  | .chunked =>
    match chunksAt bytes start ByteArray.empty with
    | .complete contents => .complete h.status contents h.keepsOpen
    | .incomplete => unfinished
    | .malformed => .broken

/-- Reads an answer from the bytes that have come in; `ended` says that no more will come. -/
def read (bytes : ByteArray) (ended : Bool) : Progress :=
  match lineAt bytes 0 with
  | none => if ended then .broken else .incomplete
  | some (first, _) =>
    if (Head.readStatus first).isNone then .malformed "Bad Status"
    else
      match linesAt bytes 0 with
      | none => if ended then .broken else .incomplete
      | some (lines, start) =>
        match Head.ofLines lines with
        | none => .malformed "Bad Status"
        | some head => readBody bytes ended head start

end Answer

end PerfGate.Http
