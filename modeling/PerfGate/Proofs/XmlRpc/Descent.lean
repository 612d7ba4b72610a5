import PerfGate.Proofs.Xml.Run
import PerfGate.XmlRpc.Decoding

/-!
# Reading piece by piece

Calls and responses read without the tree of the document: the functions here ask the reader for one
piece after the other, and go down into an element while its pieces come. They loop and call each
other as long as pieces come; how many will come does not show, so each of them is given `fuel`, and
a loop in which it runs out has no result. A descent keeps count of the pieces that it asks for, and
of the values that it is inside of at once.
-/

namespace PerfGate.XmlRpc

open Xml (Event Reader)

/-- What a descent has done. -/
structure Tally where
  /-- How often the reader was asked for a piece. -/
  reads : Nat := 0
  /-- How many values are being read, each inside the one before. -/
  active : Nat := 0
  /-- The most values that were being read at once. -/
  deepest : Nat := 0

/-- How far a descent has come. -/
structure Cursor extends Tally where
  reader : Reader
  /-- The position to report for what was read last. -/
  position : Nat := 0

/-- A computation that asks for pieces. It has no result if it goes on for too long. -/
abbrev Descent := ExceptT CodecError (StateT Cursor Option)

namespace Descent

variable {α : Type}

/-- The result of a descent from a place, and how far it has come then. -/
def run (d : Descent α) (s : Cursor) : Option (Except CodecError α × Cursor) :=
  StateT.run (ExceptT.run d) s

/-- Fails at the position of what was read last. -/
def fail (problem : Problem) : Descent α := do
  throw (.parse (← get).position problem)

/-- What an event is called where another one was expected. -/
def foundIn : Event → Found
  | .start name => .start name
  | .empty name => .empty name
  | .close name => .close name
  | .text _ | .cdata _ | .aside _ => .characters

/-- Fails as the event that was read last is not the expected one. -/
def refuse (expected : String) (e : Event) : Descent α :=
  fail (.unexpected expected (foundIn e))

/-- Takes what the reader has come upon. The end of the document is no event. -/
def take : Xml.Step → Descent Event
  | .event e position reader => do
    modify fun s => { s with reader, position, reads := s.reads + 1 }
    return e
  | .stop position reason => do
    modify fun s => { s with position, reads := s.reads + 1 }
    fail (.markup reason)

/-- The next event. -/
def event : Descent Event := do
  take (← get).reader.next

/-- Goes on for too long. -/
def exhausted : Descent α :=
  ExceptT.mk (StateT.lift none)

/-- Begins to read a value. -/
def enter : Descent Unit :=
  modify fun s => { s with active := s.active + 1, deepest := max s.deepest (s.active + 1) }

/-- Has read a value. -/
def leave : Descent Unit :=
  modify fun s => { s with active := s.active - 1 }

/-- The next tag. Nothing but layout may stand before it. -/
def tag : Nat → Descent Event
  | 0 => exhausted
  | fuel + 1 => do
    match ← event with
    | .aside _ => tag fuel
    | .text raw => if raw.all isLayout then tag fuel else refuse "an element" (.text raw)
    | .cdata cs => refuse "an element" (.cdata cs)
    | e => return e

/-- The start tag of the element with the given name comes next. -/
def expectOpen (fuel : Nat) (name : String) : Descent Unit := do
  match ← tag fuel with
  | .start found =>
    if isNamed found name then return ()
    else refuse ("<" ++ name ++ ">") (.start found)
  | e => refuse ("<" ++ name ++ ">") e

/-- The end tag of the element with the given name comes next. The reader has held it against the
name already. -/
def expectClose (fuel : Nat) (name : String) : Descent Unit := do
  match ← tag fuel with
  | .close _ => return ()
  | e => refuse ("</" ++ name ++ ">") e

/-- The characters that a run of text stands for. -/
def unescape (raw : List Char) : Descent (List Char) :=
  match Xml.unescape raw with
  | .ok cs => return cs
  | .error e => fail (.entity e)

/-- The characters up to the end tag of an element that holds text only, behind the runs read
before, the latest first. -/
def text (fuel : Nat) (name : List Char) (before : List (List Char)) : Descent (List Char) :=
  match fuel with
  | 0 => exhausted
  | fuel + 1 => do
    match ← event with
    | .text raw =>
      let cs ← unescape raw
      text fuel name (cs :: before)
    | .cdata cs => text fuel name (cs :: before)
    | .aside .comment => text fuel name before
    | .close _ => return before.reverse.flatten
    | e => refuse ("text of <" ++ String.ofList name ++ ">") e

mutual

/-- The value up to the end tag of its element, which stands inside of `depth` arrays and
structs. -/
def value (fuel depth : Nat) : Descent Value := do
  enter
  if maxDepth < depth then throw .tooDeep
  let v ← content fuel depth []
  leave
  return v
termination_by (fuel, 1)

/-- The value up to the end tag of its element, behind runs of characters read before, the latest
first. -/
def content (fuel depth : Nat) (before : List (List Char)) : Descent Value :=
  match fuel with
  | 0 => exhausted
  | fuel + 1 => do
    match ← event with
    | .text raw =>
      let cs ← unescape raw
      content fuel depth (cs :: before)
    | .cdata cs => content fuel depth (cs :: before)
    | .aside .comment => content fuel depth before
    | .start name =>
      let v ← typed fuel depth name
      expectClose fuel "value"
      return v
    | .empty name =>
      match (ValueType.ofName? name).bind (·.emptyValue?) with
      | some v =>
        expectClose fuel "value"
        return v
      | none => refuse "a value type" (.empty name)
    | .close _ => return .text (String.ofList before.reverse.flatten)
    | e => refuse "a value" e
termination_by (fuel, 0)

/-- The value up to the end tag of the element that names its type. -/
def typed (fuel depth : Nat) (name : List Char) : Descent Value := do
  match ValueType.ofName? name with
  | some (.scalar s) =>
    let cs ← text fuel name []
    s.ofChars cs
  | some .nil =>
    expectClose fuel "nil"
    return .nil
  | some .array => array fuel depth
  | some .struct => struct fuel depth []
  | none => throw (.malformed (.unknownType name))
termination_by (fuel, 2)

/-- The array up to the end tag of its element. -/
def array (fuel depth : Nat) : Descent Value := do
  match ← tag fuel with
  | .start name =>
    if isNamed name "data" then
      let vs ← items fuel depth []
      expectClose fuel "array"
      return .array vs
    else refuse "<data>" (.start name)
  | .empty name =>
    if isNamed name "data" then
      expectClose fuel "array"
      return .array []
    else refuse "<data>" (.empty name)
  | e => refuse "<data>" e
termination_by (fuel, 1)

/-- The items up to the end tag around them, behind those read before, the latest first. -/
def items (fuel depth : Nat) (before : List Value) : Descent (List Value) :=
  match fuel with
  | 0 => exhausted
  | fuel + 1 => do
    match ← tag (fuel + 1) with
    | .start name =>
      if isNamed name "value" then
        let v ← value fuel (depth + 1)
        items fuel depth (v :: before)
      else refuse "<value>" (.start name)
    | .empty name =>
      if isNamed name "value" then items fuel depth (.text "" :: before)
      else refuse "<value>" (.empty name)
    | .close _ => return before.reverse
    | e => refuse "<value>" e
termination_by (fuel, 0)

/-- The struct up to the end tag of its element, with the members read before, the latest first. -/
def struct (fuel depth : Nat) (before : List (String × Value)) : Descent Value :=
  match fuel with
  | 0 => exhausted
  | fuel + 1 => do
    match ← tag (fuel + 1) with
    | .start name =>
      if isNamed name "member" then
        let (name, v) ← member fuel depth none none
        struct fuel depth ((String.ofList name, v) :: before)
      else refuse "<member>" (.start name)
    | .close _ => return .ofMembers before.reverse
    | e => refuse "<member>" e
termination_by (fuel, 0)

/-- The member up to the end tag of its element, given the parts of it that were read before. -/
def member (fuel depth : Nat) (name? : Option (List Char)) (value? : Option Value) :
    Descent (List Char × Value) :=
  match fuel with
  | 0 => exhausted
  | fuel + 1 => do
    match ← tag (fuel + 1) with
    | .start name =>
      if isNamed name "name" then
        let cs ← text fuel name []
        member fuel depth (some cs) value?
      else if isNamed name "value" then
        let v ← value fuel (depth + 1)
        member fuel depth name? (some v)
      else refuse "<name> or <value>" (.start name)
    | .empty name =>
      if isNamed name "name" then member fuel depth (some []) value?
      else if isNamed name "value" then member fuel depth name? (some (.text ""))
      else refuse "<name> or <value>" (.empty name)
    | .close _ => XmlRpc.member name? value?
    | e => refuse "<name> or <value>" e
termination_by (fuel, 0)

end

/-- The one value up to the end tag of the element with the given name. -/
def onlyValue (fuel : Nat) (name : String) : Descent Value := do
  match ← tag fuel with
  | .start found =>
    if isNamed found "value" then
      let v ← value fuel 0
      expectClose fuel name
      return v
    else refuse "<value>" (.start found)
  | .empty found =>
    if isNamed found "value" then
      expectClose fuel name
      return .text ""
    else refuse "<value>" (.empty found)
  | e => refuse "<value>" e

/-- The result up to the end tag of the parameters of a response; without a parameter it is nil. -/
def result (fuel : Nat) : Descent Value := do
  match ← tag fuel with
  | .start name =>
    if isNamed name "param" then
      let v ← onlyValue fuel "param"
      expectClose fuel "params"
      return v
    else refuse "<param>" (.start name)
  | .close _ => return .nil
  | e => refuse "<param>" e

/-- The response up to the end tag of its element. -/
def response (fuel : Nat) : Descent Response := do
  let response ← do
    match ← tag fuel with
    | .start name =>
      if isNamed name "params" then
        let v ← result fuel
        pure (.success v)
      else if isNamed name "fault" then
        let v ← onlyValue fuel "fault"
        faultOf v
      else refuse "<params> or <fault>" (.start name)
    | .empty name =>
      if isNamed name "params" then pure (.success .nil)
      else refuse "<params> or <fault>" (.empty name)
    | e => refuse "<params> or <fault>" e
  expectClose fuel "methodResponse"
  return response

/-- The parameters up to the end tag around them, behind those read before, the latest first. -/
def params (fuel : Nat) (before : List Value) : Descent (List Value) :=
  match fuel with
  | 0 => exhausted
  | fuel + 1 => do
    match ← tag (fuel + 1) with
    | .start name =>
      if isNamed name "param" then
        let v ← onlyValue fuel "param"
        params fuel (v :: before)
      else refuse "<param>" (.start name)
    | .close _ => return before.reverse
    | e => refuse "<param>" e

/-- The call up to the end tag of its element. -/
def call (fuel : Nat) : Descent Call := do
  expectOpen fuel "methodName"
  let method := String.ofList (Text.trimChars (← text fuel "methodName".toList []))
  if method.isEmpty then throw (.malformed .emptyMethodName)
  match ← tag fuel with
  | .close _ => return ⟨method, []⟩
  | .start name =>
    if isNamed name "params" then
      let vs ← params fuel []
      expectClose fuel "methodCall"
      return ⟨method, vs⟩
    else refuse "<params>" (.start name)
  | .empty name =>
    if isNamed name "params" then
      expectClose fuel "methodCall"
      return ⟨method, []⟩
    else refuse "<params>" (.empty name)
  | e => refuse "<params>" e

/-- What a descent makes of the root element of a document, and what it has done then. Bytes that
are no text are refused before it begins. -/
def ofBytes (root : String) (d : Nat → Descent α) (fuel : Nat) (bytes : ByteArray) :
    Option (Except CodecError α × Tally) :=
  match Text.ofUtf8 bytes with
  | .ok text =>
    let ended := (expectOpen fuel root >>= fun _ => d fuel).run { reader := .start text.toList }
    ended.map fun (result, s) => (result, s.toTally)
  | .error length => some (.error (.parse length .notUtf8), {})

end Descent

end PerfGate.XmlRpc
