import PerfGate.Decimal.Literal
import PerfGate.Text.Blank
import PerfGate.Xml.Reader
import PerfGate.XmlRpc.CodecError
import PerfGate.XmlRpc.Value

/-!
# Reading calls and responses

A document is read as a tree of content, and each function here says what one kind of element may
hold. Everything in a content is looked at in order up to the end tag, so of several errors the
first in the document is reported. Between elements, blanks and asides do not count; inside a scalar
every character does.
-/

namespace PerfGate.XmlRpc

open Xml (Content)

/-- The blanks that may stand between elements. -/
def isLayout (c : Char) : Bool :=
  c == ' ' || c == '\t' || c == '\n' || c == '\r' || c == '\x0c'

/-- The name is the given one. -/
def isNamed (name : List Char) (expected : String) : Bool :=
  name == expected.toList

/-- The error of a content that goes on otherwise than expected. -/
def unexpected (expected : String) : Content → CodecError
  | .stopped position reason => .parse position (.markup reason)
  | .closed name position => .parse position (.unexpected expected (.close name))
  | .element name position _ _ => .parse position (.unexpected expected (.start name))
  | .empty name position _ => .parse position (.unexpected expected (.empty name))
  | .text _ position _ | .cdata _ position _ | .aside _ position _ =>
    .parse position (.unexpected expected .characters)

/-- The error of a content that goes on otherwise than expected where only tags may stand. -/
def unexpectedTag (expected : String) (content : Content) : CodecError :=
  match content with
  | .text .. | .cdata .. => unexpected "an element" content
  | _ => unexpected expected content

/-- The content from its first tag on, if nothing but layout stands before it. -/
def nextTag : Content → Content
  | .aside _ _ rest => nextTag rest
  | .text raw position rest => if raw.all isLayout then nextTag rest else .text raw position rest
  | content => content

/-- Nothing but layout stands before the end tag of the element with the given name. -/
def expectClose (name : String) (content : Content) : Except CodecError Unit :=
  match nextTag content with
  | .closed .. => .ok ()
  | other => .error (unexpectedTag ("</" ++ name ++ ">") other)

/-- The characters of an element that holds text only, behind the runs read before, the latest
first. -/
def readText (name : List Char) (before : List (List Char)) :
    Content → Except CodecError (List Char)
  | .text raw position rest =>
    match Xml.unescape raw with
    | .ok cs => readText name (cs :: before) rest
    | .error e => .error (.parse position (.entity e))
  | .cdata cs _ rest => readText name (cs :: before) rest
  | .aside .comment _ rest => readText name before rest
  | .closed _ _ => .ok before.reverse.flatten
  | other => .error (unexpected ("text of <" ++ String.ofList name ++ ">") other)

/-- The types whose elements hold text only. -/
inductive Scalar where
  | int
  | boolean
  | double
  | text
  | base64
  | dateTime
  deriving DecidableEq, Repr

/-- The types that an element can have. -/
inductive ValueType where
  | scalar (s : Scalar)
  | nil
  | array
  | struct
  deriving DecidableEq, Repr

/-- The type that a name stands for. -/
def ValueType.ofName? (name : List Char) : Option ValueType :=
  match String.ofList name with
  | "int" | "i4" | "i8" => some (.scalar .int)
  | "boolean" => some (.scalar .boolean)
  | "double" => some (.scalar .double)
  | "string" => some (.scalar .text)
  | "base64" => some (.scalar .base64)
  | "dateTime.iso8601" => some (.scalar .dateTime)
  | "nil" => some .nil
  | "array" => some .array
  | "struct" => some .struct
  | _ => none

/-- The value that an empty element of a type stands for, if there is one. -/
def ValueType.emptyValue? : ValueType → Option Value
  | .nil => some .nil
  | .array => some (.array [])
  | .struct => some (.struct [])
  | .scalar .text => some (.text "")
  | .scalar .base64 => some (.base64 "")
  | .scalar _ => none

/-- The value of a scalar that is written as the characters. -/
def Scalar.ofChars (s : Scalar) (cs : List Char) : Except CodecError Value :=
  let trimmed := String.ofList (Text.trimChars cs)
  match s with
  | .int =>
    match Decimal.readInt64 trimmed with
    | some i => .ok (.int (.ofInt i))
    | none => .error (.invalidValue "int" cs)
  | .boolean =>
    match trimmed with
    | "1" | "true" => .ok (.boolean true)
    | "0" | "false" => .ok (.boolean false)
    | _ => .error (.invalidValue "boolean" cs)
  | .double =>
    match Decimal.readFloat trimmed with
    | some x => .ok (.double x)
    | none => .error (.invalidValue "double" cs)
  | .text => .ok (.text (String.ofList cs))
  | .base64 => .ok (.base64 trimmed)
  | .dateTime => .ok (.dateTime trimmed)

/-- A member of a struct, if it has both its parts. -/
def member (name : Option (List Char)) (value : Option Value) :
    Except CodecError (List Char × Value) :=
  match name, value with
  | some name, some value => .ok (name, value)
  | none, _ => .error (.malformed .memberWithoutName)
  | some name, none => .error (.malformed (.memberWithoutValue name))

mutual

/-- The value in a content, behind runs of characters read before, the latest first. Around it,
`room` more arrays and structs may be opened. Characters in front of an element that has a type do
not count; without such an element they are the value. -/
def valueOf (room : Nat) (before : List (List Char)) : Content → Except CodecError Value
  | .text raw position rest =>
    match Xml.unescape raw with
    | .ok cs => valueOf room (cs :: before) rest
    | .error e => .error (.parse position (.entity e))
  | .cdata cs _ rest => valueOf room (cs :: before) rest
  | .aside .comment _ rest => valueOf room before rest
  | .closed _ _ => .ok (.text (String.ofList before.reverse.flatten))
  | .element name _ inner rest => do
    let value ←
      match ValueType.ofName? name with
      | some (.scalar s) => readText name [] inner >>= s.ofChars
      | some .nil => do
        expectClose "nil" inner
        pure .nil
      | some .array => arrayOf room inner
      | some .struct => structOf room [] inner
      | none => .error (.malformed (.unknownType name))
    expectClose "value" rest
    pure value
  | .empty name position rest =>
    match (ValueType.ofName? name).bind (·.emptyValue?) with
    | some value => do
      expectClose "value" rest
      pure value
    | none => .error (unexpected "a value type" (.empty name position rest))
  | other => .error (unexpected "a value" other)

/-- The array in the content of its element. -/
def arrayOf (room : Nat) : Content → Except CodecError Value
  | .aside _ _ rest => arrayOf room rest
  | .text raw position rest =>
    if raw.all isLayout then arrayOf room rest
    else .error (unexpectedTag "<data>" (.text raw position rest))
  | .element name position inner rest =>
    if isNamed name "data" then do
      let items ← itemsOf room [] inner
      expectClose "array" rest
      pure (.array items)
    else .error (unexpectedTag "<data>" (.element name position inner rest))
  | .empty name position rest =>
    if isNamed name "data" then do
      expectClose "array" rest
      pure (.array [])
    else .error (unexpectedTag "<data>" (.empty name position rest))
  | other => .error (unexpectedTag "<data>" other)

/-- The items of an array, behind those read before, the latest first. -/
def itemsOf (room : Nat) (before : List Value) : Content → Except CodecError (List Value)
  | .aside _ _ rest => itemsOf room before rest
  | .text raw position rest =>
    if raw.all isLayout then itemsOf room before rest
    else .error (unexpectedTag "<value>" (.text raw position rest))
  | .element name position inner rest =>
    if isNamed name "value" then do
      if room = 0 then throw .tooDeep
      let value ← valueOf (room - 1) [] inner
      itemsOf room (value :: before) rest
    else .error (unexpectedTag "<value>" (.element name position inner rest))
  | .empty name position rest =>
    if isNamed name "value" then itemsOf room (.text "" :: before) rest
    else .error (unexpectedTag "<value>" (.empty name position rest))
  | .closed _ _ => .ok before.reverse
  | other => .error (unexpectedTag "<value>" other)

/-- The struct in the content of its element, with the members read before, the latest first. -/
def structOf (room : Nat) (before : List (String × Value)) : Content → Except CodecError Value
  | .aside _ _ rest => structOf room before rest
  | .text raw position rest =>
    if raw.all isLayout then structOf room before rest
    else .error (unexpectedTag "<member>" (.text raw position rest))
  | .element name position inner rest =>
    if isNamed name "member" then do
      let (name, value) ← memberOf room none none inner
      structOf room ((String.ofList name, value) :: before) rest
    else .error (unexpectedTag "<member>" (.element name position inner rest))
  | .closed _ _ => .ok (.ofMembers before.reverse)
  | other => .error (unexpectedTag "<member>" other)

/-- The member in the content of its element, given the parts of it that were read before. Of
several names or values the last counts. -/
def memberOf (room : Nat) (name? : Option (List Char)) (value? : Option Value) :
    Content → Except CodecError (List Char × Value)
  | .aside _ _ rest => memberOf room name? value? rest
  | .text raw position rest =>
    if raw.all isLayout then memberOf room name? value? rest
    else .error (unexpectedTag "<name> or <value>" (.text raw position rest))
  | .element name position inner rest =>
    if isNamed name "name" then do
      let cs ← readText name [] inner
      memberOf room (some cs) value? rest
    else if isNamed name "value" then do
      if room = 0 then throw .tooDeep
      let value ← valueOf (room - 1) [] inner
      memberOf room name? (some value) rest
    else .error (unexpectedTag "<name> or <value>" (.element name position inner rest))
  | .empty name position rest =>
    if isNamed name "name" then memberOf room (some []) value? rest
    else if isNamed name "value" then memberOf room name? (some (.text "")) rest
    else .error (unexpectedTag "<name> or <value>" (.empty name position rest))
  | .closed _ _ => member name? value?
  | other => .error (unexpectedTag "<name> or <value>" other)

end

/-- The one value in the content of the element with the given name. -/
def onlyValue (name : String) (content : Content) : Except CodecError Value :=
  match nextTag content with
  | .element tag position inner rest =>
    if isNamed tag "value" then do
      let value ← valueOf maxDepth [] inner
      expectClose name rest
      pure value
    else .error (unexpectedTag "<value>" (.element tag position inner rest))
  | .empty tag position rest =>
    if isNamed tag "value" then do
      expectClose name rest
      pure (.text "")
    else .error (unexpectedTag "<value>" (.empty tag position rest))
  | other => .error (unexpectedTag "<value>" other)

/-- A response to a call. -/
inductive Response where
  | success (value : Value)
  | fault (code : Int64) (message : String)

/-- The fault that a value describes. A message that is no text counts as empty. -/
def faultOf (value : Value) : Except CodecError Response :=
  match (value.member? "faultCode").bind Value.int? with
  | some code => .ok (.fault code (((value.member? "faultString").bind Value.text?).getD ""))
  | none => .error (.malformed .faultWithoutCode)

/-- The result in the content of the parameters of a response; without a parameter it is nil. -/
def resultOf (content : Content) : Except CodecError Value :=
  match nextTag content with
  | .closed .. => .ok .nil
  | .element tag position inner rest =>
    if isNamed tag "param" then do
      let value ← onlyValue "param" inner
      expectClose "params" rest
      pure value
    else .error (unexpectedTag "<param>" (.element tag position inner rest))
  | other => .error (unexpectedTag "<param>" other)

/-- The response in the content of its element. -/
def responseOf (content : Content) : Except CodecError Response := do
  let (response, rest) ←
    match nextTag content with
    | .element tag position inner rest =>
      if isNamed tag "params" then do
        let value ← resultOf inner
        pure (.success value, rest)
      else if isNamed tag "fault" then do
        let value ← onlyValue "fault" inner
        let response ← faultOf value
        pure (response, rest)
      else .error (unexpectedTag "<params> or <fault>" (.element tag position inner rest))
    | .empty tag position rest =>
      if isNamed tag "params" then pure (.success .nil, rest)
      else .error (unexpectedTag "<params> or <fault>" (.empty tag position rest))
    | other => .error (unexpectedTag "<params> or <fault>" other)
  expectClose "methodResponse" rest
  pure response

/-- The parameters in the content of their element, behind those read before, the latest first. -/
def paramsOf (before : List Value) : Content → Except CodecError (List Value)
  | .aside _ _ rest => paramsOf before rest
  | .text raw position rest =>
    if raw.all isLayout then paramsOf before rest
    else .error (unexpectedTag "<param>" (.text raw position rest))
  | .element tag position inner rest =>
    if isNamed tag "param" then do
      let value ← onlyValue "param" inner
      paramsOf (value :: before) rest
    else .error (unexpectedTag "<param>" (.element tag position inner rest))
  | .closed _ _ => .ok before.reverse
  | other => .error (unexpectedTag "<param>" other)

/-- The content of the element with the given name, with which a content must go on, and what
follows the element. -/
def expectElement (name : String) (content : Content) : Except CodecError (Content × Content) :=
  match nextTag content with
  | .element tag position inner rest =>
    if isNamed tag name then .ok (inner, rest)
    else .error (unexpectedTag ("<" ++ name ++ ">") (.element tag position inner rest))
  | other => .error (unexpectedTag ("<" ++ name ++ ">") other)

/-- A call: the name of a method and its arguments. -/
structure Call where
  method : String
  params : List Value

/-- The call in the content of its element. -/
def callOf (content : Content) : Except CodecError Call := do
  let (nameContent, rest) ← expectElement "methodName" content
  let method := String.ofList (Text.trimChars (← readText "methodName".toList [] nameContent))
  if method.isEmpty then throw (.malformed .emptyMethodName)
  match nextTag rest with
  | .closed .. => pure ⟨method, []⟩
  | .element tag position inner rest =>
    if isNamed tag "params" then do
      let params ← paramsOf [] inner
      expectClose "methodCall" rest
      pure ⟨method, params⟩
    else .error (unexpectedTag "<params>" (.element tag position inner rest))
  | .empty tag position rest =>
    if isNamed tag "params" then do
      expectClose "methodCall" rest
      pure ⟨method, []⟩
    else .error (unexpectedTag "<params>" (.empty tag position rest))
  | other => .error (unexpectedTag "<params>" other)

/-- The tree of a document that is given as bytes. -/
def contentOf (bytes : ByteArray) : Except CodecError Content :=
  match Text.ofUtf8 bytes with
  | .ok text => .ok (.ofChars text.toList)
  | .error length => .error (.parse length .notUtf8)

/-- The response in a document. What follows its root element is not looked at. -/
def decodeResponse (bytes : ByteArray) : Except CodecError Response := do
  let (inner, _) ← expectElement "methodResponse" (← contentOf bytes)
  responseOf inner

/-- The call in a document. What follows its root element is not looked at. -/
def decodeCall (bytes : ByteArray) : Except CodecError Call := do
  let (inner, _) ← expectElement "methodCall" (← contentOf bytes)
  callOf inner

end PerfGate.XmlRpc
