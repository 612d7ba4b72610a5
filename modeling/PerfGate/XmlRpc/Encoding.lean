import PerfGate.Decimal.Layout
import PerfGate.Xml.Printer
import PerfGate.XmlRpc.CodecError
import PerfGate.XmlRpc.Value

/-!
# Documents of calls and responses

A value is written as the events of an element, a document as the text of its events. Values are
written as deep as there is room for.
-/

namespace PerfGate.XmlRpc

open Xml (Event element textElement document)

/-- The integer fits into the 32 bits that an element of type `int` can hold. -/
def fitsInt (i : Int64) : Bool :=
  Int32.minValue.toInt ≤ i.toInt && i.toInt ≤ Int32.maxValue.toInt

mutual

/-- The element of a value around which `room` more arrays and structs may still be opened. -/
def valueEvents (room : Nat) : Value → Except CodecError (List Event)
  | .int i =>
    .ok (element "value" (textElement (if fitsInt i then "int" else "i8") (toString i.toInt)))
  | .boolean b => .ok (element "value" (textElement "boolean" (if b then "1" else "0")))
  | .double x => .ok (element "value" (textElement "double" (Decimal.plain x)))
  | .text s => .ok (element "value" (textElement "string" s))
  | .base64 s => .ok (element "value" (textElement "base64" s))
  | .dateTime s => .ok (element "value" (textElement "dateTime.iso8601" s))
  | .nil => .ok (element "value" [.empty "nil".toList])
  | .array items => do
    let inner ← itemsEvents room items
    pure (element "value" (element "array" (element "data" inner)))
  | .struct members => do
    let inner ← membersEvents room members
    pure (element "value" (element "struct" inner))

/-- The elements of an array's items. -/
def itemsEvents (room : Nat) : List Value → Except CodecError (List Event)
  | [] => .ok []
  | item :: items => do
    if room = 0 then throw .tooDeep
    let first ← valueEvents (room - 1) item
    let rest ← itemsEvents room items
    pure (first ++ rest)

/-- The elements of a struct's members. -/
def membersEvents (room : Nat) : List (String × Value) → Except CodecError (List Event)
  | [] => .ok []
  | (name, value) :: members => do
    if room = 0 then throw .tooDeep
    let first ← valueEvents (room - 1) value
    let rest ← membersEvents room members
    pure (element "member" (textElement "name" name ++ first) ++ rest)

end

/-- The elements of a call's parameters. -/
def paramEvents (params : List Value) : Except CodecError (List Event) := do
  let values ← params.mapM (valueEvents maxDepth)
  pure (values.flatMap (element "param"))

/-- The document of a call. -/
def encodeCall (method : String) (params : List Value) : Except CodecError String := do
  let inner := element "params" (← paramEvents params)
  pure (String.ofList (document (element "methodCall" (textElement "methodName" method ++ inner))))

/-- The document of a response with a result. -/
def encodeResponse (value : Value) : Except CodecError String := do
  let inner := element "params" (← paramEvents [value])
  pure (String.ofList (document (element "methodResponse" inner)))

/-- The value that says what went wrong. -/
def faultValue (code : Int64) (message : String) : Value :=
  .ofMembers [("faultCode", .int code), ("faultString", .text message)]

/-- The document of a response that reports a fault. -/
def encodeFault (code : Int64) (message : String) : Except CodecError String := do
  let inner ← valueEvents maxDepth (faultValue code message)
  pure (String.ofList (document (element "methodResponse" (element "fault" inner))))

end PerfGate.XmlRpc
