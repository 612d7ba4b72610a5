import PerfGate.Xml.Content
import PerfGate.Xml.Entity

/-!
# Errors of the codec

Why a value cannot be written, or a document cannot be read. A document can be wrong as markup, or
well formed but not what a call or a response looks like.
-/

namespace PerfGate.XmlRpc

/-- What stands where something else should. -/
inductive Found where
  | start (name : List Char)
  | empty (name : List Char)
  | close (name : List Char)
  | characters
  deriving DecidableEq, Repr

/-- The text shown to the user. -/
def Found.message : Found → String
  | start name => "<" ++ String.ofList name ++ ">"
  | empty name => "<" ++ String.ofList name ++ "/>"
  | close name => "</" ++ String.ofList name ++ ">"
  | characters => "character data"

/-- What is wrong at a position of a document. -/
inductive Problem where
  | notUtf8
  | markup (reason : Xml.SyntaxError)
  | entity (reason : Xml.EntityError)
  | unexpected (expected : String) (found : Found)
  deriving DecidableEq, Repr

/-- The text shown to the user. -/
def Problem.message : Problem → String
  | notUtf8 => "invalid UTF-8"
  | markup reason => reason.message
  | entity reason => reason.message
  | unexpected expected found => "expected " ++ expected ++ ", found " ++ found.message

/-- What a well-formed document lacks. -/
inductive Defect where
  | emptyMethodName
  /-- A fault has no code, or one that is no integer. -/
  | faultWithoutCode
  | unknownType (name : List Char)
  | memberWithoutName
  | memberWithoutValue (name : List Char)
  deriving DecidableEq, Repr

/-- The text shown to the user. -/
def Defect.message : Defect → String
  | emptyMethodName => "empty <methodName>"
  | faultWithoutCode => "fault without integer faultCode"
  | unknownType name => "unknown value type <" ++ String.ofList name ++ ">"
  | memberWithoutName => "struct member without <name>"
  | memberWithoutValue name => "struct member '" ++ String.ofList name ++ "' without <value>"

/-- How many arrays and structs may stand around a value. -/
def maxDepth : Nat := 64

/-- Why a document could not be written or read. -/
inductive CodecError where
  | parse (position : Nat) (problem : Problem)
  /-- A value lies inside too many arrays and structs. -/
  | tooDeep
  | malformed (defect : Defect)
  /-- The text is no value of the type with that name. -/
  | invalidValue (type : String) (text : List Char)
  deriving DecidableEq, Repr

/-- The text shown to the user. -/
def CodecError.message : CodecError → String
  | parse position problem => s!"XML parse error at position {position}: " ++ problem.message
  | tooDeep => s!"XML-RPC value nesting exceeds maximum depth of {maxDepth}"
  | malformed defect => "Invalid XML-RPC document: " ++ defect.message
  | invalidValue type text =>
    "Invalid <" ++ type ++ "> value: '" ++ String.ofList text ++ "'"

end PerfGate.XmlRpc
