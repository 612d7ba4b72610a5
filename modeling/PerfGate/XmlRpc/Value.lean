import Std.Data.ExtTreeMap

/-!
# Values of remote calls

The arguments and results of remote calls. A struct lists its members in the order of their names,
each name once: `Value.ofMembers` builds it from members in any order. `Value.depth` is the number
of arrays and structs around the innermost value.
-/

namespace PerfGate.XmlRpc

open Std

/-- A value that can be sent. -/
inductive Value where
  | int (i : Int64)
  | boolean (b : Bool)
  | double (x : Float)
  | text (s : String)
  /-- Binary data, in the form in which it is sent. -/
  | base64 (s : String)
  /-- A point in time, in the form in which it is sent. -/
  | dateTime (s : String)
  | nil
  | array (items : List Value)
  | struct (members : List (String × Value))
  deriving Inhabited

namespace Value

/-- The name of the value's type in a document. -/
def typeName : Value → String
  | int _ => "int"
  | boolean _ => "boolean"
  | double _ => "double"
  | text _ => "string"
  | base64 _ => "base64"
  | dateTime _ => "dateTime.iso8601"
  | nil => "nil"
  | array _ => "array"
  | struct _ => "struct"

/-- The text, if the value is one. -/
def text? : Value → Option String
  | text s => some s
  | _ => none

/-- The integer, if the value is one. -/
def int? : Value → Option Int64
  | int i => some i
  | _ => none

/-- The struct with the given members, the last of those with one name. -/
def ofMembers (members : List (String × Value)) : Value :=
  struct (ExtTreeMap.ofList members).toList

/-- The member of a struct with a name. -/
def member? (name : String) : Value → Option Value
  | struct members => members.lookup name
  | _ => none

mutual

/-- The number of arrays and structs around the innermost value. -/
def depth : Value → Nat
  | array items => itemsDepth items
  | struct members => membersDepth members
  | _ => 0

/-- The depth of an array with these items: none if it is empty. -/
def itemsDepth : List Value → Nat
  | [] => 0
  | item :: items => max (depth item + 1) (itemsDepth items)

/-- The depth of a struct with these members. -/
def membersDepth : List (String × Value) → Nat
  | [] => 0
  | (_, value) :: members => max (depth value + 1) (membersDepth members)

end

mutual

/-- The values are equal, numbers being compared as numbers: a value that holds something that is
not a number differs from every value. -/
def same : Value → Value → Bool
  | int i, int j => i == j
  | boolean a, boolean b => a == b
  | double x, double y => x == y
  | text s, text t => s == t
  | base64 s, base64 t => s == t
  | dateTime s, dateTime t => s == t
  | nil, nil => true
  | array xs, array ys => sameItems xs ys
  | struct xs, struct ys => sameMembers xs ys
  | _, _ => false

/-- The lists have the same items. -/
def sameItems : List Value → List Value → Bool
  | [], [] => true
  | x :: xs, y :: ys => same x y && sameItems xs ys
  | _, _ => false

/-- The lists have the same members. -/
def sameMembers : List (String × Value) → List (String × Value) → Bool
  | [], [] => true
  | (m, x) :: xs, (n, y) :: ys => m == n && same x y && sameMembers xs ys
  | _, _ => false

end

end Value

end PerfGate.XmlRpc
