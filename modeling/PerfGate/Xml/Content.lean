import PerfGate.Text.Utf8

/-!
# Documents as trees

An `Event` is one piece of markup or a run of text. `Content` is what stands between two tags, as a
tree: elements hold their own content. A document that breaks off or is not well formed is a tree
too; the place where reading stopped is a leaf of it, so that everything before that place can still
be looked at in order. Every piece carries the position that is reported when something is wrong
with it.
-/

namespace PerfGate.Xml

/-- Markup that is neither a tag nor text. -/
inductive Aside where
  | comment
  /-- A declaration or processing instruction. -/
  | instruction
  | doctype
  deriving DecidableEq, Repr

/-- One piece of a document. -/
inductive Event where
  | start (name : List Char)
  /-- A self-closing tag. -/
  | empty (name : List Char)
  | close (name : List Char)
  /-- A run of text, with its entities. -/
  | text (raw : List Char)
  /-- A section of literal text. -/
  | cdata (content : List Char)
  | aside (kind : Aside)
  deriving DecidableEq, Repr

/-- Why reading a document stopped. -/
inductive SyntaxError where
  | endOfDocument
  /-- An end tag does not belong to the element that is open. -/
  | mismatchedClose (expected found : List Char)
  /-- A construct has no end. -/
  | unfinished (what : String)
  /-- What follows `<!` opens nothing. -/
  | unknownDeclaration (byte : UInt8)
  | emptyDoctype
  deriving DecidableEq, Repr

/-- The text shown to the user. -/
def SyntaxError.message : SyntaxError → String
  | endOfDocument => "unexpected end of document"
  | mismatchedClose expected found =>
    "Expecting </" ++ String.ofList expected ++ "> found </" ++ String.ofList found ++ ">"
  | unfinished what => "Unexpected EOF during reading " ++ what
  | unknownDeclaration byte =>
    "Only Comment (`--`), CDATA (`[CDATA[`) and DOCTYPE (`DOCTYPE`) nodes can start with a '!', " ++
      "but symbol `" ++ String.singleton (Char.ofNat byte.toNat) ++ "` found"
  | emptyDoctype => "DOCTYPE declaration must not be empty"

/-- What stands between two tags, piece by piece. -/
inductive Content where
  /-- Reading stopped here. -/
  | stopped (position : Nat) (reason : SyntaxError)
  /-- The end tag of the element. -/
  | closed (name : List Char) (position : Nat)
  | element (name : List Char) (position : Nat) (inner rest : Content)
  | empty (name : List Char) (position : Nat) (rest : Content)
  | text (raw : List Char) (position : Nat) (rest : Content)
  | cdata (content : List Char) (position : Nat) (rest : Content)
  | aside (kind : Aside) (position : Nat) (rest : Content)
  deriving Repr

namespace Content

/-- Puts one event in front of the contents that follow it, the innermost first. A start tag takes
the content up to its end tag into an element; what follows an element that is never closed is never
reached. -/
def cons (stop : Content) (event : Event × Nat) (following : List Content) : List Content :=
  let first := following.headD stop
  let outer := following.drop 1
  let (event, position) := event
  match event with
  | .start name => element name position first (outer.headD stop) :: outer.drop 1
  | .close name => closed name position :: following
  | .empty name => empty name position first :: outer
  | .text raw => text raw position first :: outer
  | .cdata content => cdata content position first :: outer
  | .aside kind => aside kind position first :: outer

/-- The tree of the events of a document, given with their positions, and of what ended them. -/
def ofEvents (events : List (Event × Nat)) (position : Nat) (reason : SyntaxError) : Content :=
  let stop := stopped position reason
  (events.foldr (cons stop) [stop]).headD stop

end Content

end PerfGate.Xml
