import PerfGate.Xml.Content
import PerfGate.Xml.Entity

/-!
# Writing a document

The text of events, without anything between them. Asides have no content here and are left out.
-/

namespace PerfGate.Xml

/-- What stands in front of the first element. -/
def declarationText : List Char :=
  "<?xml version=\"1.0\"?>".toList

/-- The text of an event. -/
def Event.chars : Event → List Char
  | .start name => '<' :: name ++ ['>']
  | .empty name => '<' :: name ++ ['/', '>']
  | .close name => '<' :: '/' :: name ++ ['>']
  | .text raw => raw
  | .cdata content => "<![CDATA[".toList ++ content ++ "]]>".toList
  | .aside _ => []

/-- The text of a document. -/
def document (events : List Event) : List Char :=
  declarationText ++ events.flatMap Event.chars

/-- An element around events. -/
def element (name : String) (inner : List Event) : List Event :=
  .start name.toList :: inner ++ [.close name.toList]

/-- A run of text that stands for the characters; no characters need no text. -/
def textEvents (cs : List Char) : List Event :=
  if cs.isEmpty then [] else [.text (escape cs)]

/-- An element that holds text only. -/
def textElement (name text : String) : List Event :=
  element name (textEvents text.toList)

end PerfGate.Xml
