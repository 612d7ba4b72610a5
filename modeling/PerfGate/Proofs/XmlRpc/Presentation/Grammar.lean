import PerfGate.Proofs.Xml.Comment
import PerfGate.Proofs.XmlRpc.Written
import PerfGate.Text.Blank

/-!
# The presentations of a call

A call can be laid out in many ways. `PresentsCall` is the grammar of the documents that present one
call: blanks and comments stand between tags as one likes, a text is cut into runs, literal sections
and comments, an integer has one of three tags and a boolean one of two words, there are blanks
around what is no text, and the members of a struct come in any order, each with its name or its
value first. What is written for a call is one of its presentations (`presents_written`).
-/

namespace PerfGate.XmlRpc

open Xml (Event Markup IsComment IsLiteral commentChars escapeChar escape declarationText
  textEvents)

/-! ## Characters -/

/-- The blanks that may stand between tags. -/
def asciiBlanks : List Char := [' ', '\t', '\n', '\r', '\x0c']

/-- Blanks and comments, in any number and order. -/
inductive Filler : List Char → Prop
  | nil : Filler []
  | blank {c : Char} {cs : List Char} (h : c ∈ asciiBlanks) (rest : Filler cs) : Filler (c :: cs)
  | comment {body cs : List Char} (h : IsComment body) (rest : Filler cs) :
      Filler (commentChars body ++ cs)

/-- A character in a run of text stands for itself, unless it would begin markup, or is escaped. -/
inductive SpellsChar : Char → List Char → Prop
  | plain {c : Char} (notTag : c ≠ '<') (notEntity : c ≠ '&') : SpellsChar c [c]
  | escaped (c : Char) : SpellsChar c (escapeChar c)

/-- Characters as runs of text and literal sections, in any order, with comments anywhere. -/
inductive Spells : List Char → List Char → Prop
  | nil : Spells [] []
  | char {c : Char} {s cs written : List Char} (h : SpellsChar c s) (rest : Spells cs written) :
      Spells (c :: cs) (s ++ written)
  | literal {section' cs written : List Char} (h : IsLiteral section') (rest : Spells cs written) :
      Spells (section' ++ cs) ((Event.cdata section').chars ++ written)
  | comment {body cs written : List Char} (h : IsComment body) (rest : Spells cs written) :
      Spells cs (commentChars body ++ written)

/-- The text with blanks around it. -/
def Padded (text : String) (cs : List Char) : Prop :=
  ∃ left right, cs = left ++ text.toList ++ right ∧ (∀ c ∈ left, Text.isBlank c) ∧
    ∀ c ∈ right, Text.isBlank c

/-- An element around characters. -/
def elementChars (name : String) (inner : List Char) : List Char :=
  (Event.start name.toList).chars ++ inner ++ (Event.close name.toList).chars

/-! ## Values -/

/-- The tags that an integer may have. -/
def intTags : List String := ["int", "i4", "i8"]

/-- The words for a boolean. -/
def booleanWords (b : Bool) : List String :=
  if b then ["1", "true"] else ["0", "false"]

/-- The tag of a value that is neither nil nor made of others, and the characters in its element. -/
inductive ScalarForm : Value → String → List Char → Prop
  | int {i : Int64} {tag : String} {cs : List Char} (h : tag ∈ intTags)
      (padded : Padded (toString i.toInt) cs) : ScalarForm (.int i) tag cs
  | boolean {b : Bool} {word : String} {cs : List Char} (h : word ∈ booleanWords b)
      (padded : Padded word cs) : ScalarForm (.boolean b) "boolean" cs
  | double {x : Float} {cs : List Char} (padded : Padded (Decimal.plain x) cs) :
      ScalarForm (.double x) "double" cs
  | text {s : String} : ScalarForm (.text s) "string" s.toList
  | base64 {s : String} {cs : List Char} (padded : Padded s cs) : ScalarForm (.base64 s) "base64" cs
  | dateTime {s : String} {cs : List Char} (padded : Padded s cs) :
      ScalarForm (.dateTime s) "dateTime.iso8601" cs

mutual

/-- The characters present the value, when they stand between its tags. -/
inductive Presents : Value → List Char → Prop
  | scalar {v : Value} {tag : String} {cs written before after : List Char}
      (form : ScalarForm v tag cs) (spelled : Spells cs written) (hb : Filler before)
      (ha : Filler after) : Presents v (before ++ elementChars tag written ++ after)
  | nil {before after : List Char} (hb : Filler before) (ha : Filler after) :
      Presents .nil (before ++ (Event.empty "nil".toList).chars ++ after)
  | array {items : List Value} {inner before after before' after' : List Char}
      (h : PresentsItems items inner) (hb : Filler before) (ha : Filler after)
      (hb' : Filler before') (ha' : Filler after') :
      Presents (.array items) (before ++
        elementChars "array" (before' ++ elementChars "data" inner ++ after') ++ after)
  | struct {members order : List (String × Value)} {inner before after : List Char}
      (h : PresentsMembers order inner) (perm : order.Perm members) (hb : Filler before)
      (ha : Filler after) :
      Presents (.struct members) (before ++ elementChars "struct" inner ++ after)

/-- The characters present the items of an array, one after the other. -/
inductive PresentsItems : List Value → List Char → Prop
  | nil {filler : List Char} (h : Filler filler) : PresentsItems [] filler
  | cons {item : Value} {items : List Value} {filler inner rest : List Char} (h : Filler filler)
      (first : Presents item inner) (others : PresentsItems items rest) :
      PresentsItems (item :: items) (filler ++ elementChars "value" inner ++ rest)

/-- The characters present the members of a struct, one after the other. -/
inductive PresentsMembers : List (String × Value) → List Char → Prop
  | nil {filler : List Char} (h : Filler filler) : PresentsMembers [] filler
  | cons {name : String} {value : Value} {members : List (String × Value)}
      {filler inner rest : List Char} (h : Filler filler) (first : PresentsMember name value inner)
      (others : PresentsMembers members rest) :
      PresentsMembers ((name, value) :: members) (filler ++ elementChars "member" inner ++ rest)

/-- The characters present a member of a struct, when they stand between its tags. -/
inductive PresentsMember : String → Value → List Char → Prop
  | nameFirst {name : String} {value : Value} {written inner before between after : List Char}
      (named : Spells name.toList written) (h : Presents value inner) (hb : Filler before)
      (hm : Filler between) (ha : Filler after) :
      PresentsMember name value (before ++ elementChars "name" written ++ between ++
        elementChars "value" inner ++ after)
  | valueFirst {name : String} {value : Value} {written inner before between after : List Char}
      (named : Spells name.toList written) (h : Presents value inner) (hb : Filler before)
      (hm : Filler between) (ha : Filler after) :
      PresentsMember name value (before ++ elementChars "value" inner ++ between ++
        elementChars "name" written ++ after)

end

/-! ## Calls -/

/-- The characters present the parameters of a call, one after the other. -/
inductive PresentsParams : List Value → List Char → Prop
  | nil {filler : List Char} (h : Filler filler) : PresentsParams [] filler
  | cons {param : Value} {params : List Value} {filler inner before after rest : List Char}
      (h : Filler filler) (first : Presents param inner) (hb : Filler before) (ha : Filler after)
      (others : PresentsParams params rest) :
      PresentsParams (param :: params) (filler ++
        elementChars "param" (before ++ elementChars "value" inner ++ after) ++ rest)

/-- The document presents the call. -/
inductive PresentsCall (method : String) (params : List Value) : List Char → Prop
  | intro {cs name arguments before front opening between closing after : List Char}
      (padded : Padded method cs) (named : Spells cs name)
      (given : PresentsParams params arguments) (hb : Filler before) (hf : Filler front)
      (ho : Filler opening) (hm : Filler between) (hc : Filler closing) (ha : Filler after) :
      PresentsCall method params (before ++ declarationText ++ front ++
        elementChars "methodCall" (opening ++ elementChars "methodName" name ++ between ++
          elementChars "params" arguments ++ closing) ++ after)

/-! ## What is written -/

lemma padded_self (text : String) : Padded text text.toList :=
  ⟨[], [], (List.append_nil _).symm, List.forall_mem_nil _, List.forall_mem_nil _⟩

lemma spells_self {cs : List Char} (h : ∀ c ∈ cs, c ≠ '<' ∧ c ≠ '&') : Spells cs cs := by
  induction cs with
  | nil => exact .nil
  | cons c cs ih =>
    obtain ⟨⟨notTag, notEntity⟩, h⟩ := List.forall_mem_cons.1 h
    exact .char (.plain notTag notEntity) (ih h)

lemma spells_escape (cs : List Char) : Spells cs (escape cs) := by
  induction cs with
  | nil => exact .nil
  | cons c cs ih => exact .char (.escaped c) ih

lemma spells_textEvents (cs : List Char) : Spells cs ((textEvents cs).flatMap Event.chars) := by
  unfold textEvents
  split
  · rename_i empty
    rw [List.isEmpty_iff.1 empty]
    exact .nil
  · have run := spells_escape cs
    rwa [List.flatMap_singleton]

lemma chars_element (name : String) (inner rest : Markup) :
    (Markup.element name.toList inner rest).events.flatMap Event.chars =
      elementChars name (inner.events.flatMap Event.chars) ++ rest.events.flatMap Event.chars := by
  simp [Markup.events, elementChars]

lemma chars_textMarkup (name text : String) (rest : Markup) :
    (textMarkup name text rest).events.flatMap Event.chars =
      elementChars name ((textEvents text.toList).flatMap Event.chars) ++
        rest.events.flatMap Event.chars := by
  rw [textMarkup, chars_element, Markup.events_ofText]

/-- A scalar is written as its characters, with nothing around them. -/
lemma presents_textMarkup {v : Value} {tag text : String} (form : ScalarForm v tag text.toList) :
    Presents v ((textMarkup tag text .nil).events.flatMap Event.chars) := by
  rw [chars_textMarkup]
  exact .scalar form (spells_textEvents text.toList) .nil .nil

mutual

lemma presents_markup : ∀ v : Value, Presents v (v.markup.events.flatMap Event.chars)
  | .int i => by
    refine presents_textMarkup (.int ?_ (padded_self _))
    unfold intTags
    split <;> simp
  | .boolean b => by
    refine presents_textMarkup (.boolean ?_ (padded_self _))
    cases b <;> exact List.mem_cons_self
  | .double x => presents_textMarkup (.double (padded_self _))
  | .text s => presents_textMarkup .text
  | .base64 s => presents_textMarkup (.base64 (padded_self _))
  | .dateTime s => presents_textMarkup (.dateTime (padded_self _))
  | .nil => .nil .nil .nil
  | .array items => by
    rw [Value.markup, chars_element, chars_element]
    exact .array (presents_itemsMarkup items) .nil .nil .nil .nil
  | .struct members => by
    rw [Value.markup, chars_element]
    exact .struct (presents_membersMarkup members) (.refl _) .nil .nil

lemma presents_itemsMarkup : ∀ items : List Value,
    PresentsItems items ((itemsMarkup items).events.flatMap Event.chars)
  | [] => .nil .nil
  | item :: items => by
    rw [itemsMarkup, chars_element]
    exact .cons .nil (presents_markup item) (presents_itemsMarkup items)

lemma presents_membersMarkup : ∀ members : List (String × Value),
    PresentsMembers members ((membersMarkup members).events.flatMap Event.chars)
  | [] => .nil .nil
  | (name, value) :: members => by
    have member : PresentsMember name value
        ((textMarkup "name" name (.element "value".toList value.markup .nil)).events.flatMap
          Event.chars) := by
      rw [chars_textMarkup, chars_element]
      have named := PresentsMember.nameFirst (spells_textEvents name.toList)
        (presents_markup value) .nil .nil .nil
      simpa [Markup.events] using named
    rw [membersMarkup, chars_element]
    exact .cons .nil member (presents_membersMarkup members)

end

lemma presents_paramsMarkup (params : List Value) :
    PresentsParams params ((paramsMarkup params).events.flatMap Event.chars) := by
  induction params with
  | nil => exact .nil .nil
  | cons param params ih =>
    rw [paramsMarkup, chars_element, chars_element]
    exact .cons .nil (presents_markup param) .nil .nil ih

/-- The document that is written for a call presents it. -/
lemma presents_written (method : String) (params : List Value) :
    PresentsCall method params (Xml.document (callMarkup method params).events) := by
  have given := presents_paramsMarkup params
  rw [Xml.document, callMarkup, chars_element, chars_textMarkup, chars_element]
  have call := PresentsCall.intro (padded_self method) (spells_textEvents method.toList) given
    .nil .nil .nil .nil .nil .nil
  simpa [Markup.events] using call

end PerfGate.XmlRpc
