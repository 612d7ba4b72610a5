import PerfGate.Proofs.Xml.Escape
import PerfGate.XmlRpc.Encoding

/-!
# What is written for a value

`Value.markup` is what a document holds between the tags of a value, and `callMarkup` a whole call.
`valueEvents_eq` and `encodeCall_eq_ok` say that writing succeeds as long as values are not too
deep, and then writes this markup; `encodeCall_eq_error`, that it fails otherwise. Everything that
is written is readable (`readable_call`).
-/

namespace PerfGate.XmlRpc

open Xml (Event Markup element textElement textEvents)

/-- An element that holds text only. -/
def textMarkup (name text : String) (rest : Markup) : Markup :=
  .element name.toList (.ofText text.toList) rest

mutual

/-- What stands between the tags of a value. -/
def Value.markup : Value → Markup
  | .int i => textMarkup (if fitsInt i then "int" else "i8") (toString i.toInt) .nil
  | .boolean b => textMarkup "boolean" (if b then "1" else "0") .nil
  | .double x => textMarkup "double" (Decimal.plain x) .nil
  | .text s => textMarkup "string" s .nil
  | .base64 s => textMarkup "base64" s .nil
  | .dateTime s => textMarkup "dateTime.iso8601" s .nil
  | .nil => .empty "nil".toList .nil
  | .array items => .element "array".toList (.element "data".toList (itemsMarkup items) .nil) .nil
  | .struct members => .element "struct".toList (membersMarkup members) .nil

/-- The elements of an array's items. -/
def itemsMarkup : List Value → Markup
  | [] => .nil
  | item :: items => .element "value".toList item.markup (itemsMarkup items)

/-- The elements of a struct's members. -/
def membersMarkup : List (String × Value) → Markup
  | [] => .nil
  | (name, value) :: members =>
    .element "member".toList (textMarkup "name" name (.element "value".toList value.markup .nil))
      (membersMarkup members)

end

/-- The elements of a call's parameters. -/
def paramsMarkup : List Value → Markup
  | [] => .nil
  | param :: params =>
    .element "param".toList (.element "value".toList param.markup .nil) (paramsMarkup params)

/-- The element of a call. -/
def callMarkup (method : String) (params : List Value) : Markup :=
  .element "methodCall".toList
    (textMarkup "methodName" method (.element "params".toList (paramsMarkup params) .nil)) .nil

/-! ## Writing -/

lemma events_element (name : String) (inner : Markup) :
    (Markup.element name.toList inner .nil).events = element name inner.events := rfl

lemma events_element_append (name : String) (inner rest : Markup) :
    (Markup.element name.toList inner rest).events = element name inner.events ++ rest.events := by
  simp [Markup.events, element]

lemma events_textMarkup (name text : String) (rest : Markup) :
    (textMarkup name text rest).events = textElement name text ++ rest.events := by
  rw [textMarkup, events_element_append, Markup.events_ofText]
  rfl

lemma events_textMarkup_nil (name text : String) :
    (textMarkup name text .nil).events = textElement name text := by
  rw [events_textMarkup, Markup.events, List.append_nil]

/-- The events, unless they are too deep for the room that there is. -/
def within (room depth : Nat) (events : List Event) : Except CodecError (List Event) :=
  if depth ≤ room then .ok events else .error .tooDeep

/-- A value inside an array or struct, and then what follows it, is written if there is room for
both. -/
lemma write_inside (room depth deepest : Nat) (first rest : List Event)
    (join : List Event → List Event → List Event) :
    (do
      if room = 0 then throw .tooDeep
      let first ← within (room - 1) depth first
      let rest ← within room deepest rest
      pure (join first rest)) = within room (max (depth + 1) deepest) (join first rest) := by
  unfold within
  by_cases closed : room = 0
  · rw [if_pos closed, if_neg (by omega : ¬ max (depth + 1) deepest ≤ room)]
    rfl
  rw [if_neg closed]
  by_cases h : depth ≤ room - 1
  · by_cases h' : deepest ≤ room
    · rw [if_pos h, if_pos h', if_pos (by omega : max (depth + 1) deepest ≤ room)]
      rfl
    · rw [if_pos h, if_neg h', if_neg (by omega : ¬ max (depth + 1) deepest ≤ room)]
      rfl
  · rw [if_neg h, if_neg (by omega : ¬ max (depth + 1) deepest ≤ room)]
    rfl

mutual

/-- A value is written in full if there is room for all of its arrays and structs, and not at all
otherwise. -/
lemma valueEvents_eq (room : Nat) : ∀ v : Value,
    valueEvents room v = within room v.depth (element "value" v.markup.events)
  | .int _ | .boolean _ | .double _ | .text _ | .base64 _ | .dateTime _ => by
    simp [valueEvents, within, Value.depth, Value.markup, events_textMarkup_nil]
  | .nil => rfl
  | .array items => by
    rw [valueEvents, itemsEvents_eq room items, Value.depth, Value.markup, within, within]
    split <;> rfl
  | .struct members => by
    rw [valueEvents, membersEvents_eq room members, Value.depth, Value.markup, within, within]
    split <;> rfl

lemma itemsEvents_eq (room : Nat) : ∀ items : List Value,
    itemsEvents room items = within room (Value.itemsDepth items) (itemsMarkup items).events
  | [] => rfl
  | item :: items => by
    rw [itemsEvents, valueEvents_eq (room - 1) item, itemsEvents_eq room items, Value.itemsDepth,
      itemsMarkup, events_element_append]
    exact write_inside room _ _ _ _ (· ++ ·)

lemma membersEvents_eq (room : Nat) : ∀ members : List (String × Value),
    membersEvents room members =
      within room (Value.membersDepth members) (membersMarkup members).events
  | [] => rfl
  | (name, value) :: members => by
    rw [membersEvents, valueEvents_eq (room - 1) value, membersEvents_eq room members,
      Value.membersDepth, membersMarkup, events_element_append, events_textMarkup, events_element]
    exact write_inside room _ _ _ _ fun first rest =>
      element "member" (textElement "name" name ++ first) ++ rest

end

/-- Parameters are written one after the other. -/
lemma paramEvents_cons (param : Value) (params : List Value) :
    paramEvents (param :: params) = (do
      let first ← within maxDepth param.depth (element "value" param.markup.events)
      let rest ← paramEvents params
      pure (element "param" first ++ rest)) := by
  rw [paramEvents, List.mapM_cons, valueEvents_eq]
  cases within maxDepth param.depth (element "value" param.markup.events) with
  | error e => rfl
  | ok first =>
    rw [paramEvents]
    cases params.mapM (valueEvents maxDepth) <;> rfl

lemma paramEvents_eq_ok {params : List Value} (h : ∀ v ∈ params, v.depth ≤ maxDepth) :
    paramEvents params = .ok (paramsMarkup params).events := by
  induction params with
  | nil => rfl
  | cons param params ih =>
    obtain ⟨fits, h⟩ := List.forall_mem_cons.1 h
    rw [paramEvents_cons, within, if_pos fits, ih h, paramsMarkup, events_element_append,
      events_element]
    rfl

lemma paramEvents_eq_error {params : List Value} (h : ¬ ∀ v ∈ params, v.depth ≤ maxDepth) :
    paramEvents params = .error .tooDeep := by
  induction params with
  | nil => exact absurd (fun _ => nofun) h
  | cons param params ih =>
    rw [paramEvents_cons, within]
    by_cases fits : param.depth ≤ maxDepth
    · rw [if_pos fits, ih fun all => h (List.forall_mem_cons.2 ⟨fits, all⟩)]
      rfl
    · rw [if_neg fits]
      rfl

/-- A call none of whose parameters is too deep is written in full. -/
lemma encodeCall_eq_ok (method : String) {params : List Value}
    (h : ∀ v ∈ params, v.depth ≤ maxDepth) : encodeCall method params =
      .ok (String.ofList (Xml.document (callMarkup method params).events)) := by
  rw [encodeCall, paramEvents_eq_ok h, callMarkup, events_element, events_textMarkup,
    events_element]
  rfl

/-- A call with a parameter that is too deep is not written. -/
lemma encodeCall_eq_error (method : String) {params : List Value}
    (h : ¬ ∀ v ∈ params, v.depth ≤ maxDepth) : encodeCall method params = .error .tooDeep := by
  rw [encodeCall, paramEvents_eq_error h]
  rfl

/-! ## Reading back -/

lemma readable_textMarkup {name : String} (h : Xml.isPlainName name.toList) (text : String)
    {rest : Markup} (hr : rest.Readable) : (textMarkup name text rest).Readable :=
  ⟨h, Markup.readable_ofText _, hr⟩

mutual

lemma readable_value : ∀ v : Value, v.markup.Readable
  | .int i => by
    unfold Value.markup
    split
    · exact readable_textMarkup (by decide) _ trivial
    · exact readable_textMarkup (by decide) _ trivial
  | .boolean _ => readable_textMarkup (by decide) _ trivial
  | .double _ => readable_textMarkup (by decide) _ trivial
  | .text _ => readable_textMarkup (by decide) _ trivial
  | .base64 _ => readable_textMarkup (by decide) _ trivial
  | .dateTime _ => readable_textMarkup (by decide) _ trivial
  | .nil => ⟨by decide, trivial⟩
  | .array items => ⟨by decide, ⟨by decide, readable_items items, trivial⟩, trivial⟩
  | .struct members => ⟨by decide, readable_members members, trivial⟩

lemma readable_items : ∀ items : List Value, (itemsMarkup items).Readable
  | [] => trivial
  | item :: items => ⟨by decide, readable_value item, readable_items items⟩

lemma readable_members : ∀ members : List (String × Value), (membersMarkup members).Readable
  | [] => trivial
  | (_, value) :: members =>
    ⟨by decide, readable_textMarkup (by decide) _ ⟨by decide, readable_value value, trivial⟩,
      readable_members members⟩

end

lemma readable_params : ∀ params : List Value, (paramsMarkup params).Readable
  | [] => trivial
  | param :: params =>
    ⟨by decide, ⟨by decide, readable_value param, trivial⟩, readable_params params⟩

lemma readable_call (method : String) (params : List Value) :
    (callMarkup method params).Readable :=
  ⟨by decide, readable_textMarkup (by decide) _ ⟨by decide, readable_params params, trivial⟩,
    trivial⟩

end PerfGate.XmlRpc
