import PerfGate.Proofs.Text.Line
import PerfGate.Proofs.XmlRpc.Responses

/-!
# What was read can be written

A value that was read is in the form in which it is written: structs list their members in order,
and binary data and points in time have no blanks at their ends (`ReadWithin`). It has as many
levels as a document may have, with one exception: an item or member that is a self-closing `value`
is not counted, so an empty text may stand one level too deep. Hence what was read can be written,
and is then read back, if and only if no value stands too deep (`reencodes_of_decoded`);
`decodeResponse_deeper_than_written` is a response in which one does.
-/

namespace PerfGate.XmlRpc

open Std
open Xml (Content Markup)

namespace Value

/-! ## Depth -/

/-- The value is a text without characters. -/
def isEmptyText : Value → Bool
  | text s => s.isEmpty
  | _ => false

mutual

/-- The number of arrays and structs around the innermost value that is not an empty text. -/
def solidDepth : Value → Nat
  | array items => itemsSolidDepth items
  | struct members => membersSolidDepth members
  | _ => 0

/-- This number for an array with these items. -/
def itemsSolidDepth : List Value → Nat
  | [] => 0
  | item :: items =>
    max (if item.isEmptyText then 0 else solidDepth item + 1) (itemsSolidDepth items)

/-- This number for a struct with these members. -/
def membersSolidDepth : List (String × Value) → Nat
  | [] => 0
  | (_, value) :: members =>
    max (if value.isEmptyText then 0 else solidDepth value + 1) (membersSolidDepth members)

end

lemma depth_of_isEmptyText {v : Value} (h : v.isEmptyText = true) : v.depth = 0 := by
  cases v with
  | text s => rfl
  | _ => cases h

mutual

/-- Empty texts add one level at most. -/
lemma depth_le : ∀ v : Value, v.depth ≤ v.solidDepth + 1
  | array items => by
    rw [depth, solidDepth]
    exact itemsDepth_le items
  | struct members => by
    rw [depth, solidDepth]
    exact membersDepth_le members
  | int _ | boolean _ | double _ | text _ | base64 _ | dateTime _ | nil => Nat.zero_le _

lemma itemsDepth_le : ∀ items : List Value, itemsDepth items ≤ itemsSolidDepth items + 1
  | [] => Nat.zero_le _
  | item :: items => by
    have first := depth_le item
    have rest := itemsDepth_le items
    rw [itemsDepth, itemsSolidDepth]
    split
    · rename_i empty
      rw [depth_of_isEmptyText empty]
      omega
    · omega

lemma membersDepth_le : ∀ members : List (String × Value),
    membersDepth members ≤ membersSolidDepth members + 1
  | [] => Nat.zero_le _
  | (_, value) :: members => by
    have first := depth_le value
    have rest := membersDepth_le members
    rw [membersDepth, membersSolidDepth]
    split
    · rename_i empty
      rw [depth_of_isEmptyText empty]
      omega
    · omega

end

/-! ## The form of a value that was read -/

/-- The value is as it is written, and has no more than `room` levels, empty texts not counted. -/
structure ReadWithin (room : Nat) (v : Value) : Prop where
  wellFormed : v.WellFormed
  trimmed : v.trimmed = v
  solid : v.solidDepth ≤ room

/-- An item of an array, or the value of a member, around which `room` levels were left: it was read
with one level less, or is an empty text. -/
def ReadInside (room : Nat) (v : Value) : Prop :=
  v = .text "" ∨ room ≠ 0 ∧ v.ReadWithin (room - 1)

variable {room : Nat}

lemma ReadWithin.text (s : String) : (text s).ReadWithin room :=
  ⟨trivial, rfl, Nat.zero_le _⟩

namespace ReadInside

variable {v : Value} (h : v.ReadInside room)
include h

lemma wellFormed : v.WellFormed := by
  rcases h with rfl | ⟨-, read⟩
  · trivial
  · exact read.wellFormed

lemma trimmed : v.trimmed = v := by
  rcases h with rfl | ⟨-, read⟩
  · rfl
  · exact read.trimmed

lemma solid : (if v.isEmptyText then 0 else v.solidDepth + 1) ≤ room := by
  rcases h with rfl | ⟨space, read⟩
  · exact Nat.zero_le _
  · have bound := read.solid
    split <;> omega

end ReadInside

lemma ReadWithin.array {items : List Value} (h : ∀ v ∈ items, v.ReadInside room) :
    (array items).ReadWithin room := by
  induction items with
  | nil => exact ⟨trivial, rfl, Nat.zero_le _⟩
  | cons item items ih =>
    obtain ⟨first, rest⟩ := List.forall_mem_cons.1 h
    obtain ⟨wellFormed, trimmed, solid⟩ := ih rest
    refine ⟨⟨first.wellFormed, wellFormed⟩, ?_, max_le first.solid solid⟩
    have items := (array.injEq _ _).mp trimmed
    rw [Value.trimmed, trimmedItems, first.trimmed, items]

lemma membersReadWithin {members : List (String × Value)} (h : ∀ m ∈ members, m.2.ReadInside room) :
    WellFormedMembers members ∧ trimmedMembers members = members ∧
      membersSolidDepth members ≤ room := by
  induction members with
  | nil => exact ⟨trivial, rfl, Nat.zero_le _⟩
  | cons m members ih =>
    obtain ⟨first, rest⟩ := List.forall_mem_cons.1 h
    obtain ⟨wellFormed, trimmed, solid⟩ := ih rest
    refine ⟨⟨first.wellFormed, wellFormed⟩, ?_, max_le first.solid solid⟩
    rw [trimmedMembers, first.trimmed, trimmed]

/-- A struct keeps some of the members that it is made of, in the order of their names. -/
lemma ofMembers_spec (members : List (String × Value)) :
    (ExtTreeMap.ofList members).toList.Pairwise (fun m n => m.1 < n.1) ∧
      ∀ m ∈ (ExtTreeMap.ofList members).toList, m ∈ members := by
  have ordered : (ExtTreeMap.ofList members).toList.Pairwise NameBefore :=
    ExtTreeMap.ordered_keys_toList
  refine ⟨ordered.imp fun before => compareOfLessAndEq_eq_lt.1 before, ?_⟩
  rintro ⟨name, value⟩ listed
  rw [ExtTreeMap.mem_toList_iff_getElem?_eq_some, ExtTreeMap.ofList_eq_insertMany_empty,
    ExtTreeMap.getElem?_insertMany_list, List.findSomeRev?_eq_findSome?_reverse] at listed
  simp only [ExtTreeMap.getElem?_empty, Option.or_none] at listed
  obtain ⟨⟨other, value'⟩, mem, found⟩ := List.exists_of_findSome?_eq_some listed
  simp only [Option.ite_none_right_eq_some] at found
  obtain ⟨same, ⟨⟩⟩ := found
  obtain rfl := LawfulEqCmp.eq_of_compare same
  exact List.mem_reverse.1 mem

lemma ReadWithin.ofMembers {members : List (String × Value)}
    (h : ∀ m ∈ members, m.2.ReadInside room) : (ofMembers members).ReadWithin room := by
  obtain ⟨ordered, among⟩ := ofMembers_spec members
  obtain ⟨wellFormed, trimmed, solid⟩ := membersReadWithin fun m hm => h m (among m hm)
  exact ⟨⟨ordered, wellFormed⟩, congrArg struct trimmed, solid⟩

lemma ReadWithin.ofChars {s : Scalar} {cs : List Char} {v : Value} (h : s.ofChars cs = .ok v) :
    v.ReadWithin room := by
  unfold Scalar.ofChars at h
  cases s with
  | int =>
    simp only at h
    split at h
    · cases h
      exact ⟨trivial, rfl, Nat.zero_le _⟩
    · cases h
  | boolean =>
    simp only at h
    split at h
    · cases h
      exact ⟨trivial, rfl, Nat.zero_le _⟩
    · cases h
      exact ⟨trivial, rfl, Nat.zero_le _⟩
    · cases h
      exact ⟨trivial, rfl, Nat.zero_le _⟩
    · cases h
      exact ⟨trivial, rfl, Nat.zero_le _⟩
    · cases h
  | double =>
    simp only at h
    split at h
    · cases h
      exact ⟨trivial, rfl, Nat.zero_le _⟩
    · cases h
  | text =>
    cases h
    exact .text _
  | base64 =>
    cases h
    exact ⟨trivial, congrArg base64 (Text.trim_trimChars cs), Nat.zero_le _⟩
  | dateTime =>
    cases h
    exact ⟨trivial, congrArg dateTime (Text.trim_trimChars cs), Nat.zero_le _⟩

lemma ReadWithin.emptyValue {t : ValueType} {v : Value} (h : t.emptyValue? = some v) :
    v.ReadWithin room := by
  cases t with
  | nil =>
    cases h
    exact ⟨trivial, rfl, Nat.zero_le _⟩
  | array =>
    cases h
    exact .array nofun
  | struct =>
    cases h
    exact ⟨⟨.nil, trivial⟩, rfl, Nat.zero_le _⟩
  | scalar s =>
    cases s with
    | text =>
      cases h
      exact .text _
    | base64 =>
      cases h
      exact ⟨trivial, rfl, Nat.zero_le _⟩
    | _ => cases h

end Value

/-! ## Reading -/

open Value (ReadWithin ReadInside)

mutual

/-- A value that was read is as it is written. The induction is on the content; the room for more
levels goes down with it. -/
theorem valueOf_readWithin {room : Nat} {before : List (List Char)} {v : Value} : ∀ {c : Content},
    valueOf room before c = .ok v → v.ReadWithin room
  | .text .., h => by
    obtain ⟨cs, -, h⟩ := valueOf_text_inv h
    exact valueOf_readWithin h
  | .cdata .., h => by
    rw [valueOf] at h
    exact valueOf_readWithin h
  | .aside .comment _ _, h => by
    rw [valueOf] at h
    exact valueOf_readWithin h
  | .closed .., h => by
    cases h
    exact .text _
  | .element .., h => by
    obtain ⟨t, -, read, -⟩ := valueOf_element_inv h
    cases t with
    | scalar s =>
      obtain ⟨cs, -, made⟩ := except_bind_eq_ok.1 read
      exact .ofChars made
    | nil =>
      obtain ⟨-, -, ⟨⟩⟩ := except_bind_eq_ok.1 read
      exact ⟨trivial, rfl, Nat.zero_le _⟩
    | array => exact arrayOf_readWithin read
    | struct => exact structOf_readWithin (List.forall_mem_nil _) read
  | .empty .., h => by
    obtain ⟨⟨t, -, empty⟩, -⟩ := valueOf_empty_inv h
    exact .emptyValue empty
  | .stopped .., h => by cases h
  | .aside .instruction _ _, h => by cases h
  | .aside .doctype _ _, h => by cases h

theorem arrayOf_readWithin {room : Nat} {v : Value} : ∀ {c : Content},
    arrayOf room c = .ok v → v.ReadWithin room
  | .aside .., h => by
    rw [arrayOf] at h
    exact arrayOf_readWithin h
  | .text .., h => arrayOf_readWithin (arrayOf_text_inv h)
  | .element .., h => by
    obtain ⟨-, items, read, -, rfl⟩ := arrayOf_element_inv h
    exact .array (itemsOf_readInside (List.forall_mem_nil _) read)
  | .empty .., h => by
    obtain ⟨-, -, rfl⟩ := arrayOf_empty_inv h
    exact .array nofun
  | .closed .., h => by cases h
  | .cdata .., h => by cases h
  | .stopped .., h => by cases h

theorem itemsOf_readInside {room : Nat} {before items : List Value}
    (h : ∀ v ∈ before, v.ReadInside room) : ∀ {c : Content},
      itemsOf room before c = .ok items → ∀ v ∈ items, v.ReadInside room
  | .aside .., read => by
    rw [itemsOf] at read
    exact itemsOf_readInside h read
  | .text .., read => itemsOf_readInside h (itemsOf_text_inv read)
  | .element .., read => by
    obtain ⟨-, space, item, inside, read⟩ := itemsOf_element_inv read
    have first : item.ReadInside room := .inr ⟨space, valueOf_readWithin inside⟩
    exact itemsOf_readInside (List.forall_mem_cons.2 ⟨first, h⟩) read
  | .empty .., read => by
    obtain ⟨-, read⟩ := itemsOf_empty_inv read
    exact itemsOf_readInside (List.forall_mem_cons.2 ⟨.inl rfl, h⟩) read
  | .closed .., read => by
    cases read
    exact fun v hv => h v (List.mem_reverse.1 hv)
  | .cdata .., read => by cases read
  | .stopped .., read => by cases read

theorem structOf_readWithin {room : Nat} {before : List (String × Value)} {v : Value}
    (h : ∀ m ∈ before, m.2.ReadInside room) : ∀ {c : Content},
      structOf room before c = .ok v → v.ReadWithin room
  | .aside .., read => by
    rw [structOf] at read
    exact structOf_readWithin h read
  | .text .., read => structOf_readWithin h (structOf_text_inv read)
  | .element .., read => by
    obtain ⟨-, m, member, read⟩ := structOf_element_inv read
    have unread : ∀ v ∈ (none : Option Value), v.ReadInside room := nofun
    have first : m.2.ReadInside room := memberOf_readInside unread member
    exact structOf_readWithin (List.forall_mem_cons.2 ⟨first, h⟩) read
  | .closed .., read => by
    cases read
    exact .ofMembers fun m hm => h m (List.mem_reverse.1 hm)
  | .empty .., read => by cases read
  | .cdata .., read => by cases read
  | .stopped .., read => by cases read

theorem memberOf_readInside {room : Nat} {name? : Option (List Char)} {value? : Option Value}
    {m : List Char × Value} (h : ∀ v ∈ value?, v.ReadInside room) : ∀ {c : Content},
      memberOf room name? value? c = .ok m → m.2.ReadInside room
  | .aside .., read => by
    rw [memberOf] at read
    exact memberOf_readInside h read
  | .text .., read => memberOf_readInside h (memberOf_text_inv read)
  | .element .., read => by
    rcases memberOf_element_inv read with ⟨-, cs, -, read⟩ | ⟨-, space, value, inside, read⟩
    · exact memberOf_readInside h read
    · have found : value.ReadInside room := .inr ⟨space, valueOf_readWithin inside⟩
      exact memberOf_readInside (by rintro _ ⟨⟩; exact found) read
  | .empty .., read => by
    rcases memberOf_empty_inv read with ⟨-, read⟩ | ⟨-, read⟩
    · exact memberOf_readInside h read
    · exact memberOf_readInside (by rintro _ ⟨⟩; exact .inl rfl) read
  | .closed .., read => by
    rw [memberOf] at read
    obtain ⟨-, found⟩ := member_inv read
    exact h m.2 found
  | .cdata .., read => by cases read
  | .stopped .., read => by cases read

end

lemma onlyValue_readWithin {name : String} {c : Content} {v : Value}
    (h : onlyValue name c = .ok v) : v.ReadWithin maxDepth := by
  rcases onlyValue_inv h with ⟨_, inner, _, -, read, -⟩ | ⟨_, _, -, rfl, -⟩
  · exact valueOf_readWithin read
  · exact .text ""

lemma resultOf_readWithin {c : Content} {v : Value} (h : resultOf c = .ok v) :
    v.ReadWithin maxDepth := by
  rcases resultOf_inv h with ⟨_, _, -, rfl⟩ | ⟨_, inner, _, -, read, -⟩
  · exact ⟨trivial, rfl, Nat.zero_le _⟩
  · exact onlyValue_readWithin read

lemma paramsOf_readWithin {before params : List Value}
    (h : ∀ v ∈ before, v.ReadWithin maxDepth) : ∀ {c : Content},
      paramsOf before c = .ok params → ∀ v ∈ params, v.ReadWithin maxDepth
  | .aside .., read => by
    rw [paramsOf] at read
    exact paramsOf_readWithin h read
  | .text .., read => paramsOf_readWithin h (paramsOf_text_inv read)
  | .element .., read => by
    obtain ⟨-, param, only, read⟩ := paramsOf_element_inv read
    exact paramsOf_readWithin (List.forall_mem_cons.2 ⟨onlyValue_readWithin only, h⟩) read
  | .closed .., read => by
    cases read
    exact fun v hv => h v (List.mem_reverse.1 hv)
  | .empty .., read => by cases read
  | .cdata .., read => by cases read
  | .stopped .., read => by cases read

lemma arguments_readWithin {c : Content} {params : List Value} (h : Arguments c params) :
    ∀ v ∈ params, v.ReadWithin maxDepth := by
  cases h with
  | none ended => exact List.forall_mem_nil _
  | params found read ended => exact paramsOf_readWithin (List.forall_mem_nil _) read
  | noParams found ended => exact List.forall_mem_nil _

/-- The name of a call that was read is not blank and has no blanks at its ends. -/
lemma callOf_readWithin {c : Content} {call : Call} (h : callOf c = .ok call) :
    Text.trim call.method = call.method ∧ call.method ≠ "" ∧
      ∀ v ∈ call.params, v.ReadWithin maxDepth := by
  obtain ⟨_, _, cs, -, -, method, nonempty, arguments⟩ := callOf_inv h
  refine ⟨?_, ?_, arguments_readWithin arguments⟩
  · rw [method, Text.trim_trimChars]
  · rintro empty
    rw [empty] at nonempty
    cases nonempty

lemma decodeCall_inv {bytes : ByteArray} {call : Call} (h : decodeCall bytes = .ok call) :
    ∃ document inner rest, contentOf bytes = .ok document ∧
      expectElement "methodCall" document = .ok (inner, rest) ∧ callOf inner = .ok call := by
  obtain ⟨document, content, h⟩ := except_bind_eq_ok.1 h
  obtain ⟨⟨inner, rest⟩, root, read⟩ := except_bind_eq_ok.1 h
  exact ⟨document, inner, rest, content, root, read⟩

lemma decodeResponse_inv {bytes : ByteArray} {response : Response}
    (h : decodeResponse bytes = .ok response) :
    ∃ document inner rest, contentOf bytes = .ok document ∧
      expectElement "methodResponse" document = .ok (inner, rest) ∧
        responseOf inner = .ok response := by
  obtain ⟨document, content, h⟩ := except_bind_eq_ok.1 h
  obtain ⟨⟨inner, rest⟩, root, read⟩ := except_bind_eq_ok.1 h
  exact ⟨document, inner, rest, content, root, read⟩

lemma responseOf_readWithin {c : Content} {v : Value} (h : responseOf c = .ok (.success v)) :
    v.ReadWithin maxDepth := by
  obtain ⟨rest, answers, -⟩ := responseOf_inv h
  generalize nextTag c = first at answers
  generalize made : Response.success v = response at answers
  cases answers with
  | params read =>
    cases made
    exact resultOf_readWithin read
  | fault read described =>
    unfold faultOf at described
    split at described
    · cases described
      cases made
    · cases described
  | noParams =>
    cases made
    exact ⟨trivial, rfl, Nat.zero_le _⟩

/-! ## Writing again -/

/-- What was read of a document can be written, and is then read back, if and only if no value
stands too deep. No value does but an empty text, and this by one level at most. -/
structure Reencodes {α : Type} (values : List Value) (written : Except CodecError String)
    (decode : ByteArray → Except CodecError α) (result : α) : Prop where
  solid : ∀ v ∈ values, v.solidDepth ≤ maxDepth
  depth : ∀ v ∈ values, v.depth ≤ maxDepth + 1
  back : (∀ v ∈ values, v.depth ≤ maxDepth) ↔
    ∃ doc, written = .ok doc ∧ decode doc.toUTF8 = .ok result
  refused : (¬ ∀ v ∈ values, v.depth ≤ maxDepth) ↔ written = .error .tooDeep

lemma Reencodes.of_readWithin {α : Type} {values : List Value}
    {written : Except CodecError String} {decode : ByteArray → Except CodecError α} {result : α}
    (read : ∀ v ∈ values, v.ReadWithin maxDepth)
    (again : (∀ v ∈ values, v.depth ≤ maxDepth) →
      ∃ doc, written = .ok doc ∧ decode doc.toUTF8 = .ok result)
    (deep : (¬ ∀ v ∈ values, v.depth ≤ maxDepth) → written = .error .tooDeep) :
    Reencodes values written decode result where
  solid v hv := (read v hv).solid
  depth v hv := (Value.depth_le v).trans (Nat.succ_le_succ (read v hv).solid)
  back := by
    refine ⟨again, fun ⟨doc, success, _⟩ => ?_⟩
    by_contra h
    rw [deep h] at success
    cases success
  refused := by
    refine ⟨deep, fun failure fits => ?_⟩
    obtain ⟨doc, success, -⟩ := again fits
    rw [failure] at success
    cases success

variable {bytes : ByteArray}

lemma reencodes_call {call : Call} (h : decodeCall bytes = .ok call) :
    Reencodes call.params (encodeCall call.method call.params) decodeCall call := by
  obtain ⟨-, inner, -, -, -, read⟩ := decodeCall_inv h
  obtain ⟨trimmed, named, params⟩ := callOf_readWithin read
  have kept : call.params.map Value.trimmed = call.params :=
    (List.map_congr_left fun v hv => (params v hv).trimmed).trans (List.map_id _)
  have again : (∀ v ∈ call.params, v.depth ≤ maxDepth) →
      ∃ doc, encodeCall call.method call.params = .ok doc ∧
        decodeCall doc.toUTF8 = .ok call := by
    intro fits
    have back := decodeCall_document (by rwa [trimmed])
      (fun v hv => (params v hv).wellFormed) fits
    rw [trimmed, kept] at back
    exact ⟨_, encodeCall_eq_ok _ fits, back⟩
  exact .of_readWithin params again (encodeCall_eq_error call.method)

lemma reencodes_response {v : Value} (h : decodeResponse bytes = .ok (.success v)) :
    Reencodes [v] (encodeResponse v) decodeResponse (.success v) := by
  obtain ⟨-, inner, -, -, -, read⟩ := decodeResponse_inv h
  have value := responseOf_readWithin read
  have again : (∀ w ∈ [v], w.depth ≤ maxDepth) →
      ∃ doc, encodeResponse v = .ok doc ∧ decodeResponse doc.toUTF8 = .ok (.success v) := by
    intro fits
    have fits := List.forall_mem_singleton.1 fits
    have back := decodeResponse_result value.wellFormed fits
    rw [value.trimmed] at back
    exact ⟨_, encodeResponse_eq_ok fits, back⟩
  refine .of_readWithin (List.forall_mem_singleton.2 value) again fun deep => ?_
  exact encodeResponse_eq_error fun fits => deep (List.forall_mem_singleton.2 fits)

/-- Whatever spellings a document uses, what was read of it can be written and is then read back,
unless an empty text stands one level too deep; then writing it fails for its depth. -/
theorem reencodes_of_decoded (bytes : ByteArray) :
    (∀ call, decodeCall bytes = .ok call →
        Reencodes call.params (encodeCall call.method call.params) decodeCall call) ∧
      ∀ v, decodeResponse bytes = .ok (.success v) →
        Reencodes [v] (encodeResponse v) decodeResponse (.success v) :=
  ⟨fun _ => reencodes_call, fun _ => reencodes_response⟩

/-- A call whose only parameter is untyped and partly in a literal section. -/
def untypedCall : String :=
  "<methodCall><methodName>m </methodName><params><param><value> a<![CDATA[&]]></value></param>" ++
    "</params></methodCall>"

/-- A response with an array of one item, in a self-closing tag. -/
def selfClosingResponse : String :=
  "<methodResponse><params><param><value><array><data><value/></data></array></value></param>" ++
    "</params></methodResponse>"

set_option maxRecDepth 4096 in
theorem reencodes_of_decoded_spellings :
    decodeCall untypedCall.toUTF8 = .ok ⟨"m", [.text " a&"]⟩ ∧
      Reencodes [.text " a&"] (encodeCall "m" [.text " a&"]) decodeCall ⟨"m", [.text " a&"]⟩ ∧
      decodeResponse selfClosingResponse.toUTF8 = .ok (.success (.array [.text ""])) ∧
      Reencodes [.array [.text ""]] (encodeResponse (.array [.text ""])) decodeResponse
        (.success (.array [.text ""])) := by
  have call : decodeCall untypedCall.toUTF8 = .ok ⟨"m", [.text " a&"]⟩ := by
    with_unfolding_all rfl
  have response : decodeResponse selfClosingResponse.toUTF8 =
      .ok (.success (.array [.text ""])) := by
    with_unfolding_all rfl
  exact ⟨call, (reencodes_of_decoded _).1 _ call, response, (reencodes_of_decoded _).2 _ response⟩

/-! ## One level too deep -/

/-- What stands between the tags of a value: `n + 1` arrays, each the only item of the one around
it, and an empty text in a self-closing tag. -/
def nestedMarkup : Nat → Markup
  | 0 => .element "array".toList (.element "data".toList (.empty "value".toList .nil) .nil) .nil
  | n + 1 =>
    .element "array".toList
      (.element "data".toList (.element "value".toList (nestedMarkup n) .nil) .nil) .nil

/-- The value of this markup. -/
def nestedArrays : Nat → Value
  | 0 => .array [.text ""]
  | n + 1 => .array [nestedArrays n]

lemma depth_nestedArrays (n : Nat) : (nestedArrays n).depth = n + 1 := by
  induction n with
  | zero => rfl
  | succ n ih => simp [nestedArrays, Value.depth, Value.itemsDepth, ih]

lemma readable_nestedMarkup (n : Nat) : (nestedMarkup n).Readable := by
  induction n with
  | zero => exact ⟨by decide, ⟨by decide, ⟨by decide, trivial⟩, trivial⟩, trivial⟩
  | succ n ih => exact ⟨by decide, ⟨by decide, ⟨by decide, ih, trivial⟩, trivial⟩, trivial⟩

/-- Room for `n` more levels is enough to read `n + 1` arrays. -/
lemma valueOf_nestedMarkup {n : Nat} {c : Content} {tag : List Char} {p : Nat}
    (h : (nestedMarkup n).Shows c (.closed tag p)) : valueOf n [] c = .ok (nestedArrays n) := by
  induction n generalizing c tag p with
  | zero =>
    obtain ⟨_, _, _, _, rfl, ⟨_, _, _, _, rfl, ⟨_, _, rfl, rfl⟩, rfl⟩, rfl⟩ := h
    rfl
  | succ n ih =>
    obtain ⟨_, _, array, _, rfl, data, rfl⟩ := h
    have read : arrayOf (n + 1) array = .ok (nestedArrays (n + 1)) := by
      obtain ⟨_, _, _, _, rfl, ⟨_, _, _, _, rfl, inner, rfl⟩, rfl⟩ := data
      have item := ih inner
      rw [arrayOf, if_pos (by rfl), itemsOf, if_pos (by rfl), if_neg (Nat.succ_ne_zero n)]
      simp only [Nat.add_sub_cancel, item, except_ok_bind]
      rfl
    rw [valueOf, show ValueType.ofName? "array".toList = some .array from rfl]
    simp only [read, except_ok_bind]
    rfl

/-- The document of a response with the value of `nestedMarkup`. -/
def nestedDocument (n : Nat) : String :=
  String.ofList (Xml.document (Markup.element "methodResponse".toList
    (.element "params".toList (.element "param".toList
      (.element "value".toList (nestedMarkup n) .nil) .nil) .nil) .nil).events)

/-- A document with an empty text inside 65 arrays is read, but what was read is not written: 64
levels are all there may be. -/
theorem decodeResponse_deeper_than_written :
    decodeResponse (nestedDocument 64).toUTF8 = .ok (.success (nestedArrays 64)) ∧
      (nestedArrays 64).depth = 65 ∧ encodeResponse (nestedArrays 64) = .error .tooDeep := by
  refine ⟨decodeResponse_document ?_ ?_, depth_nestedArrays 64, encodeResponse_eq_error ?_⟩
  · exact ⟨by decide, ⟨by decide, ⟨by decide, ⟨by decide, readable_nestedMarkup 64, trivial⟩,
      trivial⟩, trivial⟩, trivial⟩
  · intro c p shows
    exact responseOf_result (fun _ _ => valueOf_nestedMarkup) shows
  · rw [depth_nestedArrays]
    decide

end PerfGate.XmlRpc
