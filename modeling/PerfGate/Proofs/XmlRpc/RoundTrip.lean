import PerfGate.Proofs.Decimal.ReadBack
import PerfGate.Proofs.XmlRpc.Inversion
import PerfGate.Proofs.XmlRpc.WellFormed
import PerfGate.Proofs.XmlRpc.Written

/-!
# Calls read back

What is written for a value is read as the value itself, but for the blanks around binary data and
points in time (`valueOf_markup`). The induction is on the value and speaks of any content that
shows the value's markup; the room that there is for arrays and structs goes down with the depth.
`encodeCall_roundTrip` puts this together for a call: writing it succeeds unless a parameter is too
deep, and then the call is read back.
-/

namespace PerfGate.XmlRpc

open Xml (Content Markup)

/-! ## Texts and scalars -/

lemma expectClose_nil {name : String} {c : Content} {n : List Char} {p : Nat}
    (h : Markup.nil.Shows c (.closed n p)) : expectClose name c = .ok () := by
  cases h
  rfl

lemma readText_ofText {cs name : List Char} {c : Content} {n : List Char} {p : Nat}
    (h : (Markup.ofText cs).Shows c (.closed n p)) : readText name [] c = .ok cs := by
  unfold Markup.ofText at h
  split at h
  · cases h
    rename_i empty
    rw [readText, List.isEmpty_iff.1 empty]
    rfl
  · obtain ⟨q, c, rfl, rfl⟩ := h
    rw [readText, Xml.unescape_escape]
    simp [readText]

/-- The value in an element that holds text only. -/
lemma valueOf_textMarkup {room : Nat} {name text : String} {s : Scalar} {v : Value} {c : Content}
    {n : List Char} {p : Nat} (hn : ValueType.ofName? name.toList = some (.scalar s))
    (hv : s.ofChars text.toList = .ok v)
    (h : (textMarkup name text .nil).Shows c (.closed n p)) : valueOf room [] c = .ok v := by
  obtain ⟨q, q', i, c, rfl, inner, rest⟩ := h
  rw [valueOf, hn]
  simp only [readText_ofText inner, hv, expectClose_nil rest, except_ok_bind]
  rfl

lemma ofChars_int (i : Int64) :
    Scalar.int.ofChars (toString i.toInt).toList = .ok (.int i) := by
  have trimmed : String.ofList (Text.trimChars (toString i.toInt).toList) = toString i.toInt :=
    Text.trim_toString_int i.toInt
  simp only [Scalar.ofChars, trimmed, Decimal.readInt64_toString, Int64.ofInt_toInt]

lemma ofChars_boolean (b : Bool) :
    Scalar.boolean.ofChars (if b then "1" else "0").toList = .ok (.boolean b) := by
  cases b <;> rfl

lemma ofChars_double (x : Float) :
    Scalar.double.ofChars (Decimal.plain x).toList = .ok (.double x) := by
  have trimmed : String.ofList (Text.trimChars (Decimal.plain x).toList) = Decimal.plain x :=
    Decimal.trim_plain x
  simp only [Scalar.ofChars, trimmed, Decimal.readFloat_plain]

/-! ## Values -/

/-- The member in its element, if the value in it is read as `v`. -/
lemma memberOf_markup {room : Nat} {name : String} {value v : Value} {c : Content} {n : List Char}
    {p : Nat} (space : room ≠ 0)
    (hv : ∀ i q, value.markup.Shows i (.closed "value".toList q) →
      valueOf (room - 1) [] i = .ok v)
    (h : (textMarkup "name" name (.element "value".toList value.markup .nil)).Shows c
      (.closed n p)) : memberOf room none none c = .ok (name.toList, v) := by
  obtain ⟨q, q', i, c, rfl, named, q₂, q₂', i₂, c₂, rfl, inner, rest⟩ := h
  cases rest
  rw [memberOf, if_pos (by rfl), readText_ofText named, except_ok_bind, memberOf,
    if_neg (by decide), if_pos (by rfl), if_neg space]
  simp only [hv i₂ q₂' inner, except_ok_bind]
  rw [memberOf]
  rfl

mutual

/-- What is written for a value is read as this value, trimmed. -/
theorem valueOf_markup {room : Nat} {c : Content} {n : List Char} {p : Nat} : ∀ {v : Value},
    v.WellFormed → v.depth ≤ room → v.markup.Shows c (.closed n p) →
      valueOf room [] c = .ok v.trimmed
  | .int i, _, _, h => by
    refine valueOf_textMarkup (s := .int) ?_ (ofChars_int i) h
    split <;> rfl
  | .boolean b, _, _, h => valueOf_textMarkup (s := .boolean) rfl (ofChars_boolean b) h
  | .double x, _, _, h => valueOf_textMarkup (s := .double) rfl (ofChars_double x) h
  | .text s, _, _, h => by
    refine valueOf_textMarkup (s := .text) rfl ?_ h
    rw [Scalar.ofChars, String.ofList_toList]
    rfl
  | .base64 s, _, _, h => valueOf_textMarkup (s := .base64) rfl rfl h
  | .dateTime s, _, _, h => valueOf_textMarkup (s := .dateTime) rfl rfl h
  | .nil, _, _, h => by
    obtain ⟨q, c, rfl, rest⟩ := h
    rw [valueOf, show ValueType.ofName? "nil".toList = some .nil from rfl]
    simp only [Option.bind_some, ValueType.emptyValue?, expectClose_nil rest, except_ok_bind]
    rfl
  | .array items, wf, fits, h => by
    obtain ⟨q, q', i, c, rfl, ⟨q₂, q₂', i₂, c₂, rfl, inner, rest₂⟩, rest⟩ := h
    have array : arrayOf room (.element "data".toList q₂ i₂ c₂) =
        .ok (.array (Value.trimmedItems items)) := by
      rw [arrayOf, if_pos (by rfl), itemsOf_markup wf fits [] inner, except_ok_bind,
        expectClose_nil rest₂]
      rfl
    rw [valueOf, show ValueType.ofName? "array".toList = some .array from rfl]
    simp only [array, except_ok_bind, expectClose_nil rest]
    rfl
  | .struct members, wf, fits, h => by
    obtain ⟨q, q', i, c, rfl, inner, rest⟩ := h
    -- trimming leaves the names alone, so the members are still in the order of a struct
    have ordered : (Value.trimmedMembers members).Pairwise fun m n => m.1 < n.1 := by
      have names := List.pairwise_map.2 wf.1
      rw [← Value.map_fst_trimmedMembers] at names
      exact List.pairwise_map.1 names
    have struct : structOf room [] i = .ok (.struct (Value.trimmedMembers members)) := by
      rw [structOf_markup wf.2 fits [] inner]
      exact congrArg _ (Value.ofMembers_of_pairwise ordered)
    rw [valueOf, show ValueType.ofName? "struct".toList = some .struct from rfl]
    simp only [struct, except_ok_bind, expectClose_nil rest]
    rfl

/-- Items are read one after the other, each with one level less of room. -/
theorem itemsOf_markup {room : Nat} {c : Content} {n : List Char} {p : Nat} :
    ∀ {items : List Value}, Value.WellFormedItems items → Value.itemsDepth items ≤ room →
      ∀ before : List Value, (itemsMarkup items).Shows c (.closed n p) →
        itemsOf room before c = .ok (before.reverse ++ Value.trimmedItems items)
  | [], _, _, before, h => by
    cases h
    simp [itemsOf, Value.trimmedItems]
  | item :: items, wf, fits, before, h => by
    obtain ⟨q, q', i, c, rfl, inner, rest⟩ := h
    rw [Value.itemsDepth] at fits
    have space : room ≠ 0 := by omega
    -- what was read before is at hand in reverse
    rw [itemsOf, if_pos (by rfl), if_neg space, valueOf_markup wf.1 (by omega) inner]
    simp only [except_ok_bind]
    rw [itemsOf_markup wf.2 (by omega) _ rest]
    simp [Value.trimmedItems]

/-- Members are read one after the other, their values with one level less of room. -/
theorem structOf_markup {room : Nat} {c : Content} {n : List Char} {p : Nat} :
    ∀ {members : List (String × Value)}, Value.WellFormedMembers members →
      Value.membersDepth members ≤ room →
      ∀ before : List (String × Value), (membersMarkup members).Shows c (.closed n p) →
        structOf room before c =
          .ok (.ofMembers (before.reverse ++ Value.trimmedMembers members))
  | [], _, _, before, h => by
    cases h
    simp [structOf, Value.trimmedMembers]
  | (name, value) :: members, wf, fits, before, h => by
    obtain ⟨q, q', i, c, rfl, inner, rest⟩ := h
    rw [Value.membersDepth] at fits
    have space : room ≠ 0 := by omega
    have member : memberOf room none none i = .ok (name.toList, value.trimmed) :=
      memberOf_markup space (fun i q shows => valueOf_markup wf.1 (by omega) shows) inner
    rw [structOf, if_pos (by rfl), member]
    simp only [except_ok_bind]
    rw [structOf_markup wf.2 (by omega) _ rest]
    simp [Value.trimmedMembers]

end

/-! ## Calls -/

lemma nextTag_element (name : List Char) (p : Nat) (inner rest : Content) :
    nextTag (.element name p inner rest) = .element name p inner rest := rfl

lemma onlyValue_markup {v : Value} {c : Content} {n : List Char} {p : Nat} (wf : v.WellFormed)
    (fits : v.depth ≤ maxDepth)
    (h : (Markup.element "value".toList v.markup .nil).Shows c (.closed n p)) :
    onlyValue "param" c = .ok v.trimmed := by
  obtain ⟨q, q', i, c, rfl, inner, rest⟩ := h
  rw [onlyValue, nextTag_element]
  simp only [valueOf_markup wf fits inner, expectClose_nil rest, except_ok_bind]
  rfl

lemma paramsOf_markup {params : List Value} {c : Content} {n : List Char} {p : Nat}
    (wf : ∀ v ∈ params, v.WellFormed) (fits : ∀ v ∈ params, v.depth ≤ maxDepth)
    (before : List Value) (h : (paramsMarkup params).Shows c (.closed n p)) :
    paramsOf before c = .ok (before.reverse ++ params.map Value.trimmed) := by
  induction params generalizing before c with
  | nil =>
    cases h
    simp [paramsOf]
  | cons param params ih =>
    obtain ⟨q, q', i, c, rfl, inner, rest⟩ := h
    obtain ⟨wfHead, wf⟩ := List.forall_mem_cons.1 wf
    obtain ⟨fitsHead, fits⟩ := List.forall_mem_cons.1 fits
    rw [paramsOf, if_pos (by rfl), onlyValue_markup wfHead fitsHead inner, except_ok_bind,
      ih wf fits _ rest]
    simp

lemma callOf_markup {method : String} {params : List Value} {c : Content} {n : List Char} {p : Nat}
    (named : Text.trim method ≠ "") (wf : ∀ v ∈ params, v.WellFormed)
    (fits : ∀ v ∈ params, v.depth ≤ maxDepth)
    (h : (textMarkup "methodName" method
      (.element "params".toList (paramsMarkup params) .nil)).Shows c (.closed n p)) :
    callOf c = .ok ⟨Text.trim method, params.map Value.trimmed⟩ := by
  obtain ⟨q, q', i, c, rfl, name, q₂, q₂', i₂, c₂, rfl, inner, rest⟩ := h
  have element : expectElement "methodName" (.element "methodName".toList q i
      (.element "params".toList q₂ i₂ c₂)) = .ok (i, .element "params".toList q₂ i₂ c₂) := rfl
  have nonempty : (Text.trim method).isEmpty = false := by
    simpa using named
  have trimmed : String.ofList (Text.trimChars method.toList) = Text.trim method := rfl
  rw [callOf, element]
  simp only [except_ok_bind, readText_ofText name, trimmed, nonempty]
  rw [nextTag_element]
  simp only [paramsOf_markup wf fits [] inner, except_ok_bind, expectClose_nil rest]
  rfl

lemma contentOf_toUTF8 (s : String) : contentOf s.toUTF8 = .ok (.ofChars s.toList) := by
  have decoded : String.fromUTF8? s.toUTF8 = some s :=
    dif_pos s.isValidUTF8
  rw [contentOf, Text.ofUtf8, decoded]

/-- What is written for a call is read as this call, its arguments trimmed. -/
lemma decodeCall_document {method : String} {params : List Value} (named : Text.trim method ≠ "")
    (wf : ∀ v ∈ params, v.WellFormed) (fits : ∀ v ∈ params, v.depth ≤ maxDepth) :
    decodeCall (String.ofList (Xml.document (callMarkup method params).events)).toUTF8 =
      .ok ⟨Text.trim method, params.map Value.trimmed⟩ := by
  obtain ⟨p, c, last, shown, q, q', i, c', rfl, inner, rest⟩ :=
    Markup.ofChars_document (readable_call method params)
  have element : expectElement "methodCall" (.aside .instruction p
      (.element "methodCall".toList q i c')) = .ok (i, c') := rfl
  rw [decodeCall, contentOf_toUTF8, String.toList_ofList, shown, except_ok_bind, element,
    except_ok_bind]
  exact callOf_markup named wf fits inner

/-- Writing a call succeeds exactly if no argument is too deep, and fails for its depth otherwise.
A call that is written is read back as it is, up to the blanks around the name of the method and
around binary data and points in time. -/
theorem encodeCall_roundTrip {method : String} {params : List Value}
    (named : Text.trim method ≠ "") (wf : ∀ v ∈ params, v.WellFormed) :
    ((∃ doc, encodeCall method params = .ok doc) ↔ ∀ v ∈ params, v.depth ≤ maxDepth) ∧
      (¬ (∀ v ∈ params, v.depth ≤ maxDepth) → encodeCall method params = .error .tooDeep) ∧
      ∀ doc, encodeCall method params = .ok doc →
        decodeCall doc.toUTF8 = .ok ⟨Text.trim method, params.map Value.trimmed⟩ := by
  have fits : ∀ doc, encodeCall method params = .ok doc → ∀ v ∈ params, v.depth ≤ maxDepth := by
    intro doc written
    by_contra deep
    rw [encodeCall_eq_error method deep] at written
    cases written
  refine ⟨⟨fun ⟨doc, written⟩ => fits doc written, fun h => ⟨_, encodeCall_eq_ok method h⟩⟩,
    encodeCall_eq_error method, fun doc written => ?_⟩
  have h := fits doc written
  rw [encodeCall_eq_ok method h] at written
  cases written
  exact decodeCall_document named wf h

/-- Arguments of several kinds: a struct with names that are empty or made of markup, binary data
with blanks around it, NaN in an array, and a text with blanks. -/
def mixedArguments : List Value :=
  [.struct [("", .nil), ("</name>&", .array [.base64 " AQ==\n", .double (0.0 / 0.0), .array []])],
    .text " <b> & \"c\" "]

theorem encodeCall_roundTrip_mixed :
    Text.trim " job.run\t" ≠ "" ∧ (∀ v ∈ mixedArguments, v.WellFormed) ∧
      (∃ doc, encodeCall " job.run\t" mixedArguments = .ok doc) ∧
      ∀ doc, encodeCall " job.run\t" mixedArguments = .ok doc →
        decodeCall doc.toUTF8 = .ok ⟨Text.trim " job.run\t", mixedArguments.map Value.trimmed⟩ := by
  have named : Text.trim " job.run\t" ≠ "" := by decide
  have wf : ∀ v ∈ mixedArguments, v.WellFormed := by
    have ordered : "" < "</name>&" := by decide
    intro v hv
    rcases List.mem_cons.1 hv with rfl | hv
    · refine ⟨List.pairwise_pair.2 ordered, ?_⟩
      simp only [Value.WellFormedMembers, Value.WellFormed, Value.WellFormedItems, and_self]
    · obtain rfl := List.mem_singleton.1 hv
      trivial
  have fits : ∀ v ∈ mixedArguments, v.depth ≤ maxDepth := by
    simp [mixedArguments, Value.depth, Value.itemsDepth, Value.membersDepth, maxDepth]
  obtain ⟨succeeds, -, back⟩ := encodeCall_roundTrip named wf
  exact ⟨named, wf, succeeds.2 fits, back⟩

end PerfGate.XmlRpc
