import PerfGate.Proofs.XmlRpc.RoundTrip

/-!
# Responses read back

`resultMarkup` and `faultMarkup` are what a document holds for a response. A result that is not too
deep is written and read as the result itself, trimmed (`decodeResponse_result`); a fault is always
written, and read as this fault (`decodeResponse_fault`).
-/

namespace PerfGate.XmlRpc

open Xml (Content Markup)

/-- The element of a response with a result. -/
def resultMarkup (value : Value) : Markup :=
  .element "methodResponse".toList (.element "params".toList (paramsMarkup [value]) .nil) .nil

/-- The element of a response that reports a fault. -/
def faultMarkup (code : Int64) (message : String) : Markup :=
  .element "methodResponse".toList
    (.element "fault".toList (.element "value".toList (faultValue code message).markup .nil) .nil)
    .nil

/-! ## Writing -/

lemma encodeResponse_eq_ok {value : Value} (h : value.depth ≤ maxDepth) :
    encodeResponse value = .ok (String.ofList (Xml.document (resultMarkup value).events)) := by
  rw [encodeResponse, paramEvents_eq_ok (List.forall_mem_singleton.2 h), resultMarkup,
    events_element, events_element]
  rfl

lemma encodeResponse_eq_error {value : Value} (h : ¬ value.depth ≤ maxDepth) :
    encodeResponse value = .error .tooDeep := by
  have deep : ¬ ∀ v ∈ [value], v.depth ≤ maxDepth := fun all => h (all value List.mem_cons_self)
  rw [encodeResponse, paramEvents_eq_error deep]
  rfl

lemma faultCode_lt_faultString : "faultCode" < "faultString" := by decide

/-- The members of a fault stand in the order of their names. -/
lemma faultValue_eq (code : Int64) (message : String) : faultValue code message =
    .struct [("faultCode", .int code), ("faultString", .text message)] :=
  Value.ofMembers_of_pairwise (List.pairwise_pair.2 faultCode_lt_faultString)

lemma depth_faultValue (code : Int64) (message : String) :
    (faultValue code message).depth ≤ maxDepth := by
  rw [faultValue_eq]
  simp [Value.depth, Value.membersDepth, maxDepth]

lemma encodeFault_eq_ok (code : Int64) (message : String) : encodeFault code message =
    .ok (String.ofList (Xml.document (faultMarkup code message).events)) := by
  rw [encodeFault, valueEvents_eq, within, if_pos (depth_faultValue code message), faultMarkup,
    events_element, events_element, events_element]
  rfl

lemma readable_result (value : Value) : (resultMarkup value).Readable :=
  ⟨by decide, ⟨by decide, readable_params [value], trivial⟩, trivial⟩

lemma readable_fault (code : Int64) (message : String) : (faultMarkup code message).Readable :=
  ⟨by decide, ⟨by decide, ⟨by decide, readable_value _, trivial⟩, trivial⟩, trivial⟩

/-! ## Reading -/

variable {c : Content} {n : List Char} {p : Nat}

/-- The value of a fault, which is a struct of an integer and a text, is read as it is. -/
lemma wellFormed_faultValue (code : Int64) (message : String) :
    (faultValue code message).WellFormed := by
  rw [faultValue_eq]
  exact ⟨List.pairwise_pair.2 faultCode_lt_faultString, trivial, trivial, trivial⟩

lemma faultOf_faultValue (code : Int64) (message : String) :
    faultOf (faultValue code message).trimmed = .ok (.fault code message) := by
  rw [faultValue_eq]
  rfl

/-- The one value in its element, if what the element holds is read as `v`. -/
lemma onlyValue_of_shows {name : String} {m : Markup} {v : Value}
    (read : ∀ i q, m.Shows i (.closed "value".toList q) → valueOf maxDepth [] i = .ok v)
    (h : (Markup.element "value".toList m .nil).Shows c (.closed n p)) :
    onlyValue name c = .ok v := by
  obtain ⟨q, q', i, c, rfl, inner, rest⟩ := h
  rw [onlyValue, nextTag_element]
  simp only [read i q' inner, expectClose_nil rest, except_ok_bind]
  rfl

lemma responseOf_result {m : Markup} {v : Value}
    (read : ∀ i q, m.Shows i (.closed "value".toList q) → valueOf maxDepth [] i = .ok v)
    (h : (Markup.element "params".toList
      (.element "param".toList (.element "value".toList m .nil) .nil) .nil).Shows c
        (.closed n p)) :
    responseOf c = .ok (.success v) := by
  obtain ⟨q, q', params, c, rfl, ⟨q₂, q₂', param, c₂, rfl, inner, rest₂⟩, rest⟩ := h
  have result : resultOf (.element "param".toList q₂ param c₂) = .ok v := by
    rw [resultOf, nextTag_element]
    simp only [onlyValue_of_shows read inner, except_ok_bind, expectClose_nil rest₂]
    rfl
  exact responseOf_of_answers (.params result) (expectClose_nil rest)

lemma responseOf_fault {code : Int64} {message : String}
    (h : (Markup.element "fault".toList
      (.element "value".toList (faultValue code message).markup .nil) .nil).Shows c (.closed n p)) :
    responseOf c = .ok (.fault code message) := by
  obtain ⟨q, q', value, c, rfl, inner, rest⟩ := h
  have only : onlyValue "fault" value = .ok (faultValue code message).trimmed :=
    onlyValue_of_shows (fun _ _ => valueOf_markup (wellFormed_faultValue code message)
      (depth_faultValue code message)) inner
  exact responseOf_of_answers (.fault only (faultOf_faultValue code message))
    (expectClose_nil rest)

/-- What is written in the root element of a response is read as the response. -/
lemma decodeResponse_document {inner : Markup} {response : Response}
    (readable : (Markup.element "methodResponse".toList inner .nil).Readable)
    (read : ∀ c p, inner.Shows c (.closed "methodResponse".toList p) →
      responseOf c = .ok response) :
    decodeResponse (String.ofList (Xml.document
      (Markup.element "methodResponse".toList inner .nil).events)).toUTF8 = .ok response := by
  obtain ⟨p, c, last, shown, q, q', i, c', rfl, shows, rest⟩ := Markup.ofChars_document readable
  have element : expectElement "methodResponse" (.aside .instruction p
      (.element "methodResponse".toList q i c')) = .ok (i, c') := rfl
  rw [decodeResponse, contentOf_toUTF8, String.toList_ofList, shown, except_ok_bind, element,
    except_ok_bind]
  exact read i q' shows

/-- What is written for a result is read as this result, trimmed. -/
lemma decodeResponse_result {value : Value} (wf : value.WellFormed)
    (fits : value.depth ≤ maxDepth) :
    decodeResponse (String.ofList (Xml.document (resultMarkup value).events)).toUTF8 =
      .ok (.success value.trimmed) :=
  decodeResponse_document (readable_result value) fun _ _ shows =>
    responseOf_result (fun _ _ => valueOf_markup wf fits) shows

/-- What is written for a fault is read as this fault. -/
lemma decodeResponse_fault (code : Int64) (message : String) :
    decodeResponse (String.ofList (Xml.document (faultMarkup code message).events)).toUTF8 =
      .ok (.fault code message) :=
  decodeResponse_document (readable_fault code message) fun _ _ shows => responseOf_fault shows

/-- A result that is not too deep is written and read back as this result, its binary data and
points in time trimmed. A fault is always written and read back as the same fault. What is written
for the one is not what is written for the other. -/
theorem responses_roundTrip {value : Value} (wf : value.WellFormed) (fits : value.depth ≤ maxDepth)
    (code : Int64) (message : String) :
    ∃ result fault, encodeResponse value = .ok result ∧ encodeFault code message = .ok fault ∧
      decodeResponse result.toUTF8 = .ok (.success value.trimmed) ∧
      decodeResponse fault.toUTF8 = .ok (.fault code message) ∧ result ≠ fault := by
  have succeeds := decodeResponse_result wf fits
  have fails := decodeResponse_fault code message
  refine ⟨_, _, encodeResponse_eq_ok fits, encodeFault_eq_ok code message, succeeds, fails, ?_⟩
  intro same
  rw [same, fails] at succeeds
  cases succeeds

/-- A result that has the members of a fault, and one more inside. -/
def faultLikeResult : Value :=
  .struct [("faultCode", .int 4), ("faultString", .array [.text "<fault>", .dateTime " 2026 "])]

theorem responses_roundTrip_faultLike :
    faultLikeResult.WellFormed ∧ faultLikeResult.depth ≤ maxDepth ∧
      ∃ result fault, encodeResponse faultLikeResult = .ok result ∧
        encodeFault (-4294967297) "</fault> & \"more\"" = .ok fault ∧
        decodeResponse result.toUTF8 = .ok (.success faultLikeResult.trimmed) ∧
        decodeResponse fault.toUTF8 = .ok (.fault (-4294967297) "</fault> & \"more\"") ∧
        result ≠ fault := by
  have wf : faultLikeResult.WellFormed := by
    refine ⟨List.pairwise_pair.2 faultCode_lt_faultString, ?_⟩
    simp only [Value.WellFormedMembers, Value.WellFormed, Value.WellFormedItems, and_self]
  have fits : faultLikeResult.depth ≤ maxDepth := by
    simp [faultLikeResult, Value.depth, Value.itemsDepth, Value.membersDepth, maxDepth]
  exact ⟨wf, fits, responses_roundTrip wf fits _ _⟩

end PerfGate.XmlRpc
