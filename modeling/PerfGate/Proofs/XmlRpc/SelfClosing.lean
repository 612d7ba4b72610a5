import PerfGate.Proofs.XmlRpc.Agreement
import PerfGate.Proofs.XmlRpc.Truncation

/-!
# Elements without content

An element without content can be spelled by a start and an end tag or by a self-closing tag. In
nearly all documents it makes no difference which of them is used (`spelling_compares`). The
exceptions are an array and a value that stands too deep, of which only the self-closing tag is
read, and a point in time, of which only the start and the end tag are read
(`decodeResponse_spelling_differs`).

What is known of every element of a document that is read (`Proper`) excludes the spelling that is
refused; so in a document that is read an element that is not ordinary is spelled in the other way.
-/

namespace PerfGate.XmlRpc

open Xml (Content Event IsPlace)

variable {α : Type} {depth : ℕ} {name tag : List Char} {c c' : Content} {p q : ℕ}

/-- Where a self-closing tag of the element is read, its start and end tag may be refused. -/
def RefusedPair (depth : ℕ) (name : List Char) : Prop :=
  name = "array".toList ∨ name = "value".toList ∧ maxDepth < depth

/-- How the result of a document with a start and an end tag of the element, which stands inside so
many arrays and structs, compares to the result with a self-closing tag. -/
inductive Compares (depth : ℕ) (name : List Char) :
    Except CodecError α → Except CodecError α → Prop
  | same {x y : Except CodecError α} (agree : Agree x y) : Compares depth name x y
  | single {e : CodecError} {a : α} (refused : RefusedPair depth name) :
      Compares depth name (.error e) (.ok a)
  | pair {e : CodecError} {a : α} (refused : name = "dateTime.iso8601".toList) :
      Compares depth name (.ok a) (.error e)

/-- What is asked of a function that reads the content of a root element. -/
structure ReadsContent (f : Content → Except CodecError α) : Prop where
  agree : ∀ {c c' : Content}, Alike Ordinary 0 c c' → Agree (f c) (f c')
  proper : ∀ {c : Content} {a : α}, f c = .ok a → Every Proper 0 c
  closed : ∀ name q, ∃ e, f (.closed name q) = .error e

lemma readsContent_callOf : ReadsContent callOf where
  agree := callOf_agree
  proper := callOf_proper
  closed _ _ := ⟨_, rfl⟩

lemma readsContent_responseOf : ReadsContent responseOf where
  agree := responseOf_agree
  proper := responseOf_proper
  closed _ _ := ⟨_, rfl⟩

lemma Proper.not_refusedPair (h : Proper depth (.element name p (.closed tag q))) :
    ¬ RefusedPair depth name := by
  have proper : ProperElement depth name (.closed tag q) := h
  rintro (rfl | ⟨rfl, deep⟩)
  · obtain ⟨piece, among, -⟩ := proper.array rfl
    cases among
  · have within := (proper.value rfl).1
    omega

lemma Proper.not_dateTime (h : Proper depth (.empty name p)) :
    name ≠ "dateTime.iso8601".toList := by
  rintro rfl
  cases h

lemma ordinary_of_not_refused (pair : ¬ RefusedPair depth name)
    (single : name ≠ "dateTime.iso8601".toList) : Ordinary depth name where
  array is := pair (.inl is)
  dateTime := single
  value is := not_lt.1 fun deep => pair (.inr ⟨is, deep⟩)

variable {f : Content → Except CodecError α}

section

variable (reads : ReadsContent f) (h : Alike (fun d n => d = depth ∧ n = name) 0 c c') {a : α}

include reads h

/-- If the content with the start and end tags is read, these are not refused. -/
lemma ReadsContent.alike_of_pair (read : f c = .ok a) (other : name ≠ "dateTime.iso8601".toList) :
    Alike Ordinary 0 c c' := by
  refine h.imp_left (reads.proper read) fun d n p tag q is proper => ?_
  exact ordinary_of_not_refused proper.not_refusedPair (is.2 ▸ other)

/-- If the content with the self-closing tag is read, this is not refused. -/
lemma ReadsContent.alike_of_single (read : f c' = .ok a) (other : ¬ RefusedPair depth name) :
    Alike Ordinary 0 c c' := by
  refine h.imp_right (reads.proper read) fun d n p is proper => ?_
  exact ordinary_of_not_refused (is.1 ▸ is.2 ▸ other) proper.not_dateTime

lemma ReadsContent.compares : Compares depth name (f c) (f c') := by
  cases pair : f c with
  | error e =>
    cases single : f c' with
    | error e' => exact .same rfl
    | ok b =>
      by_cases refused : RefusedPair depth name
      · exact .single refused
      · have agree := reads.agree (reads.alike_of_single h single refused)
        rw [pair, single] at agree
        exact .same agree
  | ok a =>
    by_cases time : name = "dateTime.iso8601".toList
    · cases single : f c' with
      | error e => exact .pair time
      | ok b =>
        have other : ¬ RefusedPair depth name := by
          rintro (is | ⟨is, -⟩) <;> exact absurd (time.symm.trans is) (by decide)
        have agree := reads.agree (reads.alike_of_single h single other)
        rw [pair, single] at agree
        exact .same agree
    · have agree := reads.agree (reads.alike_of_pair h pair time)
      rw [pair] at agree
      exact .same agree

end

lemma readRoot_compares {root : String} {document document' : List Char} (reads : ReadsContent f)
    (outside : levelsOf root.toList = 0)
    (h : Alike (fun d n => d = depth ∧ n = name) 0 (.ofChars document) (.ofChars document')) :
    Compares depth name (readRoot root f document) (readRoot root f document') := by
  have first := h.nextTag
  unfold readRoot expectElement
  generalize nextTag (.ofChars document) = d, nextTag (.ofChars document') = d' at first
  cases first with
  | element inside _ =>
    simp only
    split
    · rename_i named
      obtain rfl := eq_of_beq named
      rw [outside] at inside
      exact reads.compares inside
    · exact .same rfl
  | @spelled _ _ _ q _ tag _ _ _ _ =>
    simp only
    split
    -- a root element without content is refused in either spelling
    · obtain ⟨e, refused⟩ := reads.closed tag q
      refine .same ?_
      rw [except_ok_bind, refused]
      rfl
    · exact .same rfl
  | _ => exact .same rfl

/-- An element without content is read in the same way from a start and an end tag and from a
self-closing tag, wherever it stands in the one document or in the other, but for arrays, points in
time and values that stand too deep. -/
theorem spelling_compares {front pair single back : String} {events : List Event}
    {opened : List (List Char)} (isPair : IsPair name pair.toList)
    (isSingle : IsSelfClosing name single.toList)
    (place : IsPlace front.toList (pair ++ back).toList events opened ∨
      IsPlace front.toList (single ++ back).toList events opened) :
    Compares (levels opened) name (decodeCall (front ++ (pair ++ back)).toUTF8)
        (decodeCall (front ++ (single ++ back)).toUTF8) ∧
      Compares (levels opened) name (decodeResponse (front ++ (pair ++ back)).toUTF8)
        (decodeResponse (front ++ (single ++ back)).toUTF8) := by
  have alike : Alike (fun d n => d = levels opened ∧ n = name) 0
      (.ofChars (front ++ (pair ++ back)).toList) (.ofChars (front ++ (single ++ back)).toList) := by
    simp only [String.toList_append] at place ⊢
    exact alike_ofChars isPair isSingle place ⟨rfl, rfl⟩
  rw [decodeCall_eq, decodeResponse_eq]
  simp only [decodeRoot_toUTF8]
  exact ⟨readRoot_compares readsContent_callOf rfl alike,
    readRoot_compares readsContent_responseOf rfl alike⟩

/-- A response up to the element in its value. -/
def frontOfValue : String :=
  "<methodResponse><params><param><value>"

/-- The rest of that response. -/
def backOfValue : String :=
  "</value></param></params></methodResponse>"

/-- The elements around that one, the innermost first. -/
def openAtValue : List (List Char) :=
  ["value", "param", "params", "methodResponse"].map String.toList

/-- What the reader comes past in front of it. -/
def eventsToValue : List Event :=
  ["methodResponse", "params", "param", "value"].map fun name => .start name.toList

lemma isPlace_frontOfValue (w : List Char) :
    IsPlace frontOfValue.toList ('<' :: w) eventsToValue openAtValue := by
  refine ⟨38, ?_⟩
  repeat refine .past rfl ?_
  exact .here _

set_option maxRecDepth 4096 in
theorem spelling_compares_base64 :
    IsPair "base64".toList "<base64></base64>".toList ∧
      IsSelfClosing "base64".toList "<base64/>".toList ∧
        IsPlace frontOfValue.toList ("<base64/>" ++ backOfValue).toList eventsToValue openAtValue ∧
          Compares 0 "base64".toList
            (decodeResponse (frontOfValue ++ ("<base64></base64>" ++ backOfValue)).toUTF8)
            (decodeResponse (frontOfValue ++ ("<base64/>" ++ backOfValue)).toUTF8) ∧
            decodeResponse (frontOfValue ++ ("<base64/>" ++ backOfValue)).toUTF8 =
              .ok (.success (.base64 "")) := by
  have isPair : IsPair "base64".toList "<base64></base64>".toList := isPair_tags rfl
  have isSingle : IsSelfClosing "base64".toList "<base64/>".toList := isSelfClosing_tag rfl
  have place : IsPlace frontOfValue.toList ("<base64/>" ++ backOfValue).toList eventsToValue
      openAtValue := isPlace_frontOfValue _
  refine ⟨isPair, isSingle, place, ?_, ?_⟩
  · exact (spelling_compares isPair isSingle (.inr place)).2
  · with_unfolding_all rfl

/-- The element without content is the value in a response, and what is read of the response differs
between the spellings. -/
structure Differs (name pair single : String) (paired closed : Option Response) : Prop where
  isPair : IsPair name.toList pair.toList
  isSingle : IsSelfClosing name.toList single.toList
  place : IsPlace frontOfValue.toList (single ++ backOfValue).toList eventsToValue openAtValue
  ofPair : (decodeResponse (frontOfValue ++ (pair ++ backOfValue)).toUTF8).toOption = paired
  ofSingle : (decodeResponse (frontOfValue ++ (single ++ backOfValue)).toUTF8).toOption = closed
  differ : paired ≠ closed

set_option maxRecDepth 4096 in
/-- A point in time is read from a start and an end tag, but not from a self-closing tag; with an
array it is the other way round. -/
theorem decodeResponse_spelling_differs :
    Differs "dateTime.iso8601" "<dateTime.iso8601></dateTime.iso8601>" "<dateTime.iso8601/>"
        (some (.success (.dateTime ""))) none ∧
      Differs "array" "<array></array>" "<array/>" none (some (.success (.array []))) := by
  constructor
  · refine ⟨isPair_tags rfl, isSelfClosing_tag rfl, isPlace_frontOfValue _, ?_, ?_, nofun⟩
    · with_unfolding_all rfl
    · with_unfolding_all rfl
  · refine ⟨isPair_tags rfl, isSelfClosing_tag rfl, isPlace_frontOfValue _, ?_, ?_, nofun⟩
    · with_unfolding_all rfl
    · with_unfolding_all rfl

end PerfGate.XmlRpc
