import PerfGate.Proofs.Xml.Escape
import PerfGate.Proofs.XmlRpc.Shape

/-!
# What a reading discards

Only two things in a document that is read may count for nothing (`Discards`): characters other than
blanks in front of the element of a type, and all but the last of the names and the values of a
member. A document in which nothing is discarded is exact (`kept_of_decoded`): every value is
characters only, or one element of a type with nothing but blanks, comments and the like around it,
and every member has one name and one value. `decodeResponse_discards` is a response that is read
without the characters in it.
-/

namespace PerfGate.XmlRpc

open Xml (Content Piece)

variable {pieces front back : List Piece} {piece node : Piece} {cs raw : List Char} {room depth : ℕ}
  {v : Value} {c : Content}

/-! ## Exact elements -/

/-- The piece counts for nothing: it is markup that is neither an element nor characters, or its
characters are blanks. -/
def IsBlankPiece : Piece → Prop
  | .aside .. => True
  | .text raw _ => ∃ cs, Xml.unescape raw = .ok cs ∧ cs.all isLayout
  | .cdata cs _ => cs.all isLayout
  | .element .. | .empty .. => False

/-- A value is spelled by characters only, or is one element of a type with blanks around it. -/
def IsExactValue (pieces : List Piece) : Prop :=
  (∃ cs, Characters pieces cs) ∨
    ∃ front node back, pieces = front ++ node :: back ∧
      (∃ name ∈ node.name?, (ValueType.ofName? name).isSome) ∧
      (∀ piece ∈ front, IsBlankPiece piece) ∧ ∀ piece ∈ back, IsBlankPiece piece

/-- A member has one name and one value, and blanks besides. -/
structure IsExactMember (pieces : List Piece) : Prop where
  parts : ∀ piece ∈ pieces, IsBlankPiece piece ∨ isElement "name" piece ∨ isElement "value" piece
  name : pieces.countP (isElement "name") = 1
  value : pieces.countP (isElement "value") = 1

/-- Nothing in the element of a value or of a member counts for nothing, but for blanks. -/
def IsExact (_depth : ℕ) : Piece → Prop
  | .element name _ inner =>
    (isNamed name "value" → IsExactValue inner.pieces) ∧
      (isNamed name "member" → IsExactMember inner.pieces)
  | _ => True

/-- The piece is an element. -/
def isNode (piece : Piece) : Bool :=
  piece.name?.isSome

/-- The two ways in which something in an element is discarded. -/
inductive Discards : Piece → Prop
  | characters {name : List Char} {p : ℕ} {inner : Content} {piece : Piece}
      (value : isNamed name "value") (typed : inner.pieces.any isNode)
      (before : piece ∈ inner.pieces.takeWhile (!isNode ·)) (visible : ¬ IsBlankPiece piece) :
      Discards (.element name p inner)
  | part {name : List Char} {p : ℕ} {inner : Content} {part : String}
      (member : isNamed name "member") (kind : part = "name" ∨ part = "value")
      (second : 1 < inner.pieces.countP (isElement part)) : Discards (.element name p inner)

/-! ## Pieces -/

lemma isNode_of_characters (h : Characters pieces cs) : ∀ piece ∈ pieces, isNode piece = false := by
  induction h with
  | nil => exact List.forall_mem_nil _
  | text _ _ ih => exact List.forall_mem_cons.2 ⟨rfl, ih⟩
  | cdata _ ih => exact List.forall_mem_cons.2 ⟨rfl, ih⟩
  | comment _ ih => exact List.forall_mem_cons.2 ⟨rfl, ih⟩

lemma isNode_of_isBlankPiece (h : IsBlankPiece piece) : isNode piece = false := by
  cases piece with
  | element _ _ _ => exact h.elim
  | empty _ _ => exact h.elim
  | _ => rfl

lemma isNode_of_readsType (h : ReadsType room node v) : isNode node := by
  cases h <;> rfl

/-- What stands in front of the first element. -/
lemma takeWhile_not_isNode (plain : ∀ piece ∈ front, isNode piece = false) (named : isNode node) :
    (front ++ node :: back).takeWhile (!isNode ·) = front := by
  have skipped : ∀ piece ∈ front, (!isNode piece) = true := by
    intro piece among
    rw [plain piece among]
    rfl
  rw [List.takeWhile_append_of_pos skipped, List.takeWhile_cons_of_neg (by rw [named]; decide),
    List.append_nil]

lemma escape_of_layout (h : raw.all isLayout) : Xml.escape raw = raw := by
  induction raw with
  | nil => rfl
  | cons c raw ih =>
    obtain ⟨blank, layout⟩ := Bool.and_eq_true_iff.1 h
    have single : Xml.escapeChar c = [c] := by
      simp only [isLayout, Bool.or_eq_true, beq_iff_eq] at blank
      rcases blank with (((rfl | rfl) | rfl) | rfl) | rfl <;> rfl
    change Xml.escapeChar c ++ Xml.escape raw = c :: raw
    rw [single, ih layout]
    rfl

lemma isBlankPiece_of_isLayoutPiece (h : isLayoutPiece piece) : IsBlankPiece piece := by
  cases piece with
  | aside _ _ => trivial
  | text raw p =>
    have read := Xml.unescape_escape raw
    rw [escape_of_layout h] at read
    exact ⟨raw, read, h⟩
  | _ => cases h

/-! ## Values and members -/

lemma isExactValue_iff (h : ReadsValue room pieces v) : IsExactValue pieces ↔
    (pieces.any isNode → ∀ piece ∈ pieces.takeWhile (!isNode ·), IsBlankPiece piece) := by
  constructor
  · rintro (⟨cs, spelled⟩ | ⟨front, node, back, rfl, ⟨name, named, -⟩, before, -⟩) typed
    · obtain ⟨node, among, is⟩ := List.any_eq_true.1 typed
      rw [isNode_of_characters spelled node among] at is
      cases is
    · have is : isNode node := by
        rw [isNode, named]
        rfl
      have plain := fun piece among => isNode_of_isBlankPiece (before piece among)
      rwa [takeWhile_not_isNode plain is]
  · intro blank
    cases h with
    | characters spelled => exact .inl ⟨_, spelled⟩
    | @typed front back cs node v spelled typed layout =>
      have is := isNode_of_readsType typed
      have any : (front ++ node :: back).any isNode :=
        List.any_eq_true.2 ⟨node, List.mem_append_right _ List.mem_cons_self, is⟩
      have before := blank any
      rw [takeWhile_not_isNode (isNode_of_characters spelled) is] at before
      refine .inr ⟨front, node, back, rfl, ?_, before,
        fun piece among => isBlankPiece_of_isLayoutPiece (layout piece among)⟩
      cases typed with
      | element named _ => exact ⟨_, rfl, by rw [named]; rfl⟩
      | empty named _ => exact ⟨_, rfl, by rw [named]; rfl⟩

lemma isExactMember_iff (h : ReadsMember pieces) : IsExactMember pieces ↔
    pieces.countP (isElement "name") ≤ 1 ∧ pieces.countP (isElement "value") ≤ 1 := by
  constructor
  · intro exact
    exact ⟨exact.name.le, exact.value.le⟩
  · rintro ⟨name, value⟩
    refine ⟨?_, Nat.le_antisymm name h.named, Nat.le_antisymm value h.valued⟩
    intro piece among
    exact (h.parts piece among).imp_left isBlankPiece_of_isLayoutPiece

/-- An element that is read is exact unless it discards something. -/
lemma isExact_iff (h : Proper depth piece) : IsExact depth piece ↔ ¬ Discards piece := by
  cases piece with
  | element name p inner =>
    have proper : ProperElement depth name inner := h
    constructor
    · rintro ⟨value, member⟩ discards
      cases discards with
      | characters is typed before visible =>
        obtain ⟨v, holds⟩ := (proper.value is).2
        exact visible ((isExactValue_iff holds).1 (value is) typed _ before)
      | part is kind second =>
        obtain ⟨-, names, values⟩ := member is
        rcases kind with rfl | rfl <;> omega
    · intro kept
      refine ⟨fun is => ?_, fun is => ?_⟩
      · obtain ⟨v, holds⟩ := (proper.value is).2
        refine (isExactValue_iff holds).2 fun typed piece before => ?_
        by_contra visible
        exact kept (.characters is typed before visible)
      · refine (isExactMember_iff (proper.member is)).2 ⟨?_, ?_⟩
        · exact not_lt.1 fun second => kept (.part is (.inl rfl) second)
        · exact not_lt.1 fun second => kept (.part is (.inr rfl) second)
  | _ => exact iff_of_true trivial nofun

/-! ## Documents -/

/-- What is known of the content of the root element of a document that is read: the shape of every
value and member in it, and that these are exact if and only if nothing is discarded. -/
structure Kept (inner : Content) : Prop where
  proper : Every Proper 0 inner
  exact_iff : Every IsExact 0 inner ↔ Every (fun _ piece => ¬ Discards piece) 0 inner

lemma kept_of_proper (h : Every Proper 0 c) : Kept c where
  proper := h
  exact_iff := ⟨h.imp₂ fun _ _ proper exact => (isExact_iff proper).1 exact,
    h.imp₂ fun _ _ proper kept => (isExact_iff proper).2 kept⟩

/-- All that is discarded when a document is read are characters in front of the element of a type
and second names and values of members. -/
theorem kept_of_decoded (bytes : ByteArray) :
    (∀ call, decodeCall bytes = .ok call → ∃ document inner rest,
        contentOf bytes = .ok document ∧
          expectElement "methodCall" document = .ok (inner, rest) ∧ Kept inner) ∧
      ∀ response, decodeResponse bytes = .ok response → ∃ document inner rest,
        contentOf bytes = .ok document ∧
          expectElement "methodResponse" document = .ok (inner, rest) ∧ Kept inner := by
  constructor
  · intro call h
    obtain ⟨document, inner, rest, content, root, read⟩ := decodeCall_inv h
    exact ⟨document, inner, rest, content, root, kept_of_proper (callOf_proper read)⟩
  · intro response h
    obtain ⟨document, inner, rest, content, root, read⟩ := decodeResponse_inv h
    exact ⟨document, inner, rest, content, root, kept_of_proper (responseOf_proper read)⟩

/-- A response with characters in front of the element of a string. -/
def junkResponse : String :=
  "<methodResponse><params><param><value>junk<string>s</string></value></param></params>" ++
    "</methodResponse>"

/-- A call with a comment in front of a struct, whose member has its value first. -/
def tidyCall : String :=
  "<methodCall><methodName>m</methodName><params><param><value> <!-- one --><struct><member>" ++
    "<value>x</value><name>a</name></member></struct></value></param></params></methodCall>"

set_option maxRecDepth 4096 in
theorem kept_of_decoded_tidyCall :
    decodeCall tidyCall.toUTF8 = .ok ⟨"m", [.ofMembers [("a", .text "x")]]⟩ ∧
      (∃ document inner rest, contentOf tidyCall.toUTF8 = .ok document ∧
        expectElement "methodCall" document = .ok (inner, rest) ∧ Kept inner) ∧
      decodeResponse junkResponse.toUTF8 = .ok (.success (.text "s")) ∧
      ∃ document inner rest, contentOf junkResponse.toUTF8 = .ok document ∧
        expectElement "methodResponse" document = .ok (inner, rest) ∧ Kept inner := by
  have call : decodeCall tidyCall.toUTF8 = .ok ⟨"m", [.ofMembers [("a", .text "x")]]⟩ := by
    with_unfolding_all rfl
  have response : decodeResponse junkResponse.toUTF8 = .ok (.success (.text "s")) := by
    with_unfolding_all rfl
  exact ⟨call, (kept_of_decoded _).1 _ call, response, (kept_of_decoded _).2 _ response⟩

/-- The content of the value in this response. -/
def junkContent : Content :=
  .text "junk".toList 42 (.element "string".toList 50
    (.text "s".toList 51 (.closed "string".toList 60)) (.closed "value".toList 68))

/-- The content of the root element of this response. -/
def junkRoot : Content :=
  .element "params".toList 24
    (.element "param".toList 31
      (.element "value".toList 38 junkContent (.closed "param".toList 76))
      (.closed "params".toList 85))
    (.closed "methodResponse".toList 102)

lemma not_isExactValue_junkContent : ¬ IsExactValue junkContent.pieces := by
  rintro (⟨cs, spelled⟩ | ⟨front, node, back, is, ⟨name, named, -⟩, before, -⟩)
  · cases spelled with
    | text _ more => cases more
  · cases front with
    | nil =>
      cases is
      cases named
    | cons first front =>
      have head : Piece.text "junk".toList 42 = first := (List.cons.inj is).1
      subst head
      obtain ⟨cs, read, blank⟩ := before _ List.mem_cons_self
      have same : Xml.unescape "junk".toList = .ok "junk".toList := rfl
      rw [same] at read
      cases read
      exact absurd blank (by decide)

/-- A response with characters in front of an element of a type is read, without the characters. -/
theorem decodeResponse_discards :
    decodeResponse junkResponse.toUTF8 = .ok (.success (.text "s")) ∧
      ∃ document inner rest, contentOf junkResponse.toUTF8 = .ok document ∧
        expectElement "methodResponse" document = .ok (inner, rest) ∧
          ¬ Every IsExact 0 inner := by
  refine ⟨?_, .element "methodResponse".toList 16 junkRoot (.stopped 102 .endOfDocument), junkRoot,
    .stopped 102 .endOfDocument, ?_, ?_, ?_⟩
  · with_unfolding_all rfl
  · with_unfolding_all rfl
  · rfl
  · rintro ⟨-, ⟨-, ⟨⟨exact, -⟩, -⟩, -⟩, -⟩
    exact not_isExactValue_junkContent (exact rfl)

end PerfGate.XmlRpc
