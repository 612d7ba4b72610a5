import PerfGate.Proofs.XmlRpc.Reencoding
import PerfGate.Proofs.XmlRpc.RootElement

/-!
# The shape of what is read

A value that is read is spelled by characters, or stands in one element of a type, with characters
in front of it and layout behind it (`ReadsValue`). A member that is read holds names and values, at
least one of each (`ReadsMember`). All elements of a document that is read are of such a shape,
however deep they stand (`callOf_proper`, `responseOf_proper`).
-/

namespace PerfGate

namespace Xml

/-- The pieces of a content, up to its end. -/
def Content.pieces : Content → List Piece
  | stopped .. | closed .. => []
  | element name position inner rest => .element name position inner :: rest.pieces
  | empty name position rest => .empty name position :: rest.pieces
  | text raw position rest => .text raw position :: rest.pieces
  | cdata content position rest => .cdata content position :: rest.pieces
  | aside kind position rest => .aside kind position :: rest.pieces

/-- The name of an element. -/
def Piece.name? : Piece → Option (List Char)
  | element name .. | empty name _ => some name
  | text .. | cdata .. | aside .. => none

end Xml

namespace XmlRpc

open Xml (Content Piece)

/-! ## Elements at any depth -/

/-- The levels that an element adds for what it holds. -/
def levelsOf (name : List Char) : ℕ :=
  if isNamed name "array" || isNamed name "struct" then 1 else 0

/-- Every element in the content has the property, which may depend on the number of arrays and
structs around it. -/
def Every (P : ℕ → Piece → Prop) (depth : ℕ) : Content → Prop
  | .stopped .. | .closed .. => True
  | .element name position inner rest =>
    P depth (.element name position inner) ∧ Every P (depth + levelsOf name) inner ∧
      Every P depth rest
  | .empty name position rest => P depth (.empty name position) ∧ Every P depth rest
  | .text _ _ rest | .cdata _ _ rest | .aside _ _ rest => Every P depth rest

variable {P Q R : ℕ → Piece → Prop} {depth room : ℕ} {name tag : List Char} {c : Content}
  {v : Value} {p : ℕ}

lemma Every.imp₂ (h : ∀ depth piece, P depth piece → Q depth piece → R depth piece)
    (hP : Every P depth c) (hQ : Every Q depth c) : Every R depth c := by
  induction c generalizing depth with
  | stopped _ _ => trivial
  | closed _ _ => trivial
  | element name p inner rest ihInner ih =>
    obtain ⟨piece, inside, behind⟩ := hP
    obtain ⟨piece', inside', behind'⟩ := hQ
    exact ⟨h _ _ piece piece', ihInner inside inside', ih behind behind'⟩
  | empty name p rest ih => exact ⟨h _ _ hP.1 hQ.1, ih hP.2 hQ.2⟩
  | text raw p rest ih => exact ih hP hQ
  | cdata content p rest ih => exact ih hP hQ
  | aside kind p rest ih => exact ih hP hQ

/-- Layout holds no elements. -/
lemma every_of_nextTag_closed {n : List Char} {q : ℕ} (h : nextTag c = .closed n q) :
    Every P depth c := by
  induction c with
  | aside kind p rest ih => exact ih h
  | text raw p rest ih =>
    rw [nextTag] at h
    split at h
    · exact ih h
    · cases h
  | closed _ _ => trivial
  | _ => cases h

lemma every_of_expectClose {expected : String} (h : expectClose expected c = .ok ()) :
    Every P depth c := by
  obtain ⟨n, q, found⟩ := expectClose_inv h
  exact every_of_nextTag_closed found

/-- What comes behind layout is all that matters. -/
lemma every_of_nextTag (h : Every P depth (nextTag c)) : Every P depth c := by
  induction c with
  | aside kind p rest ih => exact ih h
  | text raw p rest ih =>
    rw [nextTag] at h
    split at h
    · exact ih h
    · exact h
  | _ => exact h

/-- Characters hold no elements. -/
lemma every_of_readText {before : List (List Char)} {cs : List Char}
    (h : readText name before c = .ok cs) : Every P depth c := by
  induction c generalizing before with
  | text raw p rest ih =>
    rw [readText] at h
    split at h
    · exact ih h
    · cases h
  | cdata content p rest ih => exact ih h
  | aside kind p rest ih =>
    cases kind with
    | comment => exact ih h
    | _ => cases h
  | closed _ _ => trivial
  | _ => cases h

/-! ## Forms -/

/-- The pieces spell the characters: runs of text, whose entities stand for characters, and literal
sections, with comments between them. -/
inductive Characters : List Piece → List Char → Prop
  | nil : Characters [] []
  | text {raw cs : List Char} {p : ℕ} {pieces : List Piece} {ds : List Char}
      (read : Xml.unescape raw = .ok cs) (more : Characters pieces ds) :
      Characters (.text raw p :: pieces) (cs ++ ds)
  | cdata {cs : List Char} {p : ℕ} {pieces : List Piece} {ds : List Char}
      (more : Characters pieces ds) : Characters (.cdata cs p :: pieces) (cs ++ ds)
  | comment {p : ℕ} {pieces : List Piece} {ds : List Char} (more : Characters pieces ds) :
      Characters (.aside .comment p :: pieces) ds

/-- The piece is an element of a type, and is read as the value. -/
inductive ReadsType (room : ℕ) : Piece → Value → Prop
  | element {name : List Char} {p : ℕ} {inner : Content} {t : ValueType} {v : Value}
      (named : ValueType.ofName? name = some t) (read : typedOf room name inner t = .ok v) :
      ReadsType room (.element name p inner) v
  | empty {name : List Char} {p : ℕ} {t : ValueType} {v : Value}
      (named : ValueType.ofName? name = some t) (empty : t.emptyValue? = some v) :
      ReadsType room (.empty name p) v

/-- What stands in the element of a value, and the value that is read from it. -/
inductive ReadsValue (room : ℕ) : List Piece → Value → Prop
  | characters {pieces : List Piece} {cs : List Char} (spelled : Characters pieces cs) :
      ReadsValue room pieces (.text (String.ofList cs))
  | typed {front back : List Piece} {cs : List Char} {node : Piece} {v : Value}
      (spelled : Characters front cs) (typed : ReadsType room node v)
      (layout : ∀ piece ∈ back, isLayoutPiece piece) : ReadsValue room (front ++ node :: back) v

/-- The piece is an element with this name. -/
def isElement (name : String) (piece : Piece) : Bool :=
  piece.name? == some name.toList

/-- What stands in the element of a member: names, values and layout. -/
structure ReadsMember (pieces : List Piece) : Prop where
  parts : ∀ piece ∈ pieces, isLayoutPiece piece ∨ isElement "name" piece ∨ isElement "value" piece
  named : 0 < pieces.countP (isElement "name")
  valued : 0 < pieces.countP (isElement "value")

/-- The shape of an element with its content, and how deep it may stand. -/
structure ProperElement (depth : ℕ) (name : List Char) (inner : Content) : Prop where
  value : isNamed name "value" →
    depth ≤ maxDepth ∧ ∃ v, ReadsValue (maxDepth - depth) inner.pieces v
  member : isNamed name "member" → ReadsMember inner.pieces
  array : isNamed name "array" → ∃ piece ∈ inner.pieces, isElement "data" piece

/-- The shape of an element that is read. A point in time is not read from a self-closing tag. -/
def Proper (depth : ℕ) : Piece → Prop
  | .element name _ inner => ProperElement depth name inner
  | .empty name _ => isNamed name "dateTime.iso8601" = false
  | .text .. | .cdata .. | .aside .. => True

/-! ## Values and members -/

lemma layout_of_expectClose {expected : String} (h : expectClose expected c = .ok ()) :
    ∀ piece ∈ c.pieces, isLayoutPiece piece := by
  obtain ⟨n, q, found⟩ := expectClose_inv h
  induction c with
  | aside kind p rest ih => exact List.forall_mem_cons.2 ⟨rfl, ih h found⟩
  | text raw p rest ih =>
    rw [nextTag] at found
    split at found
    · rename_i blank
      have behind : expectClose expected rest = .ok () := by
        rw [expectClose, found]
      exact List.forall_mem_cons.2 ⟨blank, ih behind found⟩
    · cases found
  | closed _ _ => exact List.forall_mem_nil _
  | _ => cases found

/-- The two forms of what is read behind the characters that were read before. -/
lemma valueOf_forms {before : List (List Char)} (h : valueOf room before c = .ok v) :
    (∃ cs, Characters c.pieces cs ∧ v = .text (String.ofList (before.reverse.flatten ++ cs))) ∨
      ∃ front cs node back, c.pieces = front ++ node :: back ∧ Characters front cs ∧
        ReadsType room node v ∧ ∀ piece ∈ back, isLayoutPiece piece := by
  induction c generalizing before with
  | text raw p rest ih =>
    obtain ⟨cs, read, h⟩ := valueOf_text_inv h
    rcases ih h with ⟨ds, spelled, rfl⟩ | ⟨front, ds, node, back, is, spelled, typed⟩
    · refine .inl ⟨cs ++ ds, .text read spelled, ?_⟩
      simp
    · exact .inr ⟨.text raw p :: front, _, node, back, congrArg _ is, .text read spelled, typed⟩
  | cdata content p rest ih =>
    rw [valueOf] at h
    rcases ih h with ⟨ds, spelled, rfl⟩ | ⟨front, ds, node, back, is, spelled, typed⟩
    · refine .inl ⟨content ++ ds, .cdata spelled, ?_⟩
      simp
    · exact .inr ⟨.cdata content p :: front, _, node, back, congrArg _ is, .cdata spelled, typed⟩
  | aside kind p rest ih =>
    cases kind with
    | comment =>
      rw [valueOf] at h
      rcases ih h with ⟨ds, spelled, rfl⟩ | ⟨front, ds, node, back, is, spelled, typed⟩
      · exact .inl ⟨ds, .comment spelled, rfl⟩
      · exact .inr ⟨.aside .comment p :: front, _, node, back, congrArg _ is, .comment spelled,
          typed⟩
    | _ => cases h
  | closed _ _ =>
    cases h
    exact .inl ⟨[], .nil, by rw [List.append_nil]⟩
  | element name p inner rest _ _ =>
    obtain ⟨t, named, read, ended⟩ := valueOf_element_inv h
    exact .inr ⟨[], [], _, rest.pieces, rfl, .nil, .element named read, layout_of_expectClose ended⟩
  | empty name p rest _ =>
    obtain ⟨⟨t, named, empty⟩, ended⟩ := valueOf_empty_inv h
    exact .inr ⟨[], [], _, rest.pieces, rfl, .nil, .empty named empty, layout_of_expectClose ended⟩
  | stopped _ _ => cases h

lemma readsValue_of_valueOf (h : valueOf room [] c = .ok v) : ReadsValue room c.pieces v := by
  rcases valueOf_forms h with
    ⟨cs, spelled, rfl⟩ | ⟨front, cs, node, back, is, spelled, typed, layout⟩
  · exact .characters spelled
  · rw [is]
    exact .typed spelled typed layout

/-- The piece has the name, if it has one. -/
lemma isElement_of_isNamed {expected : String} {piece : Piece} (h : isNamed name expected)
    (named : piece.name? = some name) : isElement expected piece := by
  obtain rfl := eq_of_beq h
  rw [isElement, named]
  exact beq_self_eq_true _

lemma countP_cons_pos {pieces : List Piece} {piece : Piece} {q : Piece → Bool}
    (h : 0 < pieces.countP q) : 0 < (piece :: pieces).countP q := by
  rw [List.countP_cons]
  omega

lemma countP_cons_of_holds {pieces : List Piece} {piece : Piece} {q : Piece → Bool}
    (h : q piece) : 0 < (piece :: pieces).countP q := by
  rw [List.countP_cons_of_pos h]
  exact Nat.succ_pos _

/-- The parts of a member that are still to be read are among its pieces. -/
lemma memberOf_forms {name? : Option (List Char)} {value? : Option Value} {m : List Char × Value}
    (h : memberOf room name? value? c = .ok m) :
    (∀ piece ∈ c.pieces,
        isLayoutPiece piece ∨ isElement "name" piece ∨ isElement "value" piece) ∧
      (name? = none → 0 < c.pieces.countP (isElement "name")) ∧
      (value? = none → 0 < c.pieces.countP (isElement "value")) := by
  induction c generalizing name? value? with
  | aside kind p rest ih =>
    rw [memberOf] at h
    obtain ⟨parts, named, valued⟩ := ih h
    exact ⟨List.forall_mem_cons.2 ⟨.inl rfl, parts⟩, fun unread => countP_cons_pos (named unread),
      fun unread => countP_cons_pos (valued unread)⟩
  | text raw p rest ih =>
    have blank : raw.all isLayout := by
      by_contra other
      rw [memberOf, if_neg other] at h
      cases h
    obtain ⟨parts, named, valued⟩ := ih (memberOf_text_inv h)
    exact ⟨List.forall_mem_cons.2 ⟨.inl blank, parts⟩,
      fun unread => countP_cons_pos (named unread), fun unread => countP_cons_pos (valued unread)⟩
  | element tag p inner rest _ ih =>
    rcases memberOf_element_inv h with ⟨is, cs, -, h⟩ | ⟨is, -, value, -, h⟩
    · have part : isElement "name" (.element tag p inner) := isElement_of_isNamed is rfl
      obtain ⟨parts, -, valued⟩ := ih h
      exact ⟨List.forall_mem_cons.2 ⟨.inr (.inl part), parts⟩, fun _ => countP_cons_of_holds part,
        fun unread => countP_cons_pos (valued unread)⟩
    · have part : isElement "value" (.element tag p inner) := isElement_of_isNamed is rfl
      obtain ⟨parts, named, -⟩ := ih h
      exact ⟨List.forall_mem_cons.2 ⟨.inr (.inr part), parts⟩,
        fun unread => countP_cons_pos (named unread), fun _ => countP_cons_of_holds part⟩
  | empty tag p rest ih =>
    rcases memberOf_empty_inv h with ⟨is, h⟩ | ⟨is, h⟩
    · have part : isElement "name" (.empty tag p) := isElement_of_isNamed is rfl
      obtain ⟨parts, -, valued⟩ := ih h
      exact ⟨List.forall_mem_cons.2 ⟨.inr (.inl part), parts⟩, fun _ => countP_cons_of_holds part,
        fun unread => countP_cons_pos (valued unread)⟩
    · have part : isElement "value" (.empty tag p) := isElement_of_isNamed is rfl
      obtain ⟨parts, named, -⟩ := ih h
      exact ⟨List.forall_mem_cons.2 ⟨.inr (.inr part), parts⟩,
        fun unread => countP_cons_pos (named unread), fun _ => countP_cons_of_holds part⟩
  | closed n q =>
    rw [memberOf] at h
    obtain ⟨rfl, rfl⟩ := member_inv h
    exact ⟨List.forall_mem_nil _, nofun, nofun⟩
  | cdata _ _ _ _ => cases h
  | stopped _ _ => cases h

lemma readsMember_of_memberOf {m : List Char × Value} (h : memberOf room none none c = .ok m) :
    ReadsMember c.pieces :=
  let ⟨parts, named, valued⟩ := memberOf_forms h
  ⟨parts, named rfl, valued rfl⟩

lemma exists_data_of_arrayOf (h : arrayOf room c = .ok v) :
    ∃ piece ∈ c.pieces, isElement "data" piece := by
  induction c with
  | aside kind p rest ih =>
    rw [arrayOf] at h
    obtain ⟨piece, among, data⟩ := ih h
    exact ⟨piece, List.mem_cons_of_mem _ among, data⟩
  | text raw p rest ih =>
    obtain ⟨piece, among, data⟩ := ih (arrayOf_text_inv h)
    exact ⟨piece, List.mem_cons_of_mem _ among, data⟩
  | element tag p inner rest _ _ =>
    have data : isElement "data" (.element tag p inner) :=
      isElement_of_isNamed (arrayOf_element_inv h).1 rfl
    exact ⟨_, List.mem_cons_self, data⟩
  | empty tag p rest _ =>
    have data : isElement "data" (.empty tag p) :=
      isElement_of_isNamed (arrayOf_empty_inv h).1 rfl
    exact ⟨_, List.mem_cons_self, data⟩
  | _ => cases h

/-! ## All elements -/

/-- An element that is neither a value nor a member nor an array may have any shape. -/
lemma ProperElement.of_other {inner : Content} (value : isNamed name "value" = false)
    (member : isNamed name "member" = false) (array : isNamed name "array" = false) :
    ProperElement depth name inner where
  value h := by
    rw [value] at h
    cases h
  member h := by
    rw [member] at h
    cases h
  array h := by
    rw [array] at h
    cases h

/-- The names of the types. -/
def typeNames : List (String × ValueType) :=
  [("int", .scalar .int), ("i4", .scalar .int), ("i8", .scalar .int),
    ("boolean", .scalar .boolean), ("double", .scalar .double), ("string", .scalar .text),
    ("base64", .scalar .base64), ("dateTime.iso8601", .scalar .dateTime), ("nil", .nil),
    ("array", .array), ("struct", .struct)]

/-- The name of a type that has only one. -/
lemma eq_of_ofName? {t : ValueType} {only : String} (h : ValueType.ofName? name = some t)
    (single : ∀ named ∈ typeNames, named.2 = t → named.1 = only) : name = only.toList := by
  have among : (String.ofList name, t) ∈ typeNames := by
    unfold ValueType.ofName? at h
    split at h
    all_goals cases h
    all_goals
      rename_i is
      rw [is]
      decide
  rw [← single _ among rfl, String.toList_ofList]

lemma isNamed_eq_false_of_type {t : ValueType} {other : String}
    (named : ValueType.ofName? name = some t) (none : ValueType.ofName? other.toList = none) :
    isNamed name other = false := by
  rw [isNamed, beq_eq_false_iff_ne]
  rintro rfl
  rw [none] at named
  cases named

/-- An element of a type is an array with its data, or of any shape. -/
lemma properElement_of_typedOf {inner : Content} {t : ValueType}
    (named : ValueType.ofName? name = some t) (read : typedOf room name inner t = .ok v) :
    ProperElement depth name inner where
  value h := by
    rw [isNamed_eq_false_of_type named rfl] at h
    cases h
  member h := by
    rw [isNamed_eq_false_of_type named rfl] at h
    cases h
  array h := by
    obtain rfl := eq_of_beq h
    cases named
    exact exists_data_of_arrayOf read

lemma proper_empty_of_type {t : ValueType} (named : ValueType.ofName? name = some t)
    (empty : t.emptyValue? = some v) : Proper depth (.empty name p) := by
  rw [Proper, isNamed, beq_eq_false_iff_ne]
  rintro rfl
  cases named
  cases empty

/-- A self-closing element that is no point in time is proper. -/
lemma proper_empty_of_isNamed {expected : String} (h : isNamed name expected)
    (other : isNamed expected.toList "dateTime.iso8601" = false) :
    Proper depth (.empty name p) := by
  obtain rfl := eq_of_beq h
  exact other

lemma ProperElement.of_valueOf {inner : Content} (level : room + depth = maxDepth)
    (h : valueOf room [] inner = .ok v) : ProperElement depth "value".toList inner where
  value _ := by
    obtain rfl : room = maxDepth - depth := by omega
    exact ⟨by omega, v, readsValue_of_valueOf h⟩
  member is := by cases is
  array is := by cases is

lemma ProperElement.of_memberOf {inner : Content} {m : List Char × Value}
    (h : memberOf room none none inner = .ok m) : ProperElement depth "member".toList inner where
  value is := by cases is
  member _ := readsMember_of_memberOf h
  array is := by cases is

mutual

/-- All elements in a value that is read are proper. The room for more levels and the number of
levels around add up to the greatest depth. -/
theorem valueOf_proper {before : List (List Char)} {room depth : ℕ} {v : Value}
    (level : room + depth = maxDepth) : ∀ {c : Content},
      valueOf room before c = .ok v → Every Proper depth c
  | .text raw p rest, h => by
    obtain ⟨cs, -, h⟩ := valueOf_text_inv h
    exact valueOf_proper (c := rest) level h
  | .cdata cs p rest, h => by
    rw [valueOf] at h
    exact valueOf_proper (c := rest) level h
  | .aside .comment p rest, h => by
    rw [valueOf] at h
    exact valueOf_proper (c := rest) level h
  | .closed .., _ => trivial
  | .element name p inner rest, h => by
    obtain ⟨t, named, read, ended⟩ := valueOf_element_inv h
    refine ⟨properElement_of_typedOf named read, ?_, every_of_expectClose ended⟩
    cases t with
    | scalar s =>
      obtain ⟨cs, text, -⟩ := except_bind_eq_ok.1 read
      exact every_of_readText text
    | nil =>
      obtain ⟨⟨⟩, nothing, -⟩ := except_bind_eq_ok.1 read
      exact every_of_expectClose nothing
    | array =>
      obtain rfl : name = "array".toList := eq_of_ofName? named (by decide)
      exact arrayOf_proper level read
    | struct =>
      obtain rfl : name = "struct".toList := eq_of_ofName? named (by decide)
      exact structOf_proper level read
  | .empty .., h => by
    obtain ⟨⟨t, named, empty⟩, ended⟩ := valueOf_empty_inv h
    exact ⟨proper_empty_of_type named empty, every_of_expectClose ended⟩
  | .stopped .., h => by cases h
  | .aside .instruction _ _, h => by cases h
  | .aside .doctype _ _, h => by cases h

theorem arrayOf_proper {room depth : ℕ} {v : Value} (level : room + depth = maxDepth) :
    ∀ {c : Content}, arrayOf room c = .ok v → Every Proper (depth + 1) c
  | .aside kind p rest, h => by
    rw [arrayOf] at h
    exact arrayOf_proper (c := rest) level h
  | .text raw p rest, h => arrayOf_proper (c := rest) level (arrayOf_text_inv h)
  | .element .., h => by
    obtain ⟨is, items, read, ended, -⟩ := arrayOf_element_inv h
    obtain rfl := eq_of_beq is
    exact ⟨ProperElement.of_other rfl rfl rfl, itemsOf_proper level read,
      every_of_expectClose ended⟩
  | .empty .., h => by
    obtain ⟨is, ended, -⟩ := arrayOf_empty_inv h
    exact ⟨proper_empty_of_isNamed is rfl, every_of_expectClose ended⟩
  | .closed .., h => by cases h
  | .cdata .., h => by cases h
  | .stopped .., h => by cases h

theorem itemsOf_proper {room depth : ℕ} {before items : List Value}
    (level : room + depth = maxDepth) : ∀ {c : Content},
      itemsOf room before c = .ok items → Every Proper (depth + 1) c
  | .aside kind p rest, h => by
    rw [itemsOf] at h
    exact itemsOf_proper (c := rest) level h
  | .text raw p rest, h => itemsOf_proper (c := rest) level (itemsOf_text_inv h)
  | .element .., h => by
    obtain ⟨is, space, item, inside, after⟩ := itemsOf_element_inv h
    obtain rfl := eq_of_beq is
    have deeper : room - 1 + (depth + 1) = maxDepth := by omega
    exact ⟨ProperElement.of_valueOf deeper inside, valueOf_proper deeper inside,
      itemsOf_proper level after⟩
  | .empty .., h => by
    obtain ⟨is, h⟩ := itemsOf_empty_inv h
    exact ⟨proper_empty_of_isNamed is rfl, itemsOf_proper level h⟩
  | .closed .., _ => trivial
  | .cdata .., h => by cases h
  | .stopped .., h => by cases h

theorem structOf_proper {room depth : ℕ} {before : List (String × Value)} {v : Value}
    (level : room + depth = maxDepth) : ∀ {c : Content},
      structOf room before c = .ok v → Every Proper (depth + 1) c
  | .aside kind p rest, h => by
    rw [structOf] at h
    exact structOf_proper (c := rest) level h
  | .text raw p rest, h => structOf_proper (c := rest) level (structOf_text_inv h)
  | .element .., h => by
    obtain ⟨is, m, member, after⟩ := structOf_element_inv h
    obtain rfl := eq_of_beq is
    exact ⟨ProperElement.of_memberOf member, memberOf_proper level member,
      structOf_proper level after⟩
  | .closed .., _ => trivial
  | .empty .., h => by cases h
  | .cdata .., h => by cases h
  | .stopped .., h => by cases h

theorem memberOf_proper {room depth : ℕ} {name? : Option (List Char)} {value? : Option Value}
    {m : List Char × Value} (level : room + depth = maxDepth) : ∀ {c : Content},
      memberOf room name? value? c = .ok m → Every Proper (depth + 1) c
  | .aside kind p rest, h => by
    rw [memberOf] at h
    exact memberOf_proper (c := rest) level h
  | .text raw p rest, h => memberOf_proper (c := rest) level (memberOf_text_inv h)
  | .element .., h => by
    rcases memberOf_element_inv h with ⟨is, cs, text, after⟩ | ⟨is, space, value, inside, after⟩
    · obtain rfl := eq_of_beq is
      exact ⟨ProperElement.of_other rfl rfl rfl, every_of_readText text,
        memberOf_proper level after⟩
    · obtain rfl := eq_of_beq is
      have deeper : room - 1 + (depth + 1) = maxDepth := by omega
      exact ⟨ProperElement.of_valueOf deeper inside, valueOf_proper deeper inside,
        memberOf_proper level after⟩
  | .empty .., h => by
    rcases memberOf_empty_inv h with ⟨is, h⟩ | ⟨is, h⟩
    · exact ⟨proper_empty_of_isNamed is rfl, memberOf_proper level h⟩
    · exact ⟨proper_empty_of_isNamed is rfl, memberOf_proper level h⟩
  | .closed .., _ => trivial
  | .cdata .., h => by cases h
  | .stopped .., h => by cases h

end

/-! ## Calls and responses -/

lemma onlyValue_proper {expected : String} (h : onlyValue expected c = .ok v) :
    Every Proper 0 c := by
  apply every_of_nextTag
  rcases onlyValue_inv h with ⟨q, inner, rest, found, read, ended⟩ | ⟨q, rest, found, -, ended⟩
  · rw [found]
    exact ⟨ProperElement.of_valueOf rfl read, valueOf_proper rfl read, every_of_expectClose ended⟩
  · rw [found]
    exact ⟨rfl, every_of_expectClose ended⟩

lemma resultOf_proper (h : resultOf c = .ok v) : Every Proper 0 c := by
  apply every_of_nextTag
  rcases resultOf_inv h with ⟨n, q, found, -⟩ | ⟨q, inner, rest, found, only, ended⟩
  · rw [found]
    trivial
  · rw [found]
    exact ⟨ProperElement.of_other rfl rfl rfl, onlyValue_proper only, every_of_expectClose ended⟩

lemma responseOf_proper {response : Response} (h : responseOf c = .ok response) :
    Every Proper 0 c := by
  obtain ⟨rest, answers, ended⟩ := responseOf_inv h
  apply every_of_nextTag
  generalize nextTag c = first at answers
  cases answers with
  | params read =>
    exact ⟨ProperElement.of_other rfl rfl rfl, resultOf_proper read, every_of_expectClose ended⟩
  | fault read _ =>
    exact ⟨ProperElement.of_other rfl rfl rfl, onlyValue_proper read, every_of_expectClose ended⟩
  | noParams => exact ⟨rfl, every_of_expectClose ended⟩

lemma paramsOf_proper {before params : List Value} (h : paramsOf before c = .ok params) :
    Every Proper 0 c := by
  induction c generalizing before with
  | aside kind p rest ih => exact ih h
  | text raw p rest ih => exact ih (paramsOf_text_inv h)
  | element tag p inner rest _ ih =>
    obtain ⟨is, param, only, after⟩ := paramsOf_element_inv h
    obtain rfl := eq_of_beq is
    exact ⟨ProperElement.of_other rfl rfl rfl, onlyValue_proper only, ih after⟩
  | closed _ _ => trivial
  | _ => cases h

lemma arguments_proper {params : List Value} (h : Arguments c params) : Every Proper 0 c := by
  apply every_of_nextTag
  cases h with
  | none ended =>
    rw [ended]
    trivial
  | params found read ended =>
    rw [found]
    exact ⟨ProperElement.of_other rfl rfl rfl, paramsOf_proper read, every_of_expectClose ended⟩
  | noParams found ended =>
    rw [found]
    exact ⟨rfl, every_of_expectClose ended⟩

lemma callOf_proper {call : Call} (h : callOf c = .ok call) : Every Proper 0 c := by
  obtain ⟨inner, rest, cs, named, text, -, -, arguments⟩ := callOf_inv h
  obtain ⟨q, found⟩ := expectElement_inv named
  apply every_of_nextTag
  rw [found]
  exact ⟨ProperElement.of_other rfl rfl rfl, every_of_readText text, arguments_proper arguments⟩

end XmlRpc

end PerfGate
