import PerfGate.Proofs.Xml.Run
import PerfGate.Proofs.XmlRpc.Inversion

/-!
# The root element of a document

A document is read if the reader comes past layout to the start tag of the root element
(`Opens`), and from there to its end tag past pieces of which the result can be made. The result
does not depend on the end tag itself (`Settles`), so that `readRoot_eq_ok_iff` tells from the run
up to it whether a document is read, and as what.
-/

namespace PerfGate.XmlRpc

open Xml (Content Event Piece Reader isPlainName)
open Xml.Content (after)
open Xml.Reader (Reads AtEndTag EndsTag)

variable {α : Type} {n n' : List Char} {p q q' : Nat} {c inner rest : Content}
  {pieces ds : List Piece}

/-! ## Layout -/

/-- The piece does not count between elements. -/
def isLayoutPiece : Piece → Bool
  | .aside .. => true
  | .text raw _ => raw.all isLayout
  | _ => false

lemma nextTag_before_of_layout {piece : Piece} (h : isLayoutPiece piece) (c : Content) :
    nextTag (piece.before c) = nextTag c := by
  cases piece with
  | text raw p => exact if_pos h
  | aside kind p => rfl
  | _ => cases h

lemma nextTag_before_of_not_layout {piece : Piece} (h : ¬ isLayoutPiece piece) (c : Content) :
    nextTag (piece.before c) = piece.before c := by
  cases piece with
  | text raw p => exact if_neg h
  | aside kind p => exact absurd rfl h
  | _ => rfl

/-- Layout is skipped, whatever end tag closes the content. -/
lemma nextTag_after (pieces : List Piece) (n : List Char) (q : Nat) :
    nextTag (after pieces (.closed n q)) =
      after (pieces.dropWhile isLayoutPiece) (.closed n q) := by
  induction pieces with
  | nil => rfl
  | cons piece pieces ih =>
    change nextTag (piece.before (after pieces (.closed n q))) = _
    by_cases layout : isLayoutPiece piece
    · rw [nextTag_before_of_layout layout, ih, List.dropWhile_cons_of_pos layout]
    · rw [nextTag_before_of_not_layout layout, List.dropWhile_cons_of_neg layout]
      rfl

lemma isClosed_nextTag (c : Content) : (nextTag c).IsClosed ↔ c.IsClosed := by
  induction c with
  | aside kind p rest ih => exact ih
  | text raw p rest ih =>
    rw [nextTag]
    split
    · exact ih
    · exact Iff.rfl
  | _ => exact Iff.rfl

lemma after_eq_closed (h : after ds (.closed n q) = .closed n' q') : ds = [] := by
  cases ds with
  | nil => rfl
  | cons piece ds => cases piece <;> cases h

lemma after_eq_element {name : List Char}
    (h : after ds (.closed n q) = .element name p inner rest) :
    ∃ pieces, ds = .element name p inner :: pieces ∧ rest = after pieces (.closed n q) := by
  cases ds with
  | nil => cases h
  | cons piece ds =>
    cases piece with
    | element name' p' inner' =>
      cases h
      exact ⟨ds, rfl, rfl⟩
    | _ => cases h

lemma after_eq_empty {name : List Char} (h : after ds (.closed n q) = .empty name p rest) :
    ∃ pieces, ds = .empty name p :: pieces ∧ rest = after pieces (.closed n q) := by
  cases ds with
  | nil => cases h
  | cons piece ds =>
    cases piece with
    | empty name' p' =>
      cases h
      exact ⟨ds, rfl, rfl⟩
    | _ => cases h

/-! ## The end tag does not matter -/

/-- What is read comes up to an end tag, and is the same for every end tag. -/
structure Settles (f : Content → Except CodecError α) : Prop where
  isClosed : ∀ {c a}, f c = .ok a → c.IsClosed
  reclosed : ∀ {pieces n q a}, f (after pieces (.closed n q)) = .ok a →
    ∀ n' q', f (after pieces (.closed n' q')) = .ok a

lemma expectClose_after {name : String} (h : expectClose name (after pieces (.closed n q)) = .ok ())
    (n' : List Char) (q' : Nat) : expectClose name (after pieces (.closed n' q')) = .ok () := by
  obtain ⟨m, p, found⟩ := expectClose_inv h
  rw [nextTag_after] at found
  rw [expectClose, nextTag_after, after_eq_closed found]
  rfl

lemma isClosed_of_expectClose {name : String} (h : expectClose name c = .ok ()) : c.IsClosed := by
  obtain ⟨m, p, found⟩ := expectClose_inv h
  rw [← isClosed_nextTag, found]
  trivial

lemma settles_responseOf : Settles responseOf where
  isClosed := by
    intro c response h
    obtain ⟨rest, answers, ended⟩ := responseOf_inv h
    rw [← isClosed_nextTag]
    generalize nextTag c = first at answers
    have closed := isClosed_of_expectClose ended
    cases answers with
    | params _ => exact closed
    | fault _ _ => exact closed
    | noParams => exact closed
  reclosed := by
    intro pieces n q response h n' q'
    obtain ⟨rest, answers, ended⟩ := responseOf_inv h
    rw [nextTag_after] at answers
    generalize is : after (pieces.dropWhile isLayoutPiece) (.closed n q) = first at answers
    cases answers with
    | params read =>
      obtain ⟨pieces', tags, rfl⟩ := after_eq_element is
      refine responseOf_of_answers ?_ (expectClose_after ended n' q')
      rw [nextTag_after, tags]
      exact .params read
    | fault read described =>
      obtain ⟨pieces', tags, rfl⟩ := after_eq_element is
      refine responseOf_of_answers ?_ (expectClose_after ended n' q')
      rw [nextTag_after, tags]
      exact .fault read described
    | noParams =>
      obtain ⟨pieces', tags, rfl⟩ := after_eq_empty is
      refine responseOf_of_answers ?_ (expectClose_after ended n' q')
      rw [nextTag_after, tags]
      exact .noParams

lemma isClosed_of_arguments {params : List Value} (h : Arguments c params) : c.IsClosed := by
  cases h with
  | none ended =>
    rw [← isClosed_nextTag, ended]
    trivial
  | params found _ ended =>
    have closed := isClosed_of_expectClose ended
    rw [← isClosed_nextTag, found]
    exact closed
  | noParams found ended =>
    have closed := isClosed_of_expectClose ended
    rw [← isClosed_nextTag, found]
    exact closed

lemma arguments_after {params : List Value} (h : Arguments (after pieces (.closed n q)) params)
    (n' : List Char) (q' : Nat) : Arguments (after pieces (.closed n' q')) params := by
  generalize is : after pieces (.closed n q) = c at h
  cases h with
  | none ended =>
    rw [← is, nextTag_after] at ended
    refine .none (n := n') (q := q') ?_
    rw [nextTag_after, after_eq_closed ended]
    rfl
  | params found read ended =>
    rw [← is, nextTag_after] at found
    obtain ⟨pieces', tags, rfl⟩ := after_eq_element found
    have found' := nextTag_after pieces n' q'
    rw [tags] at found'
    exact .params found' read (expectClose_after ended n' q')
  | noParams found ended =>
    rw [← is, nextTag_after] at found
    obtain ⟨pieces', tags, rfl⟩ := after_eq_empty found
    have found' := nextTag_after pieces n' q'
    rw [tags] at found'
    exact .noParams found' (expectClose_after ended n' q')

lemma expectElement_of_nextTag {name : String} (h : nextTag c = .element name.toList p inner rest) :
    expectElement name c = .ok (inner, rest) := by
  rw [expectElement, h]
  exact if_pos (beq_self_eq_true _)

lemma settles_callOf : Settles callOf where
  isClosed := by
    intro c call h
    obtain ⟨inner, rest, cs, named, -, -, -, arguments⟩ := callOf_inv h
    obtain ⟨q, found⟩ := expectElement_inv named
    have closed := isClosed_of_arguments arguments
    rw [← isClosed_nextTag, found]
    exact closed
  reclosed := by
    intro pieces n q call h n' q'
    obtain ⟨inner, rest, cs, named, read, method, nonempty, arguments⟩ := callOf_inv h
    obtain ⟨p, found⟩ := expectElement_inv named
    rw [nextTag_after] at found
    obtain ⟨pieces', tags, rfl⟩ := after_eq_element found
    have found' := nextTag_after pieces n' q'
    rw [tags] at found'
    exact callOf_of_arguments (expectElement_of_nextTag found') read method nonempty
      (arguments_after arguments n' q')

/-! ## Up to the start tag -/

variable {root : List Char} {r r' stop stop' : Reader} {pieces' : List Piece}

/-- The reader comes past layout to the start tag of the root element, and stands behind it. -/
inductive Opens (root : List Char) : Reader → Reader → Prop
  | here {r r' : Reader} {p : Nat} (step : r.next = .event (.start root) p r') : Opens root r r'
  | layout {r r₁ r' : Reader} {e : Event} {p : Nat} {piece : Piece} (step : r.next = .event e p r₁)
      (made : e.piece? p = some piece) (skipped : isLayoutPiece piece) (after : Opens root r₁ r') :
      Opens root r r'

lemma Opens.unique {s : Reader} (h : Opens root r r') (h' : Opens root r s) : r' = s := by
  induction h with
  | here step =>
    cases h' with
    | here step' =>
      rw [step] at step'
      cases step'
      rfl
    | layout step' made _ _ =>
      rw [step] at step'
      cases step'
      cases made
  | layout step made _ _ ih =>
    cases h' with
    | here step' =>
      rw [step] at step'
      cases step'
      cases made
    | layout step' _ _ after =>
      rw [step] at step'
      cases step'
      exact ih after

lemma Opens.opened (h : Opens root r r') : r'.opened = root :: r.opened := by
  induction h with
  | here step =>
    rcases Reader.next_inv step with ⟨name, ⟨⟩, opened⟩ | ⟨name, ⟨⟩, -⟩ | ⟨⟨-, ⟨⟩⟩, -⟩
    exact opened
  | layout step made _ _ ih =>
    rcases Reader.next_inv step with ⟨name, rfl, -⟩ | ⟨name, rfl, -⟩ | ⟨-, same⟩
    · cases made
    · cases made
    · rw [ih, same]

lemma Opens.goingOn (h : Opens root r r') (more : r'.rest ≠ []) :
    ∃ taken, r.rest = taken ++ r'.rest ∧ ∀ t, t.head? = r'.rest.head? →
      Opens root (r.goingOn (taken ++ t)) (r'.goingOn t) := by
  induction h with
  | here step =>
    obtain ⟨taken, -, rest, same⟩ := Reader.next_goingOn step more
    exact ⟨taken, rest, fun t first => .here (same t first)⟩
  | @layout r r₁ r' e p piece step made skipped _ ih =>
    obtain ⟨taken, rest, same⟩ := ih more
    have more₁ : r₁.rest ≠ [] := by
      rw [rest]
      exact List.append_ne_nil_of_right_ne_nil taken more
    obtain ⟨taken', -, rest', same'⟩ := Reader.next_goingOn step more₁
    refine ⟨taken' ++ taken, by rw [rest', rest, List.append_assoc], fun t first => ?_⟩
    have first' : (taken ++ t).head? = r₁.rest.head? := by
      rw [rest]
      exact Reader.head?_append_congr taken first
    have step' := same' (taken ++ t) first'
    rw [← List.append_assoc] at step'
    exact .layout step' made skipped (same t first)

/-- What nothing but layout stands before is the element that the reader comes to. -/
lemma opens_of_nextTag {outer : List Content} (is : r.contents = c :: outer)
    (h : nextTag c = .element root p inner rest) :
    ∃ r' outer', Opens root r r' ∧ r'.contents = inner :: outer' := by
  induction n : r.rest.length using Nat.strongRecOn generalizing r c outer with
  | _ n ih =>
    subst n
    cases step : r.next with
    | stop q reason =>
      rw [Reader.contents_of_stop step] at is
      cases is
      cases h
    | event e q r₁ =>
      obtain ⟨c₁, outer₁, is₁, -⟩ := r₁.contents_cases
      rw [Reader.contents_of_next step, is₁] at is
      rcases Reader.next_inv step with ⟨name, rfl, -⟩ | ⟨name, rfl, -⟩ | ⟨⟨piece, made⟩, -⟩
      · cases is
        cases h
        exact ⟨r₁, outer₁, .here step, is₁⟩
      · cases is
        cases h
      · rw [Event.cons_piece made] at is
        cases is
        by_cases layout : isLayoutPiece piece
        · rw [nextTag_before_of_layout layout] at h
          obtain ⟨r', outer', opens, is'⟩ := ih _ (Reader.length_next step) is₁ h rfl
          exact ⟨r', outer', .layout step made layout opens, is'⟩
        · rw [nextTag_before_of_not_layout layout] at h
          -- an event by itself is no element
          cases e <;> cases made <;> cases h

lemma nextTag_of_opens {outer : List Content} (h : Opens root r r')
    (is : r'.contents = inner :: outer) :
    ∃ c outer' p rest, r.contents = c :: outer' ∧ nextTag c = .element root p inner rest := by
  induction h with
  | here step =>
    have whole := Reader.contents_of_next step
    rw [is] at whole
    exact ⟨_, _, _, _, whole, rfl⟩
  | layout step made skipped _ ih =>
    obtain ⟨c, outer', p, rest, is', found⟩ := ih is
    have whole := Reader.contents_of_next step
    rw [is', Event.cons_piece made] at whole
    exact ⟨_, _, p, rest, whole, (nextTag_before_of_layout skipped c).trans found⟩

/-! ## Up to the end tag -/

/-- The reader comes to the end tag of the root element, past these pieces in it. -/
def ReadsRoot (root : List Char) (r : Reader) (pieces : List Piece) (stop : Reader) : Prop :=
  ∃ r', Opens root r r' ∧ Reads r' pieces stop

lemma ReadsRoot.unique (h : ReadsRoot root r pieces stop) (h' : ReadsRoot root r pieces' stop') :
    pieces = pieces' ∧ stop = stop' := by
  obtain ⟨r', opens, reads⟩ := h
  obtain ⟨s, opens', reads'⟩ := h'
  obtain rfl := opens.unique opens'
  exact reads.unique reads'

lemma ReadsRoot.goingOn (h : ReadsRoot root r pieces stop) :
    ∃ taken, r.rest = taken ++ stop.rest ∧ ∀ t, (∃ cs, t = '<' :: '/' :: cs) →
      ReadsRoot root (r.goingOn (taken ++ t)) pieces (stop.goingOn t) := by
  obtain ⟨r', opens, reads⟩ := h
  obtain ⟨cs, ends⟩ := reads.atEndTag
  obtain ⟨taken, rest, same⟩ := reads.goingOn
  have more : r'.rest ≠ [] := by simp [rest, ends]
  obtain ⟨taken', rest', same'⟩ := opens.goingOn more
  refine ⟨taken' ++ taken, by rw [rest', rest, List.append_assoc], fun t begins => ?_⟩
  have first := Reader.head?_append_endTag taken begins reads.atEndTag
  rw [← rest] at first
  have opens' := same' (taken ++ t) first
  rw [← List.append_assoc] at opens'
  exact ⟨_, opens', same t begins⟩

/-- What is made of the content of the root element of a document. -/
def readRoot (root : String) (f : Content → Except CodecError α) (document : List Char) :
    Except CodecError α := do
  let (inner, _) ← expectElement root (.ofChars document)
  f inner

variable {name : String} {f : Content → Except CodecError α} {document : List Char} {a : α}

/-- A document is read if the reader comes to the end tag of the root element, past pieces that
something is made of. -/
theorem readRoot_eq_ok_iff (settles : Settles f) (plain : isPlainName name.toList) :
    readRoot name f document = .ok a ↔ ∃ pieces stop cs,
      ReadsRoot name.toList (Reader.start document) pieces stop ∧ stop.rest = '<' :: '/' :: cs ∧
        EndsTag name.toList cs ∧ ∀ n q, f (after pieces (.closed n q)) = .ok a := by
  obtain ⟨c, outer, is, -⟩ := (Reader.start document).contents_cases
  have whole : Content.ofChars document = c := by
    rw [Reader.contents_ofChars, is]
    rfl
  rw [readRoot, whole, except_bind_eq_ok]
  constructor
  · rintro ⟨⟨inner, rest⟩, found, read⟩
    obtain ⟨p, tag⟩ := expectElement_inv found
    obtain ⟨r', outer', opens, is'⟩ := opens_of_nextTag is tag
    obtain ⟨c', outer'', is'', closes⟩ := r'.contents_cases
    rw [is'] at is''
    cases is''
    rcases closes with ⟨pieces, stop, tag', q, r'', reads, closes, rfl, -⟩ | ⟨-, unclosed⟩
    · obtain ⟨cs, begins⟩ := reads.atEndTag
      -- nothing but the root is open, so the end tag is its own
      obtain ⟨_, ⟨⟩, opened, ends⟩ := Reader.next_endTag_inv begins closes
      rw [reads.opened, opens.opened] at opened
      obtain ⟨rfl, -⟩ := List.cons_eq_cons.1 opened
      exact ⟨pieces, stop, cs, ⟨r', opens, reads⟩, begins, ends, settles.reclosed read⟩
    · exact absurd (settles.isClosed read) unclosed
  · rintro ⟨pieces, stop, cs, ⟨r', opens, reads⟩, begins, ends, read⟩
    have opened : stop.opened = name.toList :: [] := by
      rw [reads.opened, opens.opened]
      rfl
    obtain ⟨p, r'', closes⟩ := Reader.next_of_endsTag plain begins ends opened
    have inside := Reader.contents_of_reads reads (Reader.contents_of_next closes)
    obtain ⟨c', outer', q, rest, is', tag⟩ := nextTag_of_opens opens inside
    rw [is] at is'
    cases is'
    exact ⟨_, expectElement_of_nextTag tag, read _ _⟩

end PerfGate.XmlRpc
