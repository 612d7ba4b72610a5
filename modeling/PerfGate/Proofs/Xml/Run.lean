import PerfGate.Proofs.Xml.Steps

/-!
# Runs of the reader

`Reads r ps e` says that the reader comes from the place `r` past the pieces `ps` to the place `e`,
where the end tag of the element stands that was open at `r`. The pieces are the content of that
element (`contents_of_reads`), and every element that is closed is read in such a run
(`contents_cases`). A run depends only on the characters it takes (`Reads.goingOn`), and there is
only one from each place (`Reads.unique`).
-/

namespace PerfGate.Xml

/-! ## Pieces -/

/-- A piece of content without what follows it. -/
inductive Piece where
  | element (name : List Char) (position : Nat) (inner : Content)
  | empty (name : List Char) (position : Nat)
  | text (raw : List Char) (position : Nat)
  | cdata (content : List Char) (position : Nat)
  | aside (kind : Aside) (position : Nat)

/-- The content that begins with the piece. -/
def Piece.before : Piece → Content → Content
  | element name position inner, rest => .element name position inner rest
  | empty name position, rest => .empty name position rest
  | text raw position, rest => .text raw position rest
  | cdata content position, rest => .cdata content position rest
  | aside kind position, rest => .aside kind position rest

/-- The pieces, and then the content. -/
def Content.after (pieces : List Piece) (last : Content) : Content :=
  pieces.foldr Piece.before last

/-- What stands between two tags ends with the end tag. -/
def Content.IsClosed : Content → Prop
  | stopped .. => False
  | closed .. => True
  | element _ _ _ rest | empty _ _ rest | text _ _ rest | cdata _ _ rest | aside _ _ rest =>
    rest.IsClosed

lemma Piece.isClosed_before (piece : Piece) (c : Content) :
    (piece.before c).IsClosed ↔ c.IsClosed := by
  cases piece <;> exact Iff.rfl

/-- The piece that an event makes by itself. The tags of an element make none. -/
def Event.piece? (e : Event) (position : Nat) : Option Piece :=
  match e with
  | .start _ | .close _ => none
  | .empty name => some (.empty name position)
  | .text raw => some (.text raw position)
  | .cdata content => some (.cdata content position)
  | .aside kind => some (.aside kind position)

lemma Event.cons_piece {e : Event} {p : Nat} {piece : Piece} (h : e.piece? p = some piece)
    (stop c : Content) (outer : List Content) :
    Content.cons stop (e, p) (c :: outer) = piece.before c :: outer := by
  cases e with
  | start name => cases h
  | close name => cases h
  | _ =>
    cases h
    rfl

namespace Reader

/-! ## The contents that follow a place -/

/-- Where and why the reader stops in the end, as a content. -/
def finish (r : Reader) : Content :=
  .stopped (r.pieces []).2.1 (r.pieces []).2.2

/-- The contents from a place on, the innermost first: up to the end tag of the element that is open
there, and behind it, and so on. -/
def contents (r : Reader) : List Content :=
  (r.pieces []).1.foldr (Content.cons r.finish) [r.finish]

variable {r r' : Reader} {e : Event} {p : Nat} {reason : SyntaxError}

/-- What was read before stands before what is read. -/
lemma pieces_eq (r : Reader) (before : List (Event × Nat)) :
    r.pieces before = (before.reverse ++ (r.pieces []).1, (r.pieces []).2) := by
  induction n : r.rest.length using Nat.strongRecOn generalizing r before with
  | _ n ih =>
    subst n
    cases step : r.next with
    | stop p reason => simp [pieces_of_stop step]
    | event e p r' =>
      have first := ih _ (length_next step) r' ((e, p) :: before) rfl
      have alone := ih _ (length_next step) r' [(e, p)] rfl
      rw [pieces_of_next step, pieces_of_next step, first, alone]
      simp

lemma finish_of_next (h : r.next = .event e p r') : r.finish = r'.finish := by
  rw [finish, finish, pieces_of_next h, pieces_eq r' [(e, p)]]

lemma contents_of_next (h : r.next = .event e p r') :
    r.contents = Content.cons r'.finish (e, p) r'.contents := by
  rw [contents, finish_of_next h, pieces_of_next h, pieces_eq r' [(e, p)], contents]
  rfl

lemma contents_of_stop (h : r.next = .stop p reason) : r.contents = [.stopped p reason] := by
  rw [contents, finish, pieces_of_stop h]
  rfl

/-- The reader at the beginning of a document. -/
def start (document : List Char) : Reader :=
  ⟨withoutMark document, 0, []⟩

lemma contents_ofChars (document : List Char) :
    Content.ofChars document = (start document).contents.headD (start document).finish := rfl

/-! ## What a step can do -/

/-- The reader stands at an end tag. -/
def AtEndTag (r : Reader) : Prop :=
  ∃ cs, r.rest = '<' :: '/' :: cs

/-- A step comes upon the start tag of an element, which is then open, or upon the end tag of the
one that was open last, or upon a piece that is no part of either. -/
def Does (r : Reader) (e : Event) (p : Nat) (r' : Reader) : Prop :=
  (∃ name, e = .start name ∧ r'.opened = name :: r.opened) ∨
    (∃ name, e = .close name ∧ r.AtEndTag ∧ r.opened = name :: r'.opened) ∨
      (∃ piece, e.piece? p = some piece) ∧ r'.opened = r.opened

lemma declaration_inv {c? : Option Char} (h : r.declaration c? = .event e p r') :
    (∃ piece, e.piece? p = some piece) ∧ r'.opened = r.opened := by
  unfold declaration cdata comment doctype past at h
  cases c? with
  | none => cases h
  | some c =>
    simp only at h
    split at h
    · split at h
      · cases h
      split at h
      · cases h
        exact ⟨⟨_, rfl⟩, rfl⟩
      · cases h
    split at h
    · split at h
      · cases h
      split at h
      · cases h
        exact ⟨⟨_, rfl⟩, rfl⟩
      · cases h
    split at h
    · split at h
      · cases h
      split at h
      · cases h
      split at h
      · cases h
      cases h
      exact ⟨⟨_, rfl⟩, rfl⟩
    · cases h

lemma instruction_inv (h : r.instruction = .event e p r') :
    (∃ piece, e.piece? p = some piece) ∧ r'.opened = r.opened := by
  unfold instruction at h
  simp only at h
  split at h
  · cases h
    exact ⟨⟨_, rfl⟩, rfl⟩
  · cases h

lemma openTag_inv (h : r.openTag = .event e p r') :
    (∃ name, e = .start name ∧ r'.opened = name :: r.opened) ∨
      (∃ piece, e.piece? p = some piece) ∧ r'.opened = r.opened := by
  unfold openTag past at h
  split at h
  · cases h
  split at h
  · cases h
    exact .inr ⟨⟨_, rfl⟩, rfl⟩
  · cases h
    exact .inl ⟨_, rfl, rfl⟩

lemma next_inv (h : r.next = .event e p r') : r.Does e p r' := by
  have step := h
  unfold next at h
  split at h
  · cases h
  rename_i c cs begins
  split at h
  · rename_i is
    unfold markup at h
    simp only at h
    split at h
    · cases h
    rename_i d ds
    split at h
    · rename_i slash
      rw [is, slash] at begins
      obtain ⟨name, close, opened, -⟩ := next_endTag_inv begins step
      exact .inr (.inl ⟨name, close, ⟨ds, begins⟩, opened⟩)
    split at h
    · have piece := instruction_inv h
      exact .inr (.inr piece)
    split at h
    · have piece := declaration_inv h
      exact .inr (.inr piece)
    · rcases openTag_inv h with start | piece
      · exact .inl start
      · exact .inr (.inr piece)
  · cases h
    exact .inr (.inr ⟨⟨_, rfl⟩, rfl⟩)

/-! ## Runs -/

/-- The reader comes past these pieces to the end tag that belongs to the same element as what
stands before it. -/
inductive Reads : Reader → List Piece → Reader → Prop
  | here {r : Reader} (ends : r.AtEndTag) : Reads r [] r
  | piece {r r' stop : Reader} {e : Event} {p : Nat} {piece : Piece} {pieces : List Piece}
      (step : r.next = .event e p r') (made : e.piece? p = some piece)
      (after : Reads r' pieces stop) : Reads r (piece :: pieces) stop
  | element {r r₁ r₂ r₃ stop : Reader} {name tag : List Char} {p q : Nat}
      {inside pieces : List Piece} (opens : r.next = .event (.start name) p r₁)
      (inner : Reads r₁ inside r₂) (closes : r₂.next = .event (.close tag) q r₃)
      (after : Reads r₃ pieces stop) :
      Reads r (.element name p (.after inside (.closed tag q)) :: pieces) stop

variable {stop stop' : Reader} {pieces pieces' : List Piece}

/-- At an end tag the reader comes upon nothing else. -/
lemma AtEndTag.next_inv (ends : r.AtEndTag) (h : r.next = .event e p r') :
    ∃ name, e = .close name := by
  obtain ⟨cs, begins⟩ := ends
  obtain ⟨name, is, -⟩ := next_endTag_inv begins h
  exact ⟨name, is⟩

lemma Reads.atEndTag (h : Reads r pieces stop) : stop.AtEndTag := by
  induction h with
  | here ends => exact ends
  | piece _ _ _ ih => exact ih
  | element _ _ _ _ _ ih => exact ih

/-- There is one run from each place. -/
lemma Reads.unique (h : Reads r pieces stop) (h' : Reads r pieces' stop') :
    pieces = pieces' ∧ stop = stop' := by
  induction h generalizing pieces' stop' with
  | here ends =>
    cases h' with
    | here _ => exact ⟨rfl, rfl⟩
    | piece step made _ =>
      obtain ⟨name, rfl⟩ := ends.next_inv step
      cases made
    | element opens _ _ _ =>
      obtain ⟨name, is⟩ := ends.next_inv opens
      cases is
  | piece step made _ ih =>
    cases h' with
    | here ends =>
      obtain ⟨name, rfl⟩ := ends.next_inv step
      cases made
    | piece step' made' after' =>
      rw [step] at step'
      cases step'
      rw [made] at made'
      cases made'
      obtain ⟨rfl, rfl⟩ := ih after'
      exact ⟨rfl, rfl⟩
    | element opens _ _ _ =>
      rw [step] at opens
      cases opens
      cases made
  | element opens _ closes _ ihInner ih =>
    cases h' with
    | here ends =>
      obtain ⟨name, is⟩ := ends.next_inv opens
      cases is
    | piece step made _ =>
      rw [opens] at step
      cases step
      cases made
    | element opens' inner' closes' after' =>
      rw [opens] at opens'
      cases opens'
      obtain ⟨rfl, rfl⟩ := ihInner inner'
      rw [closes] at closes'
      cases closes'
      obtain ⟨rfl, rfl⟩ := ih after'
      exact ⟨rfl, rfl⟩

/-- The elements that are open at the end of a run are those that were open before it. -/
lemma Reads.opened (h : Reads r pieces stop) : stop.opened = r.opened := by
  induction h with
  | here _ => rfl
  | piece step made _ ih =>
    rcases next_inv step with ⟨name, rfl, -⟩ | ⟨name, rfl, -⟩ | ⟨-, same⟩
    · cases made
    · cases made
    · exact ih.trans same
  | element opens _ closes _ ihInner ih =>
    rcases next_inv opens with ⟨name, ⟨⟩, opened⟩ | ⟨name, ⟨⟩, -⟩ | ⟨⟨-, ⟨⟩⟩, -⟩
    rcases next_inv closes with ⟨name', ⟨⟩, -⟩ | ⟨name', ⟨⟩, -, closed⟩ | ⟨⟨-, ⟨⟩⟩, -⟩
    rw [opened, closed] at ihInner
    rw [ih, (List.cons_eq_cons.1 ihInner).2]

/-! ## Other documents -/

lemma head?_append_congr {s t : List Char} (u : List Char) (h : s.head? = t.head?) :
    (u ++ s).head? = (u ++ t).head? := by
  cases u with
  | nil => exact h
  | cons c u => rfl

/-- Behind what is taken, one end tag begins as another. -/
lemma head?_append_endTag {s t : List Char} (u : List Char) (begins : ∃ cs, s = '<' :: '/' :: cs)
    (begins' : ∃ cs, t = '<' :: '/' :: cs) : (u ++ s).head? = (u ++ t).head? := by
  obtain ⟨cs, rfl⟩ := begins
  obtain ⟨ds, rfl⟩ := begins'
  exact head?_append_congr u rfl

/-- Whether an end tag begins is decided by what is taken of it and one more character. -/
lemma endTag_append_congr {u s t cs : List Char} (some : u ≠ []) (h : s.head? = t.head?)
    (begins : u ++ t = '<' :: '/' :: cs) : ∃ ds, u ++ s = '<' :: '/' :: ds := by
  cases u with
  | nil => exact absurd rfl some
  | cons c u =>
    obtain ⟨rfl, second⟩ := List.cons_eq_cons.1 begins
    cases u with
    | nil =>
      obtain rfl : t = '/' :: cs := second
      obtain ⟨ds, rfl⟩ : ∃ ds, s = '/' :: ds := by
        cases s with
        | nil => cases h
        | cons d ds =>
          cases h
          exact ⟨ds, rfl⟩
      exact ⟨ds, rfl⟩
    | cons d u =>
      obtain ⟨rfl, -⟩ := List.cons_eq_cons.1 second
      exact ⟨u ++ s, rfl⟩

/-- A run is the same in every document in which what it takes is followed by an end tag. -/
lemma Reads.goingOn (h : Reads r pieces stop) :
    ∃ taken, r.rest = taken ++ stop.rest ∧ ∀ t, (∃ cs, t = '<' :: '/' :: cs) →
      Reads (r.goingOn (taken ++ t)) pieces (stop.goingOn t) := by
  induction h with
  | here ends => exact ⟨[], rfl, fun t begins => .here begins⟩
  | @piece r r' stop e p piece pieces step made after ih =>
    obtain ⟨taken, rest, same⟩ := ih
    obtain ⟨cs, ends⟩ := after.atEndTag
    have more : r'.rest ≠ [] := by simp [rest, ends]
    obtain ⟨taken', -, rest', same'⟩ := next_goingOn step more
    refine ⟨taken' ++ taken, by rw [rest', rest, List.append_assoc], fun t begins => ?_⟩
    have first := head?_append_endTag taken begins after.atEndTag
    rw [← rest] at first
    have step' := same' (taken ++ t) first
    rw [← List.append_assoc] at step'
    exact .piece step' made (same t begins)
  | @element r r₁ r₂ r₃ stop name tag p q inside pieces opens inner closes after ihInner ih =>
    obtain ⟨takenInner, restInner, sameInner⟩ := ihInner
    obtain ⟨taken, rest, same⟩ := ih
    obtain ⟨cs, ends⟩ := after.atEndTag
    obtain ⟨ds, ends₂⟩ := inner.atEndTag
    have more : r₃.rest ≠ [] := by simp [rest, ends]
    have more₁ : r₁.rest ≠ [] := by simp [restInner, ends₂]
    obtain ⟨takenOpen, -, restOpen, sameOpen⟩ := next_goingOn opens more₁
    obtain ⟨takenClose, someClose, restClose, sameClose⟩ := next_goingOn closes more
    refine ⟨takenOpen ++ (takenInner ++ (takenClose ++ taken)), ?_, fun t begins => ?_⟩
    · rw [restOpen, restInner, restClose, rest]
      simp only [List.append_assoc]
    -- what follows begins as it did before, at each of the places
    have first : (taken ++ t).head? = r₃.rest.head? := by
      rw [rest]
      exact head?_append_endTag taken begins after.atEndTag
    have endTag : ∃ ds, takenClose ++ (taken ++ t) = '<' :: '/' :: ds :=
      endTag_append_congr someClose first (restClose.symm.trans ends₂)
    have first₁ : (takenInner ++ (takenClose ++ (taken ++ t))).head? = r₁.rest.head? := by
      rw [restInner, restClose]
      exact head?_append_congr _ (head?_append_congr _ first)
    have opens' := sameOpen _ first₁
    have closes' := sameClose _ first
    have inner' := sameInner _ endTag
    simp only [List.append_assoc] at opens' closes' inner' ⊢
    exact .element opens' inner' closes' (same t begins)

/-! ## Runs and contents -/

/-- A run makes a content of its pieces. -/
lemma contents_of_reads {c : Content} {outer : List Content} (h : Reads r pieces stop)
    (follows : stop.contents = c :: outer) : r.contents = .after pieces c :: outer := by
  induction h generalizing c outer with
  | here _ => exact follows
  | piece step made _ ih =>
    rw [contents_of_next step, ih follows, Event.cons_piece made]
    rfl
  | element opens _ closes _ ihInner ih =>
    have closed := contents_of_next closes
    rw [ih follows] at closed
    rw [contents_of_next opens, ihInner closed]
    rfl

/-- The element that is open at the place is closed, and this is its content. -/
def Closes (r : Reader) (c : Content) (outer : List Content) : Prop :=
  ∃ pieces stop name q r', Reads r pieces stop ∧ stop.next = .event (.close name) q r' ∧
    c = .after pieces (.closed name q) ∧ outer = r'.contents

lemma contents_cases (r : Reader) :
    ∃ c outer, r.contents = c :: outer ∧ (r.Closes c outer ∨ outer = [] ∧ ¬ c.IsClosed) := by
  induction n : r.rest.length using Nat.strongRecOn generalizing r with
  | _ n ih =>
    subst n
    cases step : r.next with
    | stop p reason => exact ⟨_, [], contents_of_stop step, .inr ⟨rfl, id⟩⟩
    | event e p r' =>
      have unfolded := contents_of_next step
      obtain ⟨c, outer, is, inside⟩ := ih _ (length_next step) r' rfl
      rcases next_inv step with ⟨name, rfl, -⟩ | ⟨name, rfl, ends, -⟩ | ⟨⟨piece, made⟩, -⟩
      · rcases inside with ⟨pieces, stop, tag, q, r₃, inner, closes, rfl, rfl⟩ | ⟨rfl, -⟩
        -- the element is closed, and the induction goes on behind it
        · obtain ⟨taken, rest, -⟩ := inner.goingOn
          have shorter : r₃.rest.length < r.rest.length := by
            have first := length_next step
            have last := length_next closes
            rw [rest, List.length_append] at first
            omega
          obtain ⟨c, outer, is₃, after⟩ := ih _ shorter r₃ rfl
          rw [is, is₃] at unfolded
          refine ⟨_, _, unfolded, ?_⟩
          rcases after with ⟨rest, stop', tag', q', r₄, after, closes', rfl, rfl⟩ | ⟨rfl, unclosed⟩
          · exact .inl ⟨_, stop', tag', q', r₄, .element step inner closes after, closes', rfl, rfl⟩
          · exact .inr ⟨rfl, unclosed⟩
        -- nothing comes behind an element that is not closed
        · rw [is] at unfolded
          exact ⟨_, [], unfolded, .inr ⟨rfl, id⟩⟩
      · exact ⟨_, _, unfolded, .inl ⟨[], r, name, p, r', .here ends, step, rfl, rfl⟩⟩
      · rw [is, Event.cons_piece made] at unfolded
        refine ⟨_, _, unfolded, ?_⟩
        rcases inside with ⟨pieces, stop, tag, q, r₃, after, closes, rfl, rfl⟩ | ⟨rfl, unclosed⟩
        · exact .inl ⟨piece :: pieces, stop, tag, q, r₃, .piece step made after, closes, rfl, rfl⟩
        · exact .inr ⟨rfl, mt (piece.isClosed_before c).1 unclosed⟩

end Reader

/-- In front of a document there may be a mark, which is left out. -/
lemma withoutMark_inv {document u s : List Char} (h : withoutMark document = u ++ s)
    (some : u ≠ []) : ∃ head, document = head ++ s ∧ ∀ t, withoutMark (head ++ t) = u ++ t := by
  obtain ⟨d, ds, rfl⟩ := List.exists_cons_of_ne_nil some
  cases document with
  | nil => cases h
  | cons c cs =>
    rw [withoutMark] at h
    split at h
    · rename_i mark
      exact ⟨c :: d :: ds, congrArg _ h, fun t => if_pos mark⟩
    · rename_i unmarked
      obtain ⟨rfl, -⟩ := List.cons_eq_cons.1 h
      exact ⟨c :: ds, h, fun t => if_neg unmarked⟩

/-! ## Runs over written markup -/

/-- The reader comes past readable markup to the end tag behind it. -/
lemma Markup.reads {m : Markup} (readable : m.Readable) {r : Reader} {cs : List Char}
    (begins : r.rest = m.events.flatMap Event.chars ++ '<' :: '/' :: cs) :
    ∃ pieces stop, r.Reads pieces stop ∧ stop.rest = '<' :: '/' :: cs := by
  induction m generalizing r cs with
  | nil => exact ⟨[], r, .here ⟨cs, begins⟩, begins⟩
  | text raw rest ih =>
    obtain ⟨nonempty, plain, apart, readable⟩ := readable
    rw [events, List.flatMap_cons, List.append_assoc] at begins
    have tag : ∀ c ∈ ('<' :: '/' :: cs).head?, c = '<' := by
      rintro c ⟨⟩
      rfl
    obtain ⟨p, q, step⟩ := Reader.next_text nonempty plain (head?_chars apart tag) begins
    obtain ⟨pieces, stop, after, ends⟩ := ih readable (r := ⟨_, q, r.opened⟩) rfl
    exact ⟨_, stop, .piece step rfl after, ends⟩
  | empty name rest ih =>
    obtain ⟨plain, readable⟩ := readable
    rw [events, List.flatMap_cons, List.append_assoc] at begins
    obtain ⟨p, step⟩ := Reader.next_empty plain begins
    obtain ⟨pieces, stop, after, ends⟩ := ih readable (r := ⟨_, p, r.opened⟩) rfl
    exact ⟨_, stop, .piece step rfl after, ends⟩
  | element name inner rest ihInner ih =>
    obtain ⟨plain, readableInner, readable⟩ := readable
    rw [events, List.flatMap_cons, List.flatMap_append, List.flatMap_cons, List.append_assoc,
      List.append_assoc, List.append_assoc] at begins
    obtain ⟨p, opens⟩ := Reader.next_start plain begins
    obtain ⟨inside, r₂, reads, rest₂⟩ :=
      ihInner readableInner (r := ⟨_, p, name :: r.opened⟩) rfl
    obtain ⟨q, closes⟩ := Reader.next_close plain rest₂ reads.opened
    obtain ⟨pieces, stop, after, ends⟩ := ih readable (r := ⟨_, q, r.opened⟩) rfl
    exact ⟨_, stop, .element opens reads closes after, ends⟩

end PerfGate.Xml
