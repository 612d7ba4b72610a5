import PerfGate.Proofs.Xml.Place
import PerfGate.Proofs.XmlRpc.Shape

/-!
# Documents that are alike

Two contents are alike (`Alike`) if they hold the same pieces, wherever these stand in the document,
but that some elements without content are spelled by a start and an end tag in the first and by a
self-closing tag in the second. Where an element with one spelling can be replaced by one with the
other, the trees of the two documents are alike (`alike_ofChars`): what stands before the element is
read as it was (`Reader.Comes`), and what stands behind it too, but for the positions
(`Reader.next_moved`).
-/

namespace PerfGate.XmlRpc

open Xml (Content Event IsPlace Piece Reader)

/-- The number of levels that the open elements make. -/
def levels (opened : List (List Char)) : ℕ :=
  (opened.map levelsOf).sum

/-- The contents differ in nothing but positions, and in how those elements without content are
spelled for which `May` holds of the number of arrays and structs around them and of their name. -/
inductive Alike (May : ℕ → List Char → Prop) : ℕ → Content → Content → Prop
  | stopped {depth p p' : ℕ} {reason reason' : Xml.SyntaxError} :
      Alike May depth (.stopped p reason) (.stopped p' reason')
  | closed {depth p p' : ℕ} {name : List Char} :
      Alike May depth (.closed name p) (.closed name p')
  | element {depth p p' : ℕ} {name : List Char} {inner inner' rest rest' : Content}
      (inside : Alike May (depth + levelsOf name) inner inner')
      (behind : Alike May depth rest rest') :
      Alike May depth (.element name p inner rest) (.element name p' inner' rest')
  | empty {depth p p' : ℕ} {name : List Char} {rest rest' : Content}
      (behind : Alike May depth rest rest') :
      Alike May depth (.empty name p rest) (.empty name p' rest')
  | text {depth p p' : ℕ} {raw : List Char} {rest rest' : Content}
      (behind : Alike May depth rest rest') :
      Alike May depth (.text raw p rest) (.text raw p' rest')
  | cdata {depth p p' : ℕ} {cs : List Char} {rest rest' : Content}
      (behind : Alike May depth rest rest') :
      Alike May depth (.cdata cs p rest) (.cdata cs p' rest')
  | aside {depth p p' : ℕ} {kind : Xml.Aside} {rest rest' : Content}
      (behind : Alike May depth rest rest') :
      Alike May depth (.aside kind p rest) (.aside kind p' rest')
  | spelled {depth p p' q : ℕ} {name tag : List Char} {rest rest' : Content} (may : May depth name)
      (behind : Alike May depth rest rest') :
      Alike May depth (.element name p (.closed tag q) rest) (.empty name p' rest')

variable {May May' : ℕ → List Char → Prop} {P : ℕ → Piece → Prop} {depth : ℕ} {c c' : Content}

namespace Alike

/-- What is known of every element of the first content is known of those that are spelled
otherwise in the second. -/
lemma imp_left (h : Alike May depth c c') (every : Every P depth c)
    (imp : ∀ depth name p tag q, May depth name → P depth (.element name p (.closed tag q)) →
      May' depth name) : Alike May' depth c c' := by
  induction h with
  | stopped => exact .stopped
  | closed => exact .closed
  | element _ _ ihInside ih => exact .element (ihInside every.2.1) (ih every.2.2)
  | empty _ ih => exact .empty (ih every.2)
  | text _ ih => exact .text (ih every)
  | cdata _ ih => exact .cdata (ih every)
  | aside _ ih => exact .aside (ih every)
  | spelled may _ ih => exact .spelled (imp _ _ _ _ _ may every.1) (ih every.2.2)

lemma imp_right (h : Alike May depth c c') (every : Every P depth c')
    (imp : ∀ depth name p, May depth name → P depth (.empty name p) → May' depth name) :
    Alike May' depth c c' := by
  induction h with
  | stopped => exact .stopped
  | closed => exact .closed
  | element _ _ ihInside ih => exact .element (ihInside every.2.1) (ih every.2.2)
  | empty _ ih => exact .empty (ih every.2)
  | text _ ih => exact .text (ih every)
  | cdata _ ih => exact .cdata (ih every)
  | aside _ ih => exact .aside (ih every)
  | spelled may _ ih => exact .spelled (imp _ _ _ may every.1) (ih every.2)

end Alike

/-! ## The contents that follow a place -/

/-- The contents that follow two places, the innermost first, are alike. -/
def AlikeAll (May : ℕ → List Char → Prop) :
    List (List Char) → List Content → List Content → Prop
  | _, [], [] => True
  | opened, c :: outer, c' :: outer' =>
    Alike May (levels opened) c c' ∧ AlikeAll May opened.tail outer outer'
  | _, _, _ => False

namespace AlikeAll

variable {opened : List (List Char)} {following following' : List Content} {r r' s s' : Reader}
  {e : Event} {p p' : ℕ}

lemma headD (h : AlikeAll May opened following following') (stop : Alike May (levels opened) c c') :
    Alike May (levels opened) (following.headD c) (following'.headD c') := by
  cases following with
  | nil =>
    cases following' with
    | nil => exact stop
    | cons _ _ => exact h.elim
  | cons _ _ =>
    cases following' with
    | nil => exact h.elim
    | cons _ _ => exact h.1

lemma drop (h : AlikeAll May opened following following') :
    AlikeAll May opened.tail (following.drop 1) (following'.drop 1) := by
  cases following with
  | nil =>
    cases following' with
    | nil => trivial
    | cons _ _ => exact h.elim
  | cons _ _ =>
    cases following' with
    | nil => exact h.elim
    | cons _ _ => exact h.2

/-- What follows two places is alike if they have the same step behind which it is. -/
lemma cons (does : r.Does e p r') (stop : ∀ depth, Alike May depth c c')
    (h : AlikeAll May r'.opened following following') :
    AlikeAll May r.opened (Content.cons c (e, p) following)
      (Content.cons c' (e, p') following') := by
  rcases does with ⟨name, rfl, opens⟩ | ⟨name, rfl, -, closes⟩ | ⟨⟨piece, made⟩, same⟩
  · rw [opens] at h
    have inside := h.headD (stop _)
    rw [levels, List.map_cons, List.sum_cons, Nat.add_comm] at inside
    exact ⟨.element inside (h.drop.headD (stop _)), h.drop.drop⟩
  · rw [closes]
    exact ⟨.closed, h⟩
  · rw [same] at h
    have behind := h.headD (stop _)
    cases e with
    | start _ => cases made
    | close _ => cases made
    | empty name => exact ⟨.empty behind, h.drop⟩
    | text raw => exact ⟨.text behind, h.drop⟩
    | cdata cs => exact ⟨.cdata behind, h.drop⟩
    | aside kind => exact ⟨.aside behind, h.drop⟩

/-- The documents go on alike from a place if they go on alike behind the next step. -/
lemma of_next (step : r.next = .event e p r') (step' : s.next = .event e p' s')
    (h : AlikeAll May r'.opened r'.contents s'.contents) :
    AlikeAll May r.opened r.contents s.contents := by
  rw [Reader.contents_of_next step, Reader.contents_of_next step']
  exact h.cons (Reader.next_inv step) fun _ => .stopped

/-- What follows a place is alike wherever the place is. -/
lemma moved (r : Reader) (n : ℕ) : AlikeAll May r.opened r.contents (r.moved n).contents := by
  induction length : r.rest.length using Nat.strongRecOn generalizing r n with
  | _ length' ih =>
    subst length
    cases step : r.next with
    | stop p reason =>
      obtain ⟨q, reason', step'⟩ := Reader.next_moved_stop step n
      rw [Reader.contents_of_stop step, Reader.contents_of_stop step']
      exact ⟨.stopped, trivial⟩
    | event e p r' =>
      obtain ⟨q, m, step'⟩ := Reader.next_moved step n
      exact of_next step step' (ih _ (Reader.length_next step) r' m rfl)

/-- The documents go on alike from a place if they go on alike behind the same way. -/
lemma of_comes {stop stop' : Reader} {events : List Event} (way : r.Comes events stop)
    (way' : s.Comes events stop') (h : AlikeAll May stop.opened stop.contents stop'.contents) :
    AlikeAll May r.opened r.contents s.contents := by
  induction way generalizing s with
  | here r =>
    cases way'
    exact h
  | past step _ ih =>
    cases way' with
    | past step' more' => exact of_next step step' (ih more' h)

/-- At a place where an element is spelled in the one way or in the other, the documents go on
alike. -/
lemma of_spelled {r₁ r₂ : Reader} {name : List Char} {q n : ℕ} (may : May (levels r.opened) name)
    (opens : r.next = .event (.start name) p r₁) (closes : r₁.next = .event (.close name) q r₂)
    (empty : s.next = .event (.empty name) p' (r₂.moved n)) :
    AlikeAll May r.opened r.contents s.contents := by
  have opened : r₂.opened = r.opened := by
    rcases Reader.next_inv opens with ⟨_, ⟨⟩, inner⟩ | ⟨_, ⟨⟩, -⟩ | ⟨⟨-, ⟨⟩⟩, -⟩
    rcases Reader.next_inv closes with ⟨_, ⟨⟩, -⟩ | ⟨_, ⟨⟩, -, outer⟩ | ⟨⟨-, ⟨⟩⟩, -⟩
    rw [inner] at outer
    exact (List.cons_eq_cons.1 outer).2.symm
  have behind : AlikeAll May r₂.opened r₂.contents (r₂.moved n).contents := moved r₂ n
  rw [opened] at behind
  rw [Reader.contents_of_next opens, Reader.contents_of_next closes, Reader.contents_of_next empty]
  exact ⟨.spelled may (behind.headD .stopped), behind.drop⟩

end AlikeAll

/-! ## Documents -/

/-- Wherever the characters stand, they are read as the start and the end tag of the element. -/
def IsPair (name w : List Char) : Prop :=
  ∀ r : Reader, ∀ more, r.rest = w ++ more → ∃ p q n r₁, r.next = .event (.start name) p r₁ ∧
    r₁.next = .event (.close name) q ⟨more, n, r.opened⟩

/-- Wherever the characters stand, they are read as a self-closing tag of the element. -/
def IsSelfClosing (name w : List Char) : Prop :=
  ∀ r : Reader, ∀ more, r.rest = w ++ more → ∃ p n,
    r.next = .event (.empty name) p ⟨more, n, r.opened⟩

variable {name front pair single back : List Char} {events : List Event}
  {opened : List (List Char)}

lemma isPair_tags (plain : Xml.isPlainName name) :
    IsPair name ((Event.start name).chars ++ (Event.close name).chars) := by
  intro r more begins
  rw [List.append_assoc] at begins
  obtain ⟨p, opens⟩ := Reader.next_start plain begins
  obtain ⟨q, closes⟩ := Reader.next_close (r := ⟨_, p, name :: r.opened⟩) plain rfl rfl
  exact ⟨p, q, q, _, opens, closes⟩

lemma isSelfClosing_tag (plain : Xml.isPlainName name) :
    IsSelfClosing name (Event.empty name).chars := by
  intro r more begins
  obtain ⟨p, step⟩ := Reader.next_empty plain begins
  exact ⟨p, p, step⟩

/-- A tag begins with its bracket. -/
lemma begins_of_next {r r' : Reader} {e : Event} {p : ℕ} (h : r.next = .event e p r')
    (tag : ∀ raw, e ≠ .text raw) : ∃ cs, r.rest = '<' :: cs := by
  unfold Reader.next at h
  split at h
  · cases h
  rename_i c cs begins
  split at h
  · rename_i is
    exact ⟨cs, by rw [begins, is]⟩
  · cases h
    exact absurd rfl (tag _)

lemma IsPair.begins (h : IsPair name pair) (back : List Char) : ∃ cs, pair ++ back = '<' :: cs := by
  obtain ⟨p, q, n, r₁, opens, -⟩ := h ⟨pair ++ back, 0, []⟩ back rfl
  exact begins_of_next opens nofun

lemma IsSelfClosing.begins (h : IsSelfClosing name single) (back : List Char) :
    ∃ cs, single ++ back = '<' :: cs := by
  obtain ⟨p, n, step⟩ := h ⟨single ++ back, 0, []⟩ back rfl
  exact begins_of_next step nofun

/-- Two documents are alike that differ in the spelling of one element without content. -/
theorem alike_ofChars (isPair : IsPair name pair) (isSingle : IsSelfClosing name single)
    (place : IsPlace front (pair ++ back) events opened ∨
      IsPlace front (single ++ back) events opened) (may : May (levels opened) name) :
    Alike May 0 (.ofChars (front ++ (pair ++ back))) (.ofChars (front ++ (single ++ back))) := by
  obtain ⟨cs, begins⟩ := isPair.begins back
  obtain ⟨cs', begins'⟩ := isSingle.begins back
  rw [begins, begins'] at place
  obtain ⟨n, leads⟩ : Xml.Leads front events opened :=
    place.elim Xml.leads_of_isPlace Xml.leads_of_isPlace
  obtain ⟨p, q, m, r₁, opens, closes⟩ := isPair ⟨pair ++ back, n, opened⟩ back rfl
  obtain ⟨p', m', empty⟩ := isSingle ⟨single ++ back, n, opened⟩ back rfl
  rw [begins] at opens
  rw [begins'] at empty
  have there : AlikeAll May opened _ _ := AlikeAll.of_spelled may opens closes empty
  have whole := AlikeAll.of_comes (leads cs) (leads cs') there
  rw [begins, begins', Reader.contents_ofChars, Reader.contents_ofChars]
  exact whole.headD .stopped

end PerfGate.XmlRpc
