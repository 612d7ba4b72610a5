import PerfGate.Proofs.Xml.Run

/-!
# Places in a document

What the reader comes upon from a place on depends on the characters behind it and on the elements
that are open there. The number of bytes before it counts only in the positions that are reported
(`next_moved`). `Leads` says of the characters at the front of a document that they come to such a
place, whatever markup stands behind them; one document in which they do is enough to know it
(`leads_of_isPlace`).
-/

namespace PerfGate.Xml

namespace Reader

variable {r r' stop : Reader} {e : Event} {p : Nat} {events : List Event}

/-- The place, with another number of bytes before it. -/
def moved (r : Reader) (offset : Nat) : Reader :=
  { r with offset }

/-! ## Steps -/

/-- The step comes upon the event, and then to a place at these characters, with these elements
open. -/
def Meets (e : Event) (rest : List Char) (opened : List (List Char)) : Step → Prop
  | .event e' _ r => e' = e ∧ r.rest = rest ∧ r.opened = opened
  | .stop .. => False

lemma closeTag_moved (h : r.closeTag = .event e p r') (n : Nat) :
    Meets e r'.rest r'.opened (r.moved n).closeTag := by
  unfold closeTag at h
  simp only at h
  split at h
  · cases h
  rename_i expected opened is
  split at h
  · rename_i named
    cases h
    simp only [closeTag, moved, is, if_pos named]
    exact ⟨rfl, rfl, rfl⟩
  · cases h

lemma instruction_moved (h : r.instruction = .event e p r') (n : Nat) :
    Meets e r'.rest r'.opened (r.moved n).instruction := by
  unfold instruction at h
  simp only at h
  split at h
  · rename_i complete
    cases h
    -- stated of the place that was moved, as the condition is decided there
    have complete' : 2 < Text.utf8Length (content (r.moved n).rest).1 ∧
        (content (r.moved n).rest).1.getLast? = some '?' := complete
    simp only [instruction, if_pos complete']
    exact ⟨rfl, rfl, rfl⟩
  · cases h

lemma cdata_moved (h : r.cdata = .event e p r') (n : Nat) :
    Meets e r'.rest r'.opened (r.moved n).cdata := by
  unfold cdata at h
  split at h
  · cases h
  rename_i inside rest scanned
  split at h
  · rename_i opening
    cases h
    simp only [cdata, moved, scanned, if_pos opening]
    exact ⟨rfl, rfl, rfl⟩
  · cases h

lemma comment_moved (h : r.comment = .event e p r') (n : Nat) :
    Meets e r'.rest r'.opened (r.moved n).comment := by
  unfold comment at h
  split at h
  · cases h
  rename_i inside rest scanned
  split at h
  · rename_i opening
    cases h
    simp only [comment, moved, scanned, if_pos opening]
    exact ⟨rfl, rfl, rfl⟩
  · cases h

lemma doctype_moved (h : r.doctype = .event e p r') (n : Nat) :
    Meets e r'.rest r'.opened (r.moved n).doctype := by
  unfold doctype at h
  split at h
  · cases h
  rename_i inside rest scanned
  simp only at h
  split at h
  · cases h
  rename_i opening
  split at h
  · cases h
  rename_i nonempty
  cases h
  simp only [doctype, moved, scanned, if_neg opening, if_neg nonempty]
  exact ⟨rfl, rfl, rfl⟩

lemma declaration_moved {c? : Option Char} (h : r.declaration c? = .event e p r') (n : Nat) :
    Meets e r'.rest r'.opened ((r.moved n).declaration c?) := by
  unfold declaration at h ⊢
  cases c? with
  | none => cases h
  | some c =>
    simp only at h ⊢
    split at h
    · rename_i is
      rw [if_pos is]
      exact cdata_moved h n
    rename_i isNot
    rw [if_neg isNot]
    split at h
    · rename_i is
      rw [if_pos is]
      exact comment_moved h n
    rename_i isNot'
    rw [if_neg isNot']
    split at h
    · rename_i is
      rw [if_pos is]
      exact doctype_moved h n
    · cases h

lemma openTag_moved (h : r.openTag = .event e p r') (n : Nat) :
    Meets e r'.rest r'.opened (r.moved n).openTag := by
  unfold openTag at h
  split at h
  · cases h
  rename_i inside rest scanned
  split at h
  · rename_i closing
    cases h
    simp only [openTag, moved, scanned, if_pos closing]
    exact ⟨rfl, rfl, rfl⟩
  · rename_i opening
    cases h
    simp only [openTag, moved, scanned, if_neg opening]
    exact ⟨rfl, rfl, rfl⟩

lemma markup_moved (h : r.markup = .event e p r') (n : Nat) :
    Meets e r'.rest r'.opened (r.moved n).markup := by
  unfold markup at h
  split at h
  · cases h
  rename_i c cs begins
  have begins' : (r.moved n).rest = c :: cs := begins
  split at h
  · rename_i is
    simp only [markup, begins', if_pos is]
    exact closeTag_moved h n
  rename_i notClose
  split at h
  · rename_i is
    simp only [markup, begins', if_neg notClose, if_pos is]
    exact instruction_moved h n
  rename_i notInstruction
  split at h
  · rename_i is
    simp only [markup, begins', if_neg notClose, if_neg notInstruction, if_pos is]
    exact declaration_moved h n
  · rename_i notDeclaration
    simp only [markup, begins', if_neg notClose, if_neg notInstruction, if_neg notDeclaration]
    exact openTag_moved h n

/-- The same event comes next, however many bytes stand before the place. -/
lemma next_moved (h : r.next = .event e p r') (n : Nat) :
    ∃ q m, (r.moved n).next = .event e q (r'.moved m) := by
  have meets : Meets e r'.rest r'.opened (r.moved n).next := by
    unfold next at h
    split at h
    · cases h
    rename_i c cs begins
    have begins' : (r.moved n).rest = c :: cs := begins
    split at h
    · rename_i is
      simp only [next, begins', if_pos is]
      exact markup_moved h (n + 1)
    · rename_i isNot
      simp only [next, begins', if_neg isNot]
      cases h
      exact ⟨rfl, rfl, rfl⟩
  generalize (r.moved n).next = step at meets
  cases step with
  | stop _ _ => exact meets.elim
  | event e' q s =>
    obtain ⟨rfl, rest, opened⟩ := meets
    obtain ⟨_, m, _⟩ := s
    cases rest
    cases opened
    exact ⟨q, m, rfl⟩

/-- Nothing comes next either, wherever the place is. -/
lemma next_moved_stop {reason : SyntaxError} (h : r.next = .stop p reason) (n : Nat) :
    ∃ q reason', (r.moved n).next = .stop q reason' := by
  cases step : (r.moved n).next with
  | stop q reason' => exact ⟨q, reason', rfl⟩
  | event e q r' =>
    obtain ⟨_, _, back⟩ := next_moved step r.offset
    have same : r.next = .event e _ _ := back
    rw [h] at same
    cases same

/-! ## Ways through a document -/

/-- The reader comes past these events to the place `stop`. -/
inductive Comes : Reader → List Event → Reader → Prop
  | here (r : Reader) : Comes r [] r
  | past {r r' stop : Reader} {e : Event} {p : Nat} {events : List Event}
      (step : r.next = .event e p r') (more : Comes r' events stop) : Comes r (e :: events) stop

/-- The way to a place is the same in every document in which the same character comes next. -/
lemma Comes.goingOn (h : Comes r events stop) (more : stop.rest ≠ []) :
    ∃ taken, r.rest = taken ++ stop.rest ∧ ∀ t, t.head? = stop.rest.head? →
      Comes (r.goingOn (taken ++ t)) events (stop.goingOn t) := by
  induction h with
  | here r => exact ⟨[], rfl, fun t _ => .here _⟩
  | past step _ ih =>
    obtain ⟨taken, rest, same⟩ := ih more
    have left : taken ++ _ ≠ [] := List.append_ne_nil_of_right_ne_nil taken more
    rw [← rest] at left
    obtain ⟨taken', -, rest', same'⟩ := next_goingOn step left
    refine ⟨taken' ++ taken, by rw [rest', rest, List.append_assoc], fun t first => ?_⟩
    have begins := head?_append_congr taken first
    rw [← rest] at begins
    have step' := same' (taken ++ t) begins
    rw [← List.append_assoc] at step'
    exact .past step' (same t first)

end Reader

open Reader

/-- Whatever markup stands behind these characters in a document, the reader comes to it past these
events, with these elements open. -/
def Leads (front : List Char) (events : List Event) (opened : List (List Char)) : Prop :=
  ∃ n, ∀ t, Comes (start (front ++ '<' :: t)) events ⟨'<' :: t, n, opened⟩

/-- In the document of the two, the reader comes past these events to the place between them, with
these elements open. -/
def IsPlace (front back : List Char) (events : List Event) (opened : List (List Char)) : Prop :=
  ∃ n, Comes (start (front ++ back)) events ⟨back, n, opened⟩

/-- If there is a place behind the characters in one document, there is one in every document. -/
lemma leads_of_isPlace {front t : List Char} {events : List Event} {opened : List (List Char)}
    (h : IsPlace front ('<' :: t) events opened) : Leads front events opened := by
  obtain ⟨n, comes⟩ := h
  obtain ⟨taken, rest, same⟩ := comes.goingOn (List.cons_ne_nil _ _)
  have unmarked : withoutMark (front ++ '<' :: t) = (taken ++ ['<']) ++ t := by
    rw [List.append_assoc]
    exact rest
  obtain ⟨head, split, others⟩ := withoutMark_inv unmarked (by simp)
  obtain rfl : front ++ ['<'] = head := by
    rw [← List.singleton_append, ← List.append_assoc] at split
    exact List.append_cancel_right split
  refine ⟨n, fun t' => ?_⟩
  have unmarked' := others t'
  rw [List.append_assoc, List.append_assoc, List.singleton_append] at unmarked'
  have other := same ('<' :: t') rfl
  rw [start, unmarked']
  exact other

end PerfGate.Xml
