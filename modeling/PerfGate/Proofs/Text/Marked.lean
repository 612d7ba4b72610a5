import Mathlib.Data.List.Chain
import PerfGate.Proofs.Text.Line

/-!
# Lines that begin with a mark

`linesWith mark text` are the lines of a text that begin with a mark. Of a text that was printed
line by line they are those of its lines (`linesWith_join`), where a line that has line feeds in it
counts as several. A line has none of them if the mark stands neither at its beginning nor behind
one of its line feeds (`marked_eq_nil`). The marks of a build server begin with a colon, so a text
that is `Uncolonned` has none of them.
-/

namespace PerfGate.Text

variable {mark line : List Char}

/-- The lines of a text that begin with a mark. -/
def linesWith (mark : List Char) (text : String) : List (List Char) :=
  (lines text).filter mark.isPrefixOf

/-- The lines with the mark that a line amounts to when it is printed. -/
def marked (mark line : List Char) : List (List Char) :=
  ((line.splitOn '\n').map (dropReturn '\r')).filter mark.isPrefixOf

lemma filter_linesBy_flatMap (mark : List Char) (lines : List (List Char)) :
    (linesBy '\n' '\r' (lines.flatMap (· ++ ['\n']))).filter mark.isPrefixOf =
      lines.flatMap (marked mark) := by
  induction lines with
  | nil => rfl
  | cons line lines ih =>
    rw [List.flatMap_cons, List.append_assoc, List.singleton_append, linesBy_append_cons,
      List.filter_append, ih]
    rfl

/-- A text that is printed line by line has the marked lines of its lines. -/
lemma linesWith_join (mark : List Char) (texts : List String) :
    linesWith mark (String.join (texts.map (· ++ "\n"))) =
      (texts.map String.toList).flatMap (marked mark) := by
  have chars : (String.join (texts.map (· ++ "\n"))).toList =
      (texts.map String.toList).flatMap (· ++ ['\n']) := by
    rw [String.toList_join, List.flatMap_map, List.flatMap_map]
    simp only [String.toList_append]
    rfl
  rw [linesWith, lines, chars, filter_linesBy_flatMap]

/-- A line without a line feed is one line. -/
lemma marked_of_noFeed (plain : '\n' ∉ line) :
    marked mark line = [dropReturn '\r' line].filter mark.isPrefixOf := by
  rw [marked, List.splitOn_eq_singleton plain]
  rfl

/-! ## Lines without a mark -/

section

variable {α : Type} [BEq α] [LawfulBEq α]

/-- The first piece of a text is its beginning, and each other piece stands behind a line feed. -/
lemma pieces_of_splitOn (feed : α) (units : List α) :
    ∃ first rest, units.splitOn feed = first :: rest ∧ first <+: units ∧
      ∀ piece ∈ rest, feed :: piece <:+: units := by
  induction units with
  | nil => exact ⟨[], [], List.splitOn_nil feed, List.nil_prefix, List.forall_mem_nil _⟩
  | cons c units ih =>
    obtain ⟨first, rest, cut, start, behind⟩ := ih
    rw [List.splitOn_cons_eq_if_modifyHead, cut]
    split
    · rename_i isFeed
      obtain rfl : c = feed := eq_of_beq isFeed
      refine ⟨[], first :: rest, rfl, List.nil_prefix, ?_⟩
      intro piece mem
      rcases List.mem_cons.1 mem with rfl | mem
      · exact (List.cons_prefix_cons.2 ⟨rfl, start⟩).isInfix
      · exact (behind piece mem).trans (List.suffix_cons _ _).isInfix
    · refine ⟨c :: first, rest, rfl, List.cons_prefix_cons.2 ⟨rfl, start⟩, ?_⟩
      intro piece mem
      exact (behind piece mem).trans (List.suffix_cons _ _).isInfix

omit [LawfulBEq α] in
lemma dropReturn_isPrefix (ret : α) (units : List α) : dropReturn ret units <+: units := by
  unfold dropReturn
  split
  · split
    · exact List.dropLast_prefix units
    · exact List.prefix_rfl
  · exact List.prefix_rfl

end

lemma prefix_dropReturn {ret : Char} (last : ∀ c ∈ mark.getLast?, c ≠ ret) (rest : List Char) :
    mark <+: dropReturn ret (mark ++ rest) := by
  cases rest using List.reverseRecOn with
  | nil =>
    exact ⟨[], by rw [List.append_nil, dropReturn_of_last last]⟩
  | append_singleton rest c =>
    rw [dropReturn, ← List.append_assoc, List.getLast?_concat]
    simp only
    split
    · rw [List.dropLast_concat]
      exact List.prefix_append mark rest
    · rw [List.append_assoc]
      exact List.prefix_append mark _

/-- A mark that is neither at the beginning of a line nor behind a line feed marks nothing. -/
lemma marked_eq_nil (start : ¬ mark <+: line) (inner : ¬ '\n' :: mark <:+: line) :
    marked mark line = [] := by
  -- a piece with the mark would be the beginning of the line, or stand behind a line feed of it
  obtain ⟨first, rest, cut, begins, behind⟩ := pieces_of_splitOn '\n' line
  rw [marked, cut, List.filter_eq_nil_iff]
  intro piece mem marks
  obtain ⟨whole, among, rfl⟩ := List.mem_map.1 mem
  have onPiece : mark <+: whole :=
    (List.isPrefixOf_iff_prefix.1 marks).trans (dropReturn_isPrefix '\r' whole)
  rcases List.mem_cons.1 among with rfl | later
  · exact start (onPiece.trans begins)
  · have behindFeed : '\n' :: mark <+: '\n' :: whole := List.cons_prefix_cons.2 ⟨rfl, onPiece⟩
    exact inner (behindFeed.isInfix.trans (behind whole later))

/-- A mark at the beginning of a line is there when the line is printed. -/
lemma marked_ne_nil (start : mark <+: line) (plain : '\n' ∉ mark)
    (last : ∀ c ∈ mark.getLast?, c ≠ '\r') : marked mark line ≠ [] := by
  obtain ⟨rest, rfl⟩ := start
  have first : ∃ front pieces, (mark ++ rest).splitOn '\n' = (mark ++ front) :: pieces := by
    by_cases feed : '\n' ∈ rest
    · obtain ⟨front, behind, rfl, absent⟩ := List.eq_append_cons_of_mem feed
      have whole : '\n' ∉ mark ++ front := List.not_mem_append plain absent
      refine ⟨front, behind.splitOn '\n', ?_⟩
      rw [← List.append_assoc, List.splitOn_append_cons_self_of_not_mem whole]
    · exact ⟨rest, [], List.splitOn_eq_singleton (List.not_mem_append plain feed)⟩
  obtain ⟨front, pieces, cut⟩ := first
  rw [marked, cut, List.map_cons]
  apply List.ne_nil_of_mem (a := dropReturn '\r' (mark ++ front))
  rw [List.mem_filter]
  exact ⟨List.mem_cons_self, List.isPrefixOf_iff_prefix.2 (prefix_dropReturn last front)⟩

/-- What has no `c` in it lies on one side of a `c`. -/
lemma infix_of_infix_append {α : Type} {c : α} {needle before after : List α}
    (h : needle <:+: before ++ c :: after) (absent : c ∉ needle) :
    needle <:+: before ∨ needle <:+: after := by
  -- the `c` stands behind the needle, in front of it, or, which cannot be, inside it
  obtain ⟨front, back, whole⟩ := h
  rw [List.append_assoc, List.append_eq_append_iff] at whole
  rcases whole with ⟨middle, rfl, rest⟩ | ⟨middle, rfl, rest⟩
  · left
    rw [List.append_eq_append_iff] at rest
    rcases rest with ⟨more, rfl, -⟩ | ⟨more, rfl, rest⟩
    · exact ⟨front, more, List.append_assoc ..⟩
    · cases more with
      | nil => exact ⟨front, [], by simp⟩
      | cons d more =>
        cases rest
        exact absurd (List.mem_append_right _ List.mem_cons_self) absent
  · cases middle with
    | nil =>
      cases needle with
      | nil => exact .inl List.nil_infix
      | cons d needle =>
        cases rest
        exact absurd List.mem_cons_self absent
    | cons d middle =>
      obtain ⟨-, rest⟩ := List.cons.inj rest
      exact .inr ⟨middle, back, by rw [List.append_assoc]; exact rest.symm⟩

/-- Between two spaces, a text marks something only by a line feed of its own. -/
lemma marked_between {before inner after : List Char} (space : ' ' ∉ mark)
    (start : ¬ mark <+: before ++ ' ' :: (inner ++ ' ' :: after)) (plain : '\n' ∉ before)
    (plain' : '\n' ∉ after) (unmarked : ¬ '\n' :: mark <:+: inner) :
    marked mark (before ++ ' ' :: (inner ++ ' ' :: after)) = [] := by
  have absent : ' ' ∉ '\n' :: mark := by
    rw [List.mem_cons, not_or]
    exact ⟨by decide, space⟩
  apply marked_eq_nil start
  intro inside
  rcases infix_of_infix_append inside absent with inside | inside
  · exact plain (inside.subset List.mem_cons_self)
  · rcases infix_of_infix_append inside absent with inside | inside
    · exact unmarked inside
    · exact plain' (inside.subset List.mem_cons_self)

/-! ## Texts without colons at the beginnings of lines -/

/-- No line of the text begins with a colon. -/
structure Uncolonned (s : String) : Prop where
  first : ∀ c ∈ s.toList.head?, c ≠ ':'
  inner : s.toList.IsChain fun c d => c = '\n' → d ≠ ':'

lemma uncolonned_iff (s : String) : Uncolonned s ↔
    s.toList.head? ≠ some ':' ∧ s.toList.IsChain fun c d => c = '\n' → d ≠ ':' := by
  constructor
  · intro h
    exact ⟨fun head => h.first ':' head rfl, h.inner⟩
  · intro h
    exact ⟨fun c head same => h.1 (same ▸ head), h.2⟩

instance (s : String) : Decidable (Uncolonned s) :=
  decidable_of_iff _ (uncolonned_iff s).symm

/-- The text can stand anywhere in a line. -/
def IsInline (s : String) : Prop :=
  ∀ c ∈ s.toList, c ≠ '\n' ∧ c ≠ ':'

instance (s : String) : Decidable (IsInline s) :=
  List.decidableBAll _ s.toList

variable {s t : String}

lemma Uncolonned.append (h : Uncolonned s) (h' : Uncolonned t) : Uncolonned (s ++ t) := by
  constructor
  · -- the text begins as the first of the two does, or as the other one if there is none
    intro c head
    rw [String.toList_append, List.head?_append] at head
    cases whole : s.toList.head? with
    | none =>
      rw [whole] at head
      exact h'.first c head
    | some d =>
      rw [whole] at head
      cases head
      exact h.first c whole
  · rw [String.toList_append, List.isChain_append]
    exact ⟨h.inner, h'.inner, fun _ _ d head _ => h'.first d head⟩

/-- Without line feeds, only the first character counts. -/
lemma uncolonned_of_noFeed (first : ∀ c ∈ s.toList.head?, c ≠ ':') (plain : '\n' ∉ s.toList) :
    Uncolonned s := by
  refine ⟨first, (List.isChain_isInfix s.toList).imp fun c d pair isFeed => ?_⟩
  rw [isFeed] at pair
  exact absurd (pair.subset List.mem_cons_self) plain

lemma IsInline.noFeed (h : IsInline s) : '\n' ∉ s.toList :=
  fun mem => (h _ mem).1 rfl

lemma IsInline.uncolonned (h : IsInline s) : Uncolonned s :=
  uncolonned_of_noFeed (fun c head => (h c (List.mem_of_mem_head? head)).2) h.noFeed

lemma IsInline.append (h : IsInline s) (h' : IsInline t) : IsInline (s ++ t) := by
  intro c mem
  rw [String.toList_append, List.mem_append] at mem
  rcases mem with mem | mem
  · exact h c mem
  · exact h' c mem

/-- Two cells of a row. -/
lemma IsInline.spaced (h : IsInline s) (h' : IsInline t) : IsInline (s ++ " " ++ t) :=
  (h.append (by decide)).append h'

/-- A mark with a colon in front marks nothing in such a text. -/
lemma Uncolonned.marked (h : Uncolonned s) (mark : List Char) :
    marked (':' :: mark) s.toList = [] := by
  apply marked_eq_nil
  · intro ⟨rest, whole⟩
    have head : s.toList.head? = some ':' := by rw [← whole]; rfl
    exact h.first ':' head rfl
  · intro inner
    have chain := h.inner.infix inner
    exact (List.isChain_cons_cons.1 chain).1 rfl rfl

end PerfGate.Text
