import Mathlib.Data.List.DropRight
import Mathlib.Tactic.Lemma
import PerfGate.Text.Blank
import PerfGate.Text.Line

/-!
# Trimmed lines

Trimming leaves a text that has no blank at either end (`head?_trimChars`), and leaves such a text
as it is (`trimChars_of_ends`); blanks around a text make no difference (`trimChars_pad`). A text
that is put together from lines, each with a line feed behind it, is cut into these lines
(`lines_join`), and one that is put together with commas into its parts (`splitOn_intercalate`).
-/

namespace PerfGate.Text

/-! ## Blanks at the ends -/

lemma trimChars_eq_rdropWhile (cs : List Char) :
    trimChars cs = (cs.dropWhile isBlank).rdropWhile isBlank := rfl

lemma trimChars_sublist (cs : List Char) : (trimChars cs).Sublist cs :=
  (List.rdropWhile_prefix isBlank _).sublist.trans (List.dropWhile_sublist isBlank)

/-- What is left begins as it did before its end was trimmed. -/
lemma head?_trimChars (cs : List Char) : ∀ c ∈ (trimChars cs).head?, isBlank c = false := by
  intro c first
  obtain ⟨ending, whole⟩ : trimChars cs <+: cs.dropWhile isBlank := List.rdropWhile_prefix isBlank _
  cases kept : trimChars cs with
  | nil =>
    rw [kept] at first
    cases first
  | cons d rest =>
    have stop := List.head?_dropWhile_not isBlank cs
    rw [kept] at first
    cases first
    rw [← whole, kept] at stop
    exact stop

/-- A text keeps the character that it begins with unless it is a blank. -/
lemma head?_trimChars_of_not_blank {cs : List Char} {c : Char} (first : cs.head? = some c)
    (visible : isBlank c = false) : (trimChars cs).head? = some c := by
  cases cs with
  | nil => cases first
  | cons d rest =>
    cases first
    have kept : (c :: rest).dropWhile isBlank = c :: rest :=
      List.dropWhile_cons_of_neg (Bool.eq_false_iff.1 visible)
    obtain ⟨ending, whole⟩ : trimChars (c :: rest) <+: c :: rest := by
      rw [trimChars_eq_rdropWhile, kept]
      exact List.rdropWhile_prefix isBlank _
    cases left : trimChars (c :: rest) with
    | nil =>
      rw [trimChars_eq_rdropWhile, kept, List.rdropWhile_eq_nil_iff] at left
      exact absurd (left c List.mem_cons_self) (Bool.eq_false_iff.1 visible)
    | cons x xs =>
      rw [left] at whole
      cases whole
      rfl

/-- A text without a blank at either end is left as it is. -/
lemma trimChars_of_ends {cs : List Char} (first : ∀ c ∈ cs.head?, isBlank c = false)
    (last : ∀ c ∈ cs.getLast?, isBlank c = false) : trimChars cs = cs := by
  have begins : cs.dropWhile isBlank = cs := by
    cases cs with
    | nil => rfl
    | cons c rest => exact List.dropWhile_cons_of_neg (Bool.eq_false_iff.1 (first c rfl))
  rw [trimChars_eq_rdropWhile, begins, List.rdropWhile_eq_self_iff]
  intro some
  exact Bool.eq_false_iff.1 (last _ (List.getLast?_eq_some_getLast some))

lemma getLast?_trimChars (cs : List Char) : ∀ c ∈ (trimChars cs).getLast?, isBlank c = false := by
  intro c last
  have some : trimChars cs ≠ [] := by
    rintro empty
    rw [empty] at last
    cases last
  obtain rfl : (trimChars cs).getLast some = c := by
    rw [List.getLast?_eq_some_getLast some] at last
    exact Option.some_inj.1 last
  exact Bool.eq_false_iff.2 (List.rdropWhile_last_not isBlank _ some)

/-- Trimming leaves nothing to trim. -/
lemma trimChars_trimChars (cs : List Char) : trimChars (trimChars cs) = trimChars cs :=
  trimChars_of_ends (head?_trimChars cs) (getLast?_trimChars cs)

lemma rdropWhile_append_of_pos {p : Char → Bool} {right : List Char} (blank : ∀ c ∈ right, p c)
    (cs : List Char) : (cs ++ right).rdropWhile p = cs.rdropWhile p := by
  rw [List.rdropWhile, List.reverse_append, List.dropWhile_append_of_pos, List.rdropWhile]
  exact fun c hc => blank c (List.mem_reverse.1 hc)

/-- Blanks around a text are trimmed with its own. -/
lemma trimChars_pad {left right : List Char} (hl : ∀ c ∈ left, isBlank c)
    (hr : ∀ c ∈ right, isBlank c) (cs : List Char) :
    trimChars (left ++ cs ++ right) = trimChars cs := by
  rw [trimChars_eq_rdropWhile, trimChars_eq_rdropWhile, List.append_assoc,
    List.dropWhile_append_of_pos hl, List.dropWhile_append]
  split
  · rename_i empty
    rw [List.isEmpty_iff.1 empty, List.dropWhile_eq_nil_iff.2 hr]
  · exact rdropWhile_append_of_pos hr _

/-- A blank at the end is trimmed in any case. -/
lemma trimChars_rdropWhile (cs : List Char) : trimChars (cs.rdropWhile isBlank) = trimChars cs := by
  have dropped : ∀ c ∈ cs.rtakeWhile isBlank, isBlank c := fun c mem =>
    List.mem_rtakeWhile_imp mem
  have pad := trimChars_pad (List.forall_mem_nil _) dropped (cs.rdropWhile isBlank)
  rw [List.nil_append, List.rdropWhile_append_rtakeWhile] at pad
  exact pad.symm

/-- From the end, nothing is dropped in front of what has to stay. -/
lemma rdropWhile_append_cons {p : Char → Bool} {mark : Char} (front : List Char) (stays : ¬ p mark)
    (rest : List Char) :
    (front ++ mark :: rest).rdropWhile p = front ++ mark :: rest.rdropWhile p := by
  induction rest using List.reverseRecOn with
  | nil => exact List.rdropWhile_concat_neg _ _ _ stays
  | append_singleton rest c ih =>
    have whole : front ++ mark :: (rest ++ [c]) = (front ++ mark :: rest) ++ [c] := by
      rw [List.append_assoc, List.cons_append]
    rw [whole]
    by_cases dropped : p c
    · rw [List.rdropWhile_concat_pos _ _ _ dropped, List.rdropWhile_concat_pos _ _ _ dropped, ih]
    · rw [List.rdropWhile_concat_neg _ _ _ dropped, List.rdropWhile_concat_neg _ _ _ dropped, whole]

/-- Nothing is trimmed between two characters that are not blanks. -/
lemma trimChars_append_cons {front : List Char} {mark : Char}
    (first : ∀ c ∈ front.head?, isBlank c = false) (visible : isBlank mark = false)
    (rest : List Char) :
    trimChars (front ++ mark :: rest) = front ++ mark :: rest.rdropWhile isBlank := by
  have stays := Bool.eq_false_iff.1 visible
  have begins : (front ++ mark :: rest).dropWhile isBlank = front ++ mark :: rest := by
    cases front with
    | nil => exact List.dropWhile_cons_of_neg stays
    | cons c front => exact List.dropWhile_cons_of_neg (Bool.eq_false_iff.1 (first c rfl))
  rw [trimChars_eq_rdropWhile, begins, rdropWhile_append_cons front stays]

lemma trim_trimChars (cs : List Char) :
    trim (String.ofList (trimChars cs)) = String.ofList (trimChars cs) := by
  rw [trim, String.toList_ofList, trimChars_trimChars]

/-! ## Commas -/

/-- Texts with commas between them are cut apart again. -/
lemma splitOn_intercalate {texts : List String} (some : texts ≠ [])
    (plain : ∀ text ∈ texts, ',' ∉ text.toList) :
    (String.intercalate "," texts).toList.splitOn ',' = texts.map String.toList := by
  rw [String.toList_intercalate]
  exact List.splitOn_intercalate ',' (List.forall_mem_map.2 plain) (mt List.map_eq_nil_iff.1 some)

/-! ## Line feeds -/

section

variable {α : Type} [BEq α] [LawfulBEq α] {feed ret : α}

lemma splitOn_flatMap {lines : List (List α)} (plain : ∀ line ∈ lines, feed ∉ line) :
    (lines.flatMap (· ++ [feed])).splitOn feed = lines ++ [[]] := by
  induction lines with
  | nil => exact List.splitOn_nil feed
  | cons line lines ih =>
    obtain ⟨head, plain⟩ := List.forall_mem_cons.1 plain
    rw [List.flatMap_cons, List.append_assoc, List.singleton_append,
      List.splitOn_append_cons_self_of_not_mem head, ih plain]
    rfl

/-- What has no line feed in it is a part of the first piece. -/
lemma splitOn_append_of_not_mem {front : List α} (plain : feed ∉ front) (rest : List α) :
    (front ++ rest).splitOn feed = (rest.splitOn feed).modifyHead (front ++ ·) := by
  induction front with
  | nil =>
    obtain ⟨first, pieces, cut⟩ := List.exists_cons_of_ne_nil (List.splitOn_ne_nil feed rest)
    rw [List.nil_append, cut]
    rfl
  | cons c front ih =>
    obtain ⟨other, plain⟩ := not_or.1 (mt List.mem_cons.2 plain)
    rw [List.cons_append, List.splitOn_cons_eq_if_modifyHead,
      if_neg (mt eq_of_beq (Ne.symm other)), ih plain, List.modifyHead_modifyHead]
    rfl

/-- Lines with a line feed behind each of them are cut apart again. -/
lemma linesBy_flatMap {lines : List (List α)} (plain : ∀ line ∈ lines, feed ∉ line) :
    linesBy feed ret (lines.flatMap (· ++ [feed])) = lines.map (dropReturn ret) := by
  rw [linesBy, splitOn_flatMap plain, List.dropLast_concat, List.getLast?_concat]
  rfl

/-- The units end with a line feed, if there are any. -/
def Complete (feed : α) (units : List α) : Prop :=
  ∀ c ∈ units.getLast?, c = feed

omit [LawfulBEq α] in
lemma linesBy_nil : linesBy feed ret [] = [] := by
  rw [linesBy, List.splitOn_nil]
  rfl

lemma linesBy_append_cons (front rest : List α) :
    linesBy feed ret (front ++ feed :: rest) =
      (front.splitOn feed).map (dropReturn ret) ++ linesBy feed ret rest := by
  have some := List.splitOn_ne_nil feed rest
  rw [linesBy, linesBy, List.splitOn_append_cons_self, List.dropLast_append_of_ne_nil some,
    List.getLast?_append_of_ne_nil _ some, List.map_append]
  cases (rest.splitOn feed).getLast? with
  | none => rfl
  | some last =>
    simp only
    split
    · rfl
    · rw [List.append_assoc]

/-- What follows complete lines is cut into lines of its own. -/
lemma Complete.linesBy_append {front : List α} (complete : Complete feed front) (rest : List α) :
    linesBy feed ret (front ++ rest) = linesBy feed ret front ++ linesBy feed ret rest := by
  cases front using List.reverseRecOn with
  | nil => rw [linesBy_nil]; rfl
  | append_singleton front c =>
    obtain rfl : c = feed := complete c (by rw [List.getLast?_concat]; rfl)
    rw [List.append_assoc, List.singleton_append, linesBy_append_cons, linesBy_append_cons,
      linesBy_nil, List.append_nil]

omit [BEq α] [LawfulBEq α] in
lemma complete_flatMap (lines : List (List α)) : Complete feed (lines.flatMap (· ++ [feed])) := by
  cases lines using List.reverseRecOn with
  | nil => exact nofun
  | append_singleton lines line =>
    rw [List.flatMap_append, List.flatMap_singleton, ← List.append_assoc]
    intro c last
    rw [List.getLast?_concat, Option.mem_some_iff] at last
    exact last.symm

lemma linesBy_eq_nil_iff {units : List α} : linesBy feed ret units = [] ↔ units = [] := by
  constructor
  · intro none
    have joined : [feed].intercalate (units.splitOn feed) = units := List.intercalate_splitOn feed
    rcases List.eq_nil_or_concat (units.splitOn feed) with empty | ⟨pieces, last, cut⟩
    · exact absurd empty (List.splitOn_ne_nil feed units)
    rw [List.concat_eq_append] at cut
    rw [linesBy, cut, List.dropLast_concat, List.getLast?_concat] at none
    simp only at none
    split at none
    · rename_i blank
      rw [cut, List.map_eq_nil_iff.1 none, List.isEmpty_iff.1 blank] at joined
      exact joined.symm
    · exact absurd none (List.append_ne_nil_of_right_ne_nil _ (List.cons_ne_nil _ _))
  · rintro rfl
    exact linesBy_nil

/-- A return at the end of a line is dropped. -/
lemma dropReturn_concat (line : List α) : dropReturn ret (line ++ [ret]) = line := by
  rw [dropReturn, List.getLast?_concat]
  simp

/-- A line that does not end in a return is left as it is. -/
lemma dropReturn_of_last {line : List α} (last : ∀ c ∈ line.getLast?, c ≠ ret) :
    dropReturn ret line = line := by
  unfold dropReturn
  split
  · rename_i c is
    rw [if_neg]
    exact fun same => last c is (eq_of_beq same)
  · rfl

/-- The first character of a line stays unless it is a return. -/
lemma head?_dropReturn {line : List α} {c : α} (first : line.head? = some c) (other : c ≠ ret) :
    (dropReturn ret line).head? = some c := by
  unfold dropReturn
  split
  · rename_i d last
    split
    · rename_i same
      cases line with
      | nil => cases first
      | cons x rest =>
        cases first
        cases rest with
        | nil =>
          cases last
          exact absurd (eq_of_beq same) other
        | cons y rest => rfl
    · exact first
  · exact first

omit [LawfulBEq α] in
lemma mem_of_mem_dropReturn {c : α} {line : List α} (mem : c ∈ dropReturn ret line) :
    c ∈ line := by
  unfold dropReturn at mem
  split at mem
  · split at mem
    · exact (List.dropLast_sublist line).mem mem
    · exact mem
  · exact mem

lemma not_mem_of_mem_splitOn {cs piece : List α} (mem : piece ∈ cs.splitOn feed) :
    feed ∉ piece := by
  induction cs generalizing piece with
  | nil =>
    rw [List.splitOn_nil, List.mem_singleton] at mem
    rw [mem]
    exact List.not_mem_nil
  | cons c cs ih =>
    rw [List.splitOn_cons_eq_if_modifyHead] at mem
    split at mem
    · rcases List.mem_cons.1 mem with rfl | mem
      · exact List.not_mem_nil
      · exact ih mem
    · rename_i other
      obtain ⟨first, rest, cut⟩ := List.exists_cons_of_ne_nil (List.splitOn_ne_nil feed cs)
      rw [cut] at ih mem
      rcases List.mem_cons.1 mem with rfl | mem
      · rw [List.mem_cons]
        rintro (rfl | later)
        · exact other (beq_self_eq_true _)
        · exact ih List.mem_cons_self later
      · exact ih (List.mem_cons_of_mem _ mem)

/-- A line has no line feed. -/
lemma not_mem_of_mem_linesBy {cs line : List α} (mem : line ∈ linesBy feed ret cs) :
    feed ∉ line := by
  have ended : ∀ line ∈ (cs.splitOn feed).dropLast.map (dropReturn ret), feed ∉ line := by
    intro line mem
    obtain ⟨piece, cut, rfl⟩ := List.mem_map.1 mem
    have plain := not_mem_of_mem_splitOn ((List.dropLast_sublist _).mem cut)
    exact fun inside => plain (mem_of_mem_dropReturn inside)
  rw [linesBy] at mem
  cases last : (cs.splitOn feed).getLast? with
  | none =>
    rw [last] at mem
    exact ended line mem
  | some piece =>
    rw [last] at mem
    simp only at mem
    split at mem
    · exact ended line mem
    · rcases List.mem_append.1 mem with mem | mem
      · exact ended line mem
      · rw [List.mem_singleton.1 mem]
        exact not_mem_of_mem_splitOn (List.mem_of_getLast? last)

end

/-- Of texts with a line feed behind each, every one is cut into lines of its own. -/
lemma lines_join_cons (text : String) (texts : List String) :
    lines (String.join ((text :: texts).map (· ++ "\n"))) =
      (text.toList.splitOn '\n').map (dropReturn '\r') ++
        lines (String.join (texts.map (· ++ "\n"))) := by
  have chars : (String.join ((text :: texts).map (· ++ "\n"))).toList =
      text.toList ++ '\n' :: (String.join (texts.map (· ++ "\n"))).toList := by
    simp [String.toList_join]
  rw [lines, chars, linesBy_append_cons]
  rfl

/-- A text that is put together from lines is cut into them again. -/
lemma lines_join {texts : List String} (plain : ∀ text ∈ texts, '\n' ∉ text.toList) :
    lines (String.join (texts.map (· ++ "\n"))) =
      texts.map fun text => dropReturn '\r' text.toList := by
  have chars : (String.join (texts.map (· ++ "\n"))).toList =
      (texts.map String.toList).flatMap (· ++ ['\n']) := by
    rw [String.toList_join, List.flatMap_map, List.flatMap_map]
    simp only [String.toList_append]
    rfl
  have apart : ∀ line ∈ texts.map String.toList, '\n' ∉ line := by
    intro line mem
    obtain ⟨text, listed, rfl⟩ := List.mem_map.1 mem
    exact plain text listed
  rw [lines, chars, linesBy_flatMap apart, List.map_map]
  rfl

end PerfGate.Text
