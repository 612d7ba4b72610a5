import PerfGate.Proofs.Command.Verdict
import PerfGate.Proofs.Text.Line

/-!
# Names on the command line

A list of names is cut at its commas, and the blanks around each name are dropped, as they are where
a name is read from a line of a result file. So a name that is listed is the name that is measured
(`NameEntry.measures`), and the command `compare` applies the relaxed threshold to exactly the names
that are listed (`compare_names_listed`).
-/

namespace PerfGate

open Text (isBlank trim trimChars)

/-- A name that can stand in a list. -/
structure Listable (name : String) : Prop where
  nonempty : name ≠ ""
  trimmed : trim name = name
  noComma : ',' ∉ name.toList

lemma Listable.trimChars {name : String} (h : Listable name) :
    Text.trimChars name.toList = name.toList := by
  have trimmed := congrArg String.toList h.trimmed
  rwa [trim, String.toList_ofList] at trimmed

lemma Listable.toList_ne_nil {name : String} (h : Listable name) : name.toList ≠ [] :=
  mt String.toList_eq_nil_iff.1 h.nonempty

/-- An entry of a list: a name with blanks around it. -/
structure NameEntry where
  name : String
  left : String
  right : String
  listable : Listable name
  blank_left : ∀ c ∈ left.toList, isBlank c
  blank_right : ∀ c ∈ right.toList, isBlank c

namespace NameEntry

/-- How the entry is written. -/
def text (e : NameEntry) : String :=
  e.left ++ e.name ++ e.right

lemma toList_text (e : NameEntry) :
    e.text.toList = e.left.toList ++ e.name.toList ++ e.right.toList := by
  rw [text, String.toList_append, String.toList_append]

/-- Without its blanks an entry is the name. -/
lemma trimChars_text (e : NameEntry) : trimChars e.text.toList = e.name.toList := by
  rw [toList_text, Text.trimChars_pad e.blank_left e.blank_right, e.listable.trimChars]

/-- No entry is cut. -/
lemma not_mem_text {mark : Char} (visible : isBlank mark = false) {e : NameEntry}
    (h : mark ∉ e.name.toList) : mark ∉ e.text.toList := by
  have outside {blanks : List Char} (blank : ∀ c ∈ blanks, isBlank c) : mark ∉ blanks := by
    intro mem
    rw [blank mark mem] at visible
    cases visible
  rw [toList_text, List.mem_append, List.mem_append]
  rintro ((before | inside) | behind)
  · exact outside e.blank_left before
  · exact h inside
  · exact outside e.blank_right behind

/-- What is trimmed of a line on which an entry stands in front of a colon. -/
lemma trimChars_line (e : NameEntry) (rest : List Char) :
    trimChars (e.text.toList ++ ':' :: rest) =
      (e.name.toList ++ e.right.toList) ++ ':' :: rest.rdropWhile isBlank := by
  have first : ∀ c ∈ (e.name.toList ++ e.right.toList).head?, isBlank c = false := by
    rw [List.head?_append_of_ne_nil _ e.listable.toList_ne_nil, ← e.listable.trimChars]
    exact Text.head?_trimChars _
  have pad := Text.trimChars_pad e.blank_left (List.forall_mem_nil _)
    (e.name.toList ++ e.right.toList ++ ':' :: rest)
  rw [Text.trimChars_append_cons first (by decide)] at pad
  rw [← pad, toList_text, List.append_nil]
  simp only [List.append_assoc]

/-- In front of a colon on a line of a result file, an entry is read as its name. -/
lemma measures {e : NameEntry} (noColon : ':' ∉ e.name.toList)
    (noMark : e.name.toList.head? ≠ some '#') {number : String} {value : Float}
    (read : Decimal.readFloat (trim number) = some value) (finite : Decimal.isFinite value) :
    ResultFile.Measures (e.text.toList ++ ':' :: number.toList) e.name value := by
  refine ⟨_, _, e.trimChars_line number.toList, ?colon, ?mark, ?name, e.listable.nonempty, ?number,
    finite⟩
  case colon =>
    have apart := not_mem_text (by decide) noColon
    rw [toList_text, List.append_assoc] at apart
    exact fun mem => apart (List.mem_append_right _ mem)
  case mark =>
    rwa [List.head?_append_of_ne_nil _ e.listable.toList_ne_nil]
  case name =>
    have pad := Text.trimChars_pad (List.forall_mem_nil _) e.blank_right e.name.toList
    rw [List.nil_append, e.listable.trimChars] at pad
    rw [pad, String.ofList_toList]
  case number =>
    rw [Text.trimChars_rdropWhile, ← trim]
    exact read

end NameEntry

/-- A name that is read from a line can be listed, if no comma is in it. -/
lemma listable_of_measures {line : List Char} {name : String} {value : Float}
    (h : ResultFile.Measures line name value) (noComma : ',' ∉ name.toList) : Listable name := by
  obtain ⟨before, after, -, -, -, rfl, nonempty, -, -⟩ := h
  exact ⟨nonempty, Text.trim_trimChars before, noComma⟩

/-- The entries with commas between them. -/
def listText (entries : List NameEntry) : String :=
  String.intercalate "," (entries.map NameEntry.text)

namespace Policy

/-- A list of names is read as the names. -/
lemma parseNames_listText {entries : List NameEntry} (nonempty : entries ≠ []) :
    parseNames (listText entries) = .ok (entries.map NameEntry.name) := by
  have plain : ∀ text ∈ entries.map NameEntry.text, ',' ∉ text.toList :=
    List.forall_mem_map.2 fun e _ => NameEntry.not_mem_text (by decide) e.listable.noComma
  have pieces : (listText entries).toList.splitOn ',' = entries.map (·.text.toList) := by
    rw [listText, Text.splitOn_intercalate (mt List.map_eq_nil_iff.1 nonempty) plain, List.map_map,
      Function.comp_def]
  have named : ¬ ∃ piece ∈ (listText entries).toList.splitOn ',', ∀ c ∈ piece, isBlank c := by
    rw [pieces]
    rintro ⟨piece, mem, blank⟩
    obtain ⟨e, -, rfl⟩ := List.mem_map.1 mem
    rw [← Text.trimChars_eq_nil_iff, e.trimChars_text] at blank
    exact e.listable.toList_ne_nil blank
  rw [parseNames_of_not_blank named, namePieces, pieces, List.map_map]
  congr 1
  refine List.map_congr_left fun e _ => ?_
  rw [Function.comp_apply, e.trimChars_text, String.ofList_toList]

end Policy

namespace Command

/-- The policy of a list of names. -/
lemma exists_policy_listText {entries : List NameEntry} (nonempty : entries ≠ [])
    {o : CompareOptions} {relaxed : Float} (given : o.relaxedNames = some (listText entries))
    (tier : o.relaxedThreshold = some relaxed) (valid : Policy.isValidPct o.threshold)
    (validRelaxed : Policy.isValidPct relaxed) :
    ∃ p, o.policy.value = .ok p ∧ ∀ name, p.effective name =
      if name ∈ entries.map NameEntry.name then relaxed else o.threshold := by
  obtain ⟨p, made, effective⟩ := Policy.overrides_of_isValidPct ⟨o.threshold, ∅⟩
    (entries.map NameEntry.name) validRelaxed
  have named : o.Named (some (entries.map NameEntry.name)) := by
    rw [CompareOptions.Named, given, Option.mapM_some, Policy.parseNames_listText nonempty]
    rfl
  refine ⟨p, ?_, fun name => ?_⟩
  · rw [CompareOptions.policy_of_named named, Policy.new_of_isValidPct valid, tier]
    exact made
  · rw [effective, effective_default]

/-- The names that are listed on the command line are the names that are meant. The list is read as
these names, in order; the command gives them the relaxed threshold, and every other name the
default. Only a list with a blank piece is refused. In front of a colon on a line of a result file,
an entry of the list is read as the same name, and every name that is read from such a line can be
listed unless there is a comma in it. -/
theorem compare_names_listed {entries : List NameEntry} (nonempty : entries ≠ [])
    {o : CompareOptions} {relaxed : Float} (given : o.relaxedNames = some (listText entries))
    (tier : o.relaxedThreshold = some relaxed) (valid : Policy.isValidPct o.threshold)
    (validRelaxed : Policy.isValidPct relaxed) :
    Policy.parseNames (listText entries) = .ok (entries.map NameEntry.name) ∧
      (∃ p, o.policy.value = .ok p ∧ ∀ name, p.effective name =
        if name ∈ entries.map NameEntry.name then relaxed else o.threshold) ∧
      (∀ raw f, Policy.parseNames raw = .error f ↔
        f = .invalidConfig "relaxed-benchmarks" s!"malformed benchmark list '{raw}'" ∧
          ∃ piece ∈ raw.toList.splitOn ',', ∀ c ∈ piece, isBlank c) ∧
      (∀ e ∈ entries, ':' ∉ e.name.toList → e.name.toList.head? ≠ some '#' →
        ∀ number value, Decimal.readFloat (trim number) = some value → Decimal.isFinite value →
          ResultFile.Measures (e.text.toList ++ ':' :: number.toList) e.name value) ∧
      ∀ line name value, ResultFile.Measures line name value → ',' ∉ name.toList →
        Listable name := by
  refine ⟨?read, ?policy, ?refused, ?measured, ?listed⟩
  case read =>
    exact Policy.parseNames_listText nonempty
  case policy =>
    exact exists_policy_listText nonempty given tier valid validRelaxed
  case refused =>
    exact fun raw f => Policy.parseNames_eq_error_iff
  case measured =>
    exact fun e _ noColon noMark number value read finite =>
      NameEntry.measures noColon noMark read finite
  case listed =>
    exact fun line name value measured noComma => listable_of_measures measured noComma

/-- Three entries with blanks of several kinds around them. One name is listed twice, and one has a
blank inside. -/
def paddedEntries : List NameEntry :=
  [⟨"add", "\u00a0", "\t ", ⟨by decide, by decide, by decide⟩,
      List.all_eq_true.1 (by decide), List.all_eq_true.1 (by decide)⟩,
    ⟨"é x", "", "\u3000", ⟨by decide, by decide, by decide⟩,
      List.all_eq_true.1 (by decide), List.all_eq_true.1 (by decide)⟩,
    ⟨"add", " ", "", ⟨by decide, by decide, by decide⟩,
      List.all_eq_true.1 (by decide), List.all_eq_true.1 (by decide)⟩]

/-- Options with these entries. -/
def paddedOptions : CompareOptions :=
  ⟨"a", "b", 10, some 20, some "\u00a0add\t ,é x\u3000, add", false, .console⟩

theorem compare_names_listed_padded :
    paddedEntries ≠ [] ∧ paddedOptions.relaxedNames = some (listText paddedEntries) ∧
      paddedOptions.relaxedThreshold = some 20 ∧ Policy.isValidPct paddedOptions.threshold ∧
      Policy.isValidPct 20 ∧
      Policy.parseNames "\u00a0add\t ,é x\u3000, add" = .ok ["add", "é x", "add"] ∧
      (∃ p, paddedOptions.policy.value = .ok p ∧ p.effective "add" = 20 ∧
        p.effective "é x" = 20 ∧ p.effective "é" = 10) ∧
      ResultFile.Measures "é x\u3000: 2".toList "é x" (Float.ofBits 0x4000000000000000) := by
  have nonempty : paddedEntries ≠ [] := List.cons_ne_nil _ _
  have text : listText paddedEntries = "\u00a0add\t ,é x\u3000, add" := by decide
  have given : paddedOptions.relaxedNames = some (listText paddedEntries) := by
    rw [text]
    rfl
  have valid : Policy.isValidPct paddedOptions.threshold := by decide
  have validRelaxed : Policy.isValidPct 20 := by decide
  obtain ⟨read, ⟨p, made, effective⟩, -, measured, -⟩ :=
    compare_names_listed nonempty given rfl valid validRelaxed
  rw [text] at read
  refine ⟨nonempty, given, rfl, valid, validRelaxed, read, ⟨p, made, ?_, ?_, ?_⟩, ?_⟩
  · rw [effective]
    exact if_pos (by decide)
  · rw [effective]
    exact if_pos (by decide)
  · rw [effective]
    exact if_neg (by decide)
  · exact measured _ (List.mem_cons_of_mem _ List.mem_cons_self) (by decide) (by decide) " 2" _
      (by decide +kernel) (by decide)

end Command

end PerfGate
