import PerfGate.Proofs.Xml.Markup

/-!
# Steps of the reader

A step that leaves something of the document depends only on what it takes: with anything else
behind it the reader comes upon the same event (`next_goingOn`). An end tag is the exception to
watch, as it may also end with the document; `next_endTag_inv` and `next_of_endsTag` say which
characters close an element.
-/

namespace PerfGate.Xml

/-! ## Scanning -/

/-- What was scanned decides where the end is, and not what follows it. -/
lemma scanOnto_inv {σ : Type} {next : σ → Char → Option σ} {s : σ}
    {before cs inside rest : List Char} (h : scanOnto next s before cs = some (inside, rest)) :
    ∃ run d, inside = before.reverse ++ run ∧ cs = run ++ d :: rest ∧ (∃ s', next s' d = none) ∧
      ∀ t, scanOnto next s before (run ++ d :: t) = some (inside, t) := by
  induction cs generalizing s before with
  | nil => cases h
  | cons c cs ih =>
    rw [scanOnto] at h
    split at h
    · rename_i s' goes
      obtain ⟨run, d, rfl, rfl, ends, same⟩ := ih h
      refine ⟨c :: run, d, by simp, rfl, ends, fun t => ?_⟩
      rw [List.cons_append, scanOnto, goes]
      exact same t
    · rename_i ends
      cases h
      refine ⟨[], c, (List.append_nil _).symm, rfl, ⟨s, ends⟩, fun t => ?_⟩
      rw [List.nil_append, scanOnto, ends]

/-- A scan that can only end at a `>`. -/
lemma scan_inv {σ : Type} {next : σ → Char → Option σ} {s : σ} {cs inside rest : List Char}
    (only : ∀ s' d, next s' d = none → d = '>') (h : scan next s cs = some (inside, rest)) :
    cs = inside ++ '>' :: rest ∧ ∀ t, scan next s (inside ++ '>' :: t) = some (inside, t) := by
  obtain ⟨run, d, rfl, rfl, ⟨s', ends⟩, same⟩ := scanOnto_inv h
  cases only s' d ends
  exact ⟨rfl, same⟩

lemma eq_of_anyEnd (s : Unit) (d : Char) (h : anyEnd s d = none) : d = '>' := by
  rw [anyEnd] at h
  split at h
  · assumption
  · cases h

lemma eq_of_tagEnd (s : Option Char) (d : Char) (h : tagEnd s d = none) : d = '>' := by
  cases s with
  | none =>
    rw [tagEnd] at h
    split at h
    · assumption
    · split at h <;> cases h
  | some quote => cases h

lemma eq_of_cdataEnd (s : Nat) (d : Char) (h : cdataEnd s d = none) : d = '>' := by
  rw [cdataEnd] at h
  split at h
  · rename_i ends
    exact ends.1
  · cases h

lemma eq_of_commentEnd (s : Nat × Nat) (d : Char) (h : commentEnd s d = none) : d = '>' := by
  rw [commentEnd] at h
  split at h
  · rename_i ends
    exact ends.1
  · cases h

lemma eq_of_doctypeEnd (s : Nat) (d : Char) (h : doctypeEnd s d = none) : d = '>' := by
  cases s with
  | zero =>
    rw [doctypeEnd] at h
    split at h
    · assumption
    · cases h
  | succ depth => cases h

namespace Reader

/-- The reader in a document that goes on otherwise. -/
def goingOn (r : Reader) (rest : List Char) : Reader :=
  { r with rest }

/-- A way to read markup takes something up to a `>`, and reads the same whatever comes next. -/
def Takes (read : Reader → Step) (r : Reader) (e : Event) (p : Nat) (r' : Reader) : Prop :=
  ∃ inside, r.rest = inside ++ '>' :: r'.rest ∧
    ∀ t, read (r.goingOn (inside ++ '>' :: t)) = .event e p (r'.goingOn t)

variable {r r' : Reader} {e : Event} {p : Nat}

/-- Content that does not end with the document ends at a `>`. -/
lemma content_inv {cs : List Char} (more : (content cs).2.1 ≠ []) :
    cs = (content cs).1 ++ '>' :: (content cs).2.1 ∧
      ∀ t, content ((content cs).1 ++ '>' :: t) = ((content cs).1, t, (content cs).2.2) := by
  unfold content at *
  cases scanned : scan anyEnd () cs with
  | none =>
    rw [scanned] at more
    exact absurd rfl more
  | some found =>
    obtain ⟨inside, rest⟩ := found
    obtain ⟨whole, same⟩ := scan_inv eq_of_anyEnd scanned
    refine ⟨whole, fun t => ?_⟩
    simp only [same t]

lemma closeTag_takes (h : r.closeTag = .event e p r') (more : r'.rest ≠ []) :
    Takes closeTag r e p r' := by
  unfold closeTag at h
  simp only at h
  split at h
  · cases h
  rename_i expected opened open_
  split at h
  · rename_i named
    cases h
    -- the tag does not end with the document, as something is left
    obtain ⟨whole, same⟩ := content_inv more
    refine ⟨_, whole, fun t => ?_⟩
    simp only [closeTag, goingOn, same t, open_, if_pos named]
  · cases h

lemma instruction_takes (h : r.instruction = .event e p r') (more : r'.rest ≠ []) :
    Takes instruction r e p r' := by
  unfold instruction at h
  simp only at h
  split at h
  · rename_i complete
    cases h
    obtain ⟨whole, same⟩ := content_inv more
    refine ⟨_, whole, fun t => ?_⟩
    simp only [instruction, goingOn, same t, if_pos complete]
  · cases h

lemma cdata_takes (h : r.cdata = .event e p r') : Takes cdata r e p r' := by
  unfold cdata at h
  split at h
  · cases h
  rename_i inside rest scanned
  split at h
  · rename_i opening
    cases h
    obtain ⟨whole, same⟩ := scan_inv eq_of_cdataEnd scanned
    refine ⟨inside, whole, fun t => ?_⟩
    simp only [cdata, goingOn, same t, if_pos opening, past]
  · cases h

lemma comment_takes (h : r.comment = .event e p r') : Takes comment r e p r' := by
  unfold comment at h
  split at h
  · cases h
  rename_i inside rest scanned
  split at h
  · rename_i opening
    cases h
    obtain ⟨whole, same⟩ := scan_inv eq_of_commentEnd scanned
    refine ⟨inside, whole, fun t => ?_⟩
    simp only [comment, goingOn, same t, if_pos opening, past]
  · cases h

lemma doctype_takes (h : r.doctype = .event e p r') : Takes doctype r e p r' := by
  unfold doctype at h
  split at h
  · cases h
  rename_i inside rest scanned
  simp only at h
  split at h
  · cases h
  rename_i opening
  split at h
  · cases h
  rename_i nonempty
  cases h
  obtain ⟨whole, same⟩ := scan_inv eq_of_doctypeEnd scanned
  refine ⟨inside, whole, fun t => ?_⟩
  simp only [doctype, goingOn, same t, if_neg opening, if_neg nonempty, past]

lemma openTag_takes (h : r.openTag = .event e p r') : Takes openTag r e p r' := by
  unfold openTag at h
  split at h
  · cases h
  rename_i inside rest scanned
  obtain ⟨whole, same⟩ := scan_inv eq_of_tagEnd scanned
  split at h
  · rename_i closing
    cases h
    refine ⟨inside, whole, fun t => ?_⟩
    simp only [openTag, goingOn, same t, if_pos closing, past]
  · rename_i opening
    cases h
    refine ⟨inside, whole, fun t => ?_⟩
    simp only [openTag, goingOn, same t, if_neg opening, past]

/-- The way that a declaration is read in is decided by the character after the `!`. -/
lemma declaration_takes {c? : Option Char} (h : r.declaration c? = .event e p r') :
    Takes (declaration · c?) r e p r' := by
  unfold declaration at h
  cases c? with
  | none => cases h
  | some c =>
    simp only at h
    split at h
    · rename_i is
      obtain ⟨inside, whole, same⟩ := cdata_takes h
      refine ⟨inside, whole, fun t => ?_⟩
      simp only [declaration, if_pos is, same t]
    rename_i isNot
    split at h
    · rename_i is
      obtain ⟨inside, whole, same⟩ := comment_takes h
      refine ⟨inside, whole, fun t => ?_⟩
      simp only [declaration, if_neg isNot, if_pos is, same t]
    rename_i isNot'
    split at h
    · rename_i is
      obtain ⟨inside, whole, same⟩ := doctype_takes h
      refine ⟨inside, whole, fun t => ?_⟩
      simp only [declaration, if_neg isNot, if_neg isNot', if_pos is, same t]
    · cases h

/-- The first character is part of what is taken, and so is the one after it, unless nothing stands
between the brackets. -/
lemma first_of_takes {c : Char} {cs inside rest : List Char} (h : c :: cs = inside ++ '>' :: rest)
    (t : List Char) :
    ∃ ds, inside ++ '>' :: t = c :: ds ∧ (c ≠ '>' → ds.head? = cs.head?) := by
  cases inside with
  | nil =>
    obtain ⟨rfl, -⟩ := List.cons_eq_cons.1 h
    exact ⟨t, rfl, fun other => absurd rfl other⟩
  | cons d inside =>
    obtain ⟨rfl, rfl⟩ := List.cons_eq_cons.1 h
    refine ⟨inside ++ '>' :: t, rfl, fun _ => ?_⟩
    cases inside <;> rfl

lemma markup_takes (h : r.markup = .event e p r') (more : r'.rest ≠ []) :
    Takes markup r e p r' := by
  unfold markup at h
  split at h
  · cases h
  rename_i c cs begins
  split at h
  · rename_i is
    obtain ⟨inside, whole, same⟩ := closeTag_takes h more
    refine ⟨inside, whole, fun t => ?_⟩
    obtain ⟨ds, first, -⟩ := first_of_takes (begins.symm.trans whole) t
    rw [← same t, first]
    simp only [markup, goingOn, if_pos is]
  rename_i notClose
  split at h
  · rename_i is
    obtain ⟨inside, whole, same⟩ := instruction_takes h more
    refine ⟨inside, whole, fun t => ?_⟩
    obtain ⟨ds, first, -⟩ := first_of_takes (begins.symm.trans whole) t
    rw [← same t, first]
    simp only [markup, goingOn, if_neg notClose, if_pos is]
  rename_i notInstruction
  split at h
  · rename_i is
    obtain ⟨inside, whole, same⟩ := declaration_takes h
    refine ⟨inside, whole, fun t => ?_⟩
    obtain ⟨ds, first, second⟩ := first_of_takes (begins.symm.trans whole) t
    -- the kind of declaration is told by the second character, which is therefore taken as well
    have other : c ≠ '>' := by
      rw [is]
      decide
    rw [← same t, first, ← second other]
    simp only [markup, goingOn, if_neg notClose, if_neg notInstruction, if_pos is]
  · rename_i notDeclaration
    obtain ⟨inside, whole, same⟩ := openTag_takes h
    refine ⟨inside, whole, fun t => ?_⟩
    obtain ⟨ds, first, -⟩ := first_of_takes (begins.symm.trans whole) t
    rw [← same t, first]
    simp only [markup, goingOn, if_neg notClose, if_neg notInstruction, if_neg notDeclaration]

/-- A run of text goes on to the next `<`, which is there if the document goes on. -/
lemma text_takes (h : r.text = .event e p r') (more : r'.rest ≠ []) :
    ∃ run, r.rest = run ++ r'.rest ∧ r'.rest.head? = some '<' ∧
      ∀ t, t.head? = some '<' → (r.goingOn (run ++ t)).text = .event e p (r'.goingOn t) := by
  have whole := r.rest.takeWhile_append_dropWhile (p := (· != '<'))
  have inside : ∀ c ∈ r.rest.takeWhile (· != '<'), (c != '<') = true :=
    List.all_eq_true.1 List.all_takeWhile
  have stop := List.head?_dropWhile_not (· != '<') r.rest
  obtain ⟨d, ds, rest⟩ := List.exists_cons_of_ne_nil more
  have left : r.rest.dropWhile (· != '<') = d :: ds := by
    cases h
    exact rest
  rw [left] at stop
  obtain rfl : d = '<' := by simpa using stop
  cases h
  refine ⟨_, whole.symm, congrArg _ left, ?_⟩
  intro t first
  obtain ⟨ts, rfl⟩ : ∃ ts, t = '<' :: ts := by
    cases t with
    | nil => cases first
    | cons c ts =>
      cases first
      exact ⟨ts, rfl⟩
  have taken : (r.rest.takeWhile (· != '<') ++ '<' :: ts).takeWhile (· != '<') =
      r.rest.takeWhile (· != '<') := by
    rw [List.takeWhile_append_of_pos inside]
    exact List.append_nil _
  have dropped : (r.rest.takeWhile (· != '<') ++ '<' :: ts).dropWhile (· != '<') = '<' :: ts := by
    rw [List.dropWhile_append_of_pos inside]
    rfl
  simp only [text, goingOn, taken, dropped, left, List.isEmpty_cons]

/-- A step that leaves something of the document depends on what it takes, and on the first
character of what it leaves. -/
lemma next_goingOn (h : r.next = .event e p r') (more : r'.rest ≠ []) :
    ∃ taken, taken ≠ [] ∧ r.rest = taken ++ r'.rest ∧
      ∀ t, t.head? = r'.rest.head? →
        (r.goingOn (taken ++ t)).next = .event e p (r'.goingOn t) := by
  unfold next at h
  split at h
  · cases h
  rename_i c cs begins
  split at h
  · rename_i is
    obtain ⟨inside, whole, same⟩ := markup_takes h more
    refine ⟨'<' :: (inside ++ ['>']), List.cons_ne_nil _ _, ?_, fun t _ => ?_⟩
    · rw [begins, is, List.cons_append, List.append_assoc]
      exact congrArg _ whole
    · rw [List.cons_append, List.append_assoc]
      exact same t
  · rename_i isNot
    obtain ⟨run, whole, stop, same⟩ := text_takes h more
    cases run with
    | nil =>
      -- the run is not empty, as it begins with a character that is no `<`
      rw [begins, List.nil_append] at whole
      rw [← whole] at stop
      exact absurd (Option.some_inj.1 stop) isNot
    | cons d run =>
      refine ⟨d :: run, List.cons_ne_nil _ _, whole, fun t first => ?_⟩
      rw [begins] at whole
      obtain ⟨rfl, -⟩ := List.cons_eq_cons.1 whole
      rw [← same t (first.trans stop)]
      exact if_neg isNot

/-! ## End tags -/

/-- Behind the name in an end tag, the characters complete the tag: blanks, and then a `>` or the
end of the document. -/
def CompletesTag (cs : List Char) : Prop :=
  ∃ blanks tail, cs = blanks ++ tail ∧ (∀ c ∈ blanks, isMarkupBlank c) ∧
    (tail = [] ∨ ∃ more, tail = '>' :: more)

/-- Behind `</`, the characters are the end tag of the element with the name. -/
def EndsTag (name cs : List Char) : Prop :=
  ∃ t, cs = name ++ t ∧ CompletesTag t

lemma closeName_append_blanks {name blanks : List Char} (plain : isPlainName name)
    (blank : ∀ c ∈ blanks, isMarkupBlank c) : closeName (name ++ blanks) = name := by
  have trimmed : ((name ++ blanks).reverse.dropWhile isMarkupBlank).reverse = name := by
    have behind : ∀ c ∈ blanks.reverse, isMarkupBlank c :=
      fun c hc => blank c (List.mem_reverse.1 hc)
    rw [List.reverse_append, List.dropWhile_append_of_pos behind, dropWhile_reverse_plain plain,
      List.reverse_reverse]
  have nonempty : ¬ name.isEmpty = true := by
    rw [List.isEmpty_iff]
    exact plainName_ne_nil plain
  rw [closeName, trimmed]
  exact if_neg nonempty

/-- The name of an end tag is what is written but for blanks at the end. -/
lemma eq_closeName_append_blanks (written : List Char) :
    ∃ blanks, written = closeName written ++ blanks ∧ ∀ c ∈ blanks, isMarkupBlank c := by
  unfold closeName
  simp only
  split
  · exact ⟨[], (List.append_nil _).symm, nofun⟩
  · refine ⟨(written.reverse.takeWhile isMarkupBlank).reverse, ?_, fun c hc => ?_⟩
    · rw [← List.reverse_append, List.takeWhile_append_dropWhile, List.reverse_reverse]
    · exact List.all_eq_true.1 List.all_takeWhile c (List.mem_reverse.1 hc)

/-- An end tag ends at the first `>`, or with the document. -/
lemma content_of_end {inside : List Char} (plain : '>' ∉ inside) (rest : List Char) :
    content (inside ++ '>' :: rest) = (inside, rest, 1) := by
  have loop : ∀ c ∈ inside, anyEnd () c = some () := by
    intro c hc
    rw [anyEnd, if_neg]
    rintro rfl
    exact plain hc
  rw [content, scan_eq loop rfl rest]

lemma content_of_no_end {inside : List Char} (plain : '>' ∉ inside) :
    content inside = (inside, [], 0) := by
  unfold content
  cases scanned : scan anyEnd () inside with
  | none => rfl
  | some found =>
    obtain ⟨whole, -⟩ := scan_inv eq_of_anyEnd scanned
    rw [whole] at plain
    exact absurd (List.mem_append_right _ List.mem_cons_self) plain

/-- What stands behind the `</` of an end tag up to its end, and the end. -/
lemma content_endTag (cs : List Char) :
    ∃ written tail width, content ('/' :: cs) = ('/' :: written, tail.drop 1, width) ∧
      cs = written ++ tail ∧ (tail = [] ∨ ∃ more, tail = '>' :: more) := by
  have slash : ∀ {written : List Char}, '>' ∉ written → '>' ∉ '/' :: written := by
    intro written plain mem
    rcases List.mem_cons.1 mem with same | mem
    · exact absurd same (by decide)
    · exact plain mem
  by_cases ends : '>' ∈ cs
  · obtain ⟨written, more, rfl, plain⟩ := List.eq_append_cons_of_mem ends
    exact ⟨written, '>' :: more, 1, content_of_end (slash plain) more, rfl, .inr ⟨more, rfl⟩⟩
  · exact ⟨cs, [], 0, content_of_no_end (slash ends), (List.append_nil cs).symm, .inl rfl⟩

variable {name cs : List Char} {outer : List (List Char)}

lemma next_endTag (begins : r.rest = '<' :: '/' :: cs) :
    r.next = closeTag ⟨'/' :: cs, r.offset + 1, r.opened⟩ := by
  simp only [next, begins, if_true, markup]

/-- An end tag closes the innermost element that is open. -/
lemma next_endTag_inv (begins : r.rest = '<' :: '/' :: cs) (h : r.next = .event e p r') :
    ∃ name, e = .close name ∧ r.opened = name :: r'.opened ∧ EndsTag name cs := by
  rw [next_endTag begins] at h
  obtain ⟨written, tail, width, inside, rfl, shape⟩ := content_endTag cs
  unfold closeTag at h
  simp only [inside, List.drop_succ_cons, List.drop_zero] at h
  split at h
  · cases h
  rename_i expected opened is
  split at h
  · rename_i named
    cases h
    obtain ⟨blanks, whole, blank⟩ := eq_closeName_append_blanks written
    refine ⟨closeName written, rfl, is.trans (by rw [named]), blanks ++ tail, ?_, blanks, tail, rfl,
      blank, shape⟩
    rw [← List.append_assoc, ← whole]
  · cases h

lemma next_of_endsTag (plain : isPlainName name) (begins : r.rest = '<' :: '/' :: cs)
    (ends : EndsTag name cs) (opened : r.opened = name :: outer) :
    ∃ p r', r.next = .event (.close name) p r' := by
  obtain ⟨_, rfl, blanks, tail, rfl, blank, shape⟩ := ends
  have inside : '>' ∉ '/' :: (name ++ blanks) := by
    intro mem
    rcases List.mem_cons.1 mem with same | mem
    · exact absurd same (by decide)
    rcases List.mem_append.1 mem with mem | mem
    · exact ne_of_mem_plainName plain mem '>' (by decide) rfl
    · exact absurd (blank _ mem) (by decide)
  have named := closeName_append_blanks plain blank
  rw [next_endTag begins, closeTag, opened]
  rcases shape with rfl | ⟨more, rfl⟩
  · rw [List.append_nil]
    simp only [content_of_no_end inside, List.drop_succ_cons, List.drop_zero, named, if_true]
    exact ⟨_, _, rfl⟩
  · have found := content_of_end inside more
    rw [List.cons_append, List.append_assoc] at found
    simp only [found, List.drop_succ_cons, List.drop_zero, named, if_true]
    exact ⟨_, _, rfl⟩

end Reader

end PerfGate.Xml
