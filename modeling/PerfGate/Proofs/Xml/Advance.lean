import PerfGate.Proofs.Text.Length
import PerfGate.Proofs.Xml.Run

/-!
# What a step of the reader takes

Nothing of a document is lost between the bytes before a place and the characters behind it
(`Reader.total`). Every piece takes at least one byte, and the position that is reported for it, or
for the want of one, lies in the document (`advances_next`). `Shows` says which contents stand
behind a place, and `Shows.next` what the reader comes upon there: what the first of them begins
with.
-/

namespace PerfGate.Xml

open Text (utf8Length)

/-! ## The ends of markup -/

lemma utf8Length_scan {σ : Type} {next : σ → Char → Option σ} {s : σ} {cs inside rest : List Char}
    (only : ∀ s' d, next s' d = none → d = '>') (h : scan next s cs = some (inside, rest)) :
    utf8Length cs = utf8Length inside + 1 + utf8Length rest := by
  obtain ⟨whole, -⟩ := scan_inv only h
  have one : '>'.utf8Size = 1 := by decide
  rw [whole, Text.utf8Length_append, Text.utf8Length_cons, one, Nat.add_assoc]

namespace Reader

variable {r r' : Reader} {e : Event} {p : Nat}

lemma utf8Length_content {cs inside rest : List Char} {width : Nat}
    (h : content cs = (inside, rest, width)) :
    utf8Length cs = utf8Length inside + width + utf8Length rest := by
  unfold content at h
  split at h
  · rename_i scanned
    cases h
    exact utf8Length_scan eq_of_anyEnd scanned
  · cases h
    rfl

/-! ## Places in the document -/

/-- The number of bytes in the document, before the place and behind it. -/
def total (r : Reader) : Nat :=
  r.offset + utf8Length r.rest

/-- The step goes on in the same document, by no less than so many bytes, and reports a position in
it. -/
def Advances (r : Reader) (least : Nat) : Step → Prop
  | .event _ position r' =>
    r.offset + least ≤ r'.offset ∧ r'.total = r.total ∧ position ≤ r'.total
  | .stop position _ => position ≤ r.total

lemma advances_past {inside rest : List Char} {opened : List (List Char)}
    (whole : utf8Length r.rest = utf8Length inside + 1 + utf8Length rest) :
    r.Advances 0 (r.past inside rest e opened) := by
  simp only [past, Advances, total]
  omega

lemma advances_closeTag (r : Reader) : r.Advances 0 r.closeTag := by
  rcases is : content r.rest with ⟨inside, rest, width⟩
  have whole := utf8Length_content is
  unfold closeTag
  simp only [is]
  split
  · simp only [Advances, total]
    omega
  · split
    · simp only [Advances, total]
      omega
    · simp only [Advances, total]
      omega

lemma advances_instruction (r : Reader) : r.Advances 0 r.instruction := by
  rcases is : content r.rest with ⟨inside, rest, width⟩
  have whole := utf8Length_content is
  unfold instruction
  simp only [is]
  split
  · simp only [Advances, total]
    omega
  · simp only [Advances, total]
    omega

lemma advances_cdata (r : Reader) : r.Advances 0 r.cdata := by
  unfold cdata
  split
  · exact Nat.le_add_right _ _
  · rename_i inside rest scanned
    have whole := utf8Length_scan eq_of_cdataEnd scanned
    split
    · exact advances_past whole
    · simp only [Advances, total]
      omega

lemma advances_comment (r : Reader) : r.Advances 0 r.comment := by
  unfold comment
  split
  · exact Nat.le_add_right _ _
  · rename_i inside rest scanned
    have whole := utf8Length_scan eq_of_commentEnd scanned
    split
    · exact advances_past whole
    · simp only [Advances, total]
      omega

lemma advances_doctype (r : Reader) : r.Advances 0 r.doctype := by
  unfold doctype
  split
  · exact Nat.le_add_right _ _
  · rename_i inside rest scanned
    have whole := utf8Length_scan eq_of_doctypeEnd scanned
    simp only
    split
    · simp only [Advances, total]
      omega
    · split
      · simp only [Advances, total]
        omega
      · exact advances_past whole

lemma advances_declaration (r : Reader) (c? : Option Char) : r.Advances 0 (r.declaration c?) := by
  unfold declaration
  cases c? with
  | none => exact Nat.le_add_right _ _
  | some c =>
    simp only
    split
    · exact advances_cdata r
    · split
      · exact advances_comment r
      · split
        · exact advances_doctype r
        · exact Nat.le_add_right _ _

lemma advances_openTag (r : Reader) : r.Advances 0 r.openTag := by
  unfold openTag
  split
  · exact Nat.le_add_right _ _
  · rename_i inside rest scanned
    have whole := utf8Length_scan eq_of_tagEnd scanned
    split
    · exact advances_past whole
    · exact advances_past whole

lemma advances_markup (r : Reader) : r.Advances 0 r.markup := by
  unfold markup
  split
  · exact Nat.le_add_right _ _
  · split
    · exact advances_closeTag r
    · split
      · exact advances_instruction r
      · split
        · exact advances_declaration r _
        · exact advances_openTag r

lemma advances_text {c : Char} {cs : List Char} (begins : r.rest = c :: cs) (other : c ≠ '<') :
    r.Advances 1 r.text := by
  have whole : r.rest.takeWhile (· != '<') ++ r.rest.dropWhile (· != '<') = r.rest :=
    List.takeWhile_append_dropWhile
  have length := congrArg utf8Length whole
  rw [Text.utf8Length_append] at length
  have first : 0 < utf8Length (r.rest.takeWhile (· != '<')) := by
    rw [begins, List.takeWhile_cons_of_pos (by simpa using other), Text.utf8Length_cons]
    exact Nat.add_pos_left c.utf8Size_pos _
  simp only [text, Advances, total]
  split <;> omega

/-- Every piece takes at least one byte, and what is reported lies in the document. -/
theorem advances_next (r : Reader) : r.Advances 1 r.next := by
  unfold next
  split
  · exact Nat.le_add_right _ _
  · rename_i c cs begins
    split
    · rename_i bracket
      -- the `<` is the byte that is taken, whatever the markup behind it
      have inside := advances_markup { r with rest := cs, offset := r.offset + 1 }
      have one : '<'.utf8Size = 1 := by decide
      have same : Reader.total { r with rest := cs, offset := r.offset + 1 } = r.total := by
        simp only [total, begins, Text.utf8Length_cons, bracket, one]
        omega
      cases step : Reader.markup { r with rest := cs, offset := r.offset + 1 } with
      | event e p r' =>
        rw [step] at inside
        simp only [Advances, same] at inside ⊢
        omega
      | stop p reason =>
        rw [step] at inside
        simp only [Advances, same] at inside ⊢
        exact inside
    · rename_i other
      exact advances_text begins other

end Reader

/-! ## What a content begins with -/

namespace Content

/-- The event that the content begins with, or why there is none. -/
def first : Content → Except SyntaxError Event
  | stopped _ reason => .error reason
  | closed name _ => .ok (.close name)
  | element name _ _ _ => .ok (.start name)
  | empty name _ _ => .ok (.empty name)
  | text raw _ _ => .ok (.text raw)
  | cdata cs _ _ => .ok (.cdata cs)
  | aside kind _ _ => .ok (.aside kind)

/-- The position that is reported for what the content begins with. -/
def position : Content → Nat
  | stopped position _ | closed _ position | element _ position _ _ | empty _ position _
  | text _ position _ | cdata _ position _ | aside _ position _ => position

/-- The contents that stand behind the first event of a content, given those behind the content. -/
def behind : Content → List Content → List Content
  | stopped .., outer | closed .., outer => outer
  | element _ _ inner rest, outer => inner :: rest :: outer
  | empty _ _ rest, outer | text _ _ rest, outer | cdata _ _ rest, outer
  | aside _ _ rest, outer => rest :: outer

end Content

namespace Reader

variable {r : Reader} {c : Content} {outer : List Content}

/-- These contents stand behind the place, the innermost first. Behind an element that is never
closed, the place where reading stops is found again. -/
def Shows (r : Reader) (following : List Content) : Prop :=
  ∃ n, following = r.contents ++ List.replicate n r.finish

lemma shows_start (document : List Char) :
    ∃ outer, (start document).Shows (.ofChars document :: outer) := by
  obtain ⟨c, outer, is, -⟩ := contents_cases (start document)
  refine ⟨outer, 0, ?_⟩
  rw [contents_ofChars, is, List.replicate_zero, List.append_nil]
  rfl

/-- The reader comes upon what the content behind the place begins with. -/
theorem Shows.next (h : r.Shows (c :: outer)) :
    match c.first with
    | .ok e => ∃ r', r.next = .event e c.position r' ∧ r'.Shows (c.behind outer)
    | .error reason => r.next = .stop c.position reason := by
  obtain ⟨n, is⟩ := h
  cases step : r.next with
  | stop p reason =>
    rw [contents_of_stop step] at is
    cases is
    rfl
  | event e p r' =>
    obtain ⟨inner, others, is', -⟩ := contents_cases r'
    rw [contents_of_next step, finish_of_next step, is'] at is
    cases e with
    | start name =>
      cases others with
      | nil =>
        cases is
        -- what stands behind the element is the place where reading stops
        exact ⟨r', rfl, n + 1, by rw [is']; rfl⟩
      | cons rest others =>
        cases is
        exact ⟨r', rfl, n, by rw [is']; rfl⟩
    | _ =>
      cases is
      exact ⟨r', rfl, n, by rw [is']; rfl⟩

end Reader

end PerfGate.Xml
