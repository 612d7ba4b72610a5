import Mathlib.Tactic.Lemma
import PerfGate.Xml.Printer
import PerfGate.Xml.Reader

/-!
# Markup that reads back

`Markup` is what is written between two tags, as a tree. Its `events` are what a printer writes;
`Shows` says that a content which was read has the same shape, wherever its pieces stood in the
document. The main statement is `ofChars_document`: the document of a readable markup is read as a
content that shows it.

The proof has two halves, both by induction on the markup. `pieces_events` runs the reader over the
characters of the events and gets the events back, each with some position; `foldr_cons_shows` puts
such events together into a tree.
-/

namespace PerfGate.Xml

/-- What is written between two tags: runs of text and elements. -/
inductive Markup where
  | nil
  | text (raw : List Char) (rest : Markup)
  | empty (name : List Char) (rest : Markup)
  | element (name : List Char) (inner rest : Markup)

/-- The characters are letters, digits and dots, at least one of them. -/
def isPlainName (name : List Char) : Bool :=
  !name.isEmpty && name.all fun c => c.isAlphanum || c == '.'

namespace Markup

/-- The markup as events. -/
def events : Markup → List Event
  | nil => []
  | text raw rest => .text raw :: rest.events
  | empty name rest => .empty name :: rest.events
  | element name inner rest => .start name :: (inner.events ++ .close name :: rest.events)

/-- The markup begins with text. -/
def beginsWithText : Markup → Bool
  | text .. => true
  | _ => false

/-- The markup is told apart from what it is not once it is written: names are plain, a run of text
holds a character but no `<`, and no run of text follows another. -/
def Readable : Markup → Prop
  | nil => True
  | text raw rest => raw ≠ [] ∧ '<' ∉ raw ∧ rest.beginsWithText = false ∧ rest.Readable
  | empty name rest => isPlainName name ∧ rest.Readable
  | element name inner rest => isPlainName name ∧ inner.Readable ∧ rest.Readable

/-- The content has the shape of the markup up to the content `last`, which follows it. -/
def Shows : Markup → Content → Content → Prop
  | nil, content, last => content = last
  | text raw rest, content, last => ∃ p c, content = .text raw p c ∧ rest.Shows c last
  | empty name rest, content, last => ∃ p c, content = .empty name p c ∧ rest.Shows c last
  | element name inner rest, content, last =>
    ∃ p q i c, content = .element name p i c ∧ inner.Shows i (.closed name q) ∧ rest.Shows c last

end Markup

/-! ## Single pieces -/

lemma Event.chars_start (name : List Char) : (start name).chars = '<' :: (name ++ ['>']) := rfl

lemma Event.chars_empty (name : List Char) : (empty name).chars = '<' :: (name ++ ['/', '>']) := rfl

lemma Event.chars_close (name : List Char) :
    (close name).chars = '<' :: '/' :: (name ++ ['>']) := rfl

/-- Scanning stops at the first character that ends it. -/
lemma scanOnto_eq {σ : Type} {next : σ → Char → Option σ} {s : σ} {cs : List Char}
    (loop : ∀ c ∈ cs, next s c = some s) {d : Char} (ends : next s d = none)
    (before rest : List Char) :
    scanOnto next s before (cs ++ d :: rest) = some (before.reverse ++ cs, rest) := by
  induction cs generalizing before with
  | nil => simp [scanOnto, ends]
  | cons c cs ih =>
    rw [List.cons_append, scanOnto, loop c List.mem_cons_self]
    have h := ih (fun x hx => loop x (List.mem_cons_of_mem _ hx)) (c :: before)
    simpa using h

lemma scan_eq {σ : Type} {next : σ → Char → Option σ} {s : σ} {cs : List Char}
    (loop : ∀ c ∈ cs, next s c = some s) {d : Char} (ends : next s d = none) (rest : List Char) :
    scan next s (cs ++ d :: rest) = some (cs, rest) :=
  scanOnto_eq loop ends [] rest

/-- A plain name holds nothing that means something inside a tag. -/
lemma ne_of_mem_plainName {name : List Char} (h : isPlainName name) {c : Char} (hc : c ∈ name)
    (d : Char) (hd : (d.isAlphanum || d == '.') = false) : c ≠ d := by
  rintro rfl
  simp only [isPlainName, Bool.and_eq_true, List.all_eq_true] at h
  exact absurd (h.2 c hc) (by simp [hd])

lemma plainName_ne_nil {name : List Char} (h : isPlainName name) : name ≠ [] := by
  rintro rfl
  exact absurd h (by decide)

lemma not_isMarkupBlank {name : List Char} (h : isPlainName name) {c : Char} (hc : c ∈ name) :
    isMarkupBlank c = false := by
  have h1 := ne_of_mem_plainName h hc ' ' (by decide)
  have h2 := ne_of_mem_plainName h hc '\t' (by decide)
  have h3 := ne_of_mem_plainName h hc '\n' (by decide)
  have h4 := ne_of_mem_plainName h hc '\r' (by decide)
  simp [isMarkupBlank, h1, h2, h3, h4]

lemma tagName_plain {name : List Char} (h : isPlainName name) : tagName name = name := by
  unfold tagName
  have kept : ∀ c ∈ name, (!isMarkupBlank c) = true := by
    intro c hc
    rw [not_isMarkupBlank h hc, Bool.not_false]
  have all : (name ++ []).takeWhile (!isMarkupBlank ·) = name ++ [].takeWhile (!isMarkupBlank ·) :=
    List.takeWhile_append_of_pos kept
  simpa using all

/-- A plain name has no blank at its end. -/
lemma dropWhile_reverse_plain {name : List Char} (h : isPlainName name) :
    name.reverse.dropWhile isMarkupBlank = name.reverse := by
  cases hr : name.reverse with
  | nil => rfl
  | cons c cs =>
    have hc : c ∈ name := by
      rw [← List.mem_reverse, hr]
      exact List.mem_cons_self
    rw [List.dropWhile_cons, not_isMarkupBlank h hc]
    rfl

lemma closeName_plain {name : List Char} (h : isPlainName name) : closeName name = name := by
  unfold closeName
  rw [dropWhile_reverse_plain h, List.reverse_reverse]
  simp

/-- No plain name goes on where a tag ends. -/
lemma tagEnd_plain {name : List Char} (h : isPlainName name) {c : Char} (hc : c ∈ name) :
    tagEnd none c = some none := by
  have h1 := ne_of_mem_plainName h hc '>' (by decide)
  have h2 := ne_of_mem_plainName h hc '"' (by decide)
  have h3 := ne_of_mem_plainName h hc '\'' (by decide)
  simp [tagEnd, h1, h2, h3]

namespace Reader

/-- A tag that opens an element is told from other markup by its first character. -/
lemma next_openTag {r : Reader} {name more : List Char} (h : isPlainName name)
    (hr : r.rest = '<' :: (name ++ more)) :
    r.next = openTag ⟨name ++ more, r.offset + 1, r.opened⟩ := by
  cases name with
  | nil => exact absurd rfl (plainName_ne_nil h)
  | cons c cs =>
    have h1 := ne_of_mem_plainName h List.mem_cons_self '/' (by decide)
    have h2 := ne_of_mem_plainName h List.mem_cons_self '?' (by decide)
    have h3 := ne_of_mem_plainName h List.mem_cons_self '!' (by decide)
    simp [next, hr, markup, h1, h2, h3]

lemma next_start {r : Reader} {name more : List Char} (h : isPlainName name)
    (hr : r.rest = (Event.start name).chars ++ more) :
    ∃ p, r.next = .event (.start name) p ⟨more, p, name :: r.opened⟩ := by
  have hs : scan tagEnd none (name ++ '>' :: more) = some (name, more) :=
    scan_eq (fun c hc => tagEnd_plain h hc) rfl more
  have last : name.getLast? ≠ some '/' := by
    intro e
    exact ne_of_mem_plainName h (List.mem_of_getLast? e) '/' (by decide) rfl
  have hr' : r.rest = '<' :: (name ++ '>' :: more) := by
    rw [hr, Event.chars_start, List.cons_append, List.append_assoc, List.singleton_append]
  rw [next_openTag h hr']
  simp only [openTag, hs, if_neg last, past, tagName_plain h]
  exact ⟨_, rfl⟩

lemma next_empty {r : Reader} {name more : List Char} (h : isPlainName name)
    (hr : r.rest = (Event.empty name).chars ++ more) :
    ∃ p, r.next = .event (.empty name) p ⟨more, p, r.opened⟩ := by
  have hs : scan tagEnd none (name ++ '/' :: '>' :: more) = some (name ++ ['/'], more) := by
    have loop : ∀ c ∈ name ++ ['/'], tagEnd none c = some none := by
      intro c hc
      rw [List.mem_append, List.mem_singleton] at hc
      rcases hc with hc | rfl
      · exact tagEnd_plain h hc
      · rfl
    simpa using scan_eq loop (d := '>') rfl more
  have hr' : r.rest = '<' :: (name ++ '/' :: '>' :: more) := by
    rw [hr, Event.chars_empty, List.cons_append, List.append_assoc, List.cons_append,
      List.singleton_append]
  rw [next_openTag h hr']
  simp only [openTag, hs, List.getLast?_concat, if_true, past, List.dropLast_concat,
    tagName_plain h]
  exact ⟨_, rfl⟩

lemma next_close {r : Reader} {name more : List Char} {outer : List (List Char)}
    (h : isPlainName name) (hr : r.rest = (Event.close name).chars ++ more)
    (ho : r.opened = name :: outer) :
    ∃ p, r.next = .event (.close name) p ⟨more, p, outer⟩ := by
  have hs : scan anyEnd () ('/' :: name ++ '>' :: more) = some ('/' :: name, more) := by
    refine scan_eq (fun c hc => ?_) rfl more
    rcases List.mem_cons.1 hc with rfl | hc
    · rfl
    · simp [anyEnd, ne_of_mem_plainName h hc '>' (by decide)]
  have hr' : r.rest = '<' :: '/' :: (name ++ '>' :: more) := by
    rw [hr, Event.chars_close, List.cons_append, List.cons_append, List.append_assoc,
      List.singleton_append]
  rw [List.cons_append] at hs
  simp only [next, hr', if_true, markup, closeTag, content, hs, List.drop_succ_cons, List.drop_zero,
    ho, closeName_plain h]
  exact ⟨_, rfl⟩

/-- Text goes on to the next tag, or to the end of the document. -/
lemma next_text {r : Reader} {raw more : List Char} (some : raw ≠ []) (plain : '<' ∉ raw)
    (hm : ∀ c ∈ more.head?, c = '<') (hr : r.rest = raw ++ more) :
    ∃ p q, r.next = .event (.text raw) p ⟨more, q, r.opened⟩ := by
  have inside : ∀ c ∈ raw, (c != '<') = true := by
    intro c hc
    rw [bne_iff_ne]
    rintro rfl
    exact plain hc
  have stops : more.takeWhile (· != '<') = [] ∧ more.dropWhile (· != '<') = more := by
    cases more with
    | nil => exact ⟨rfl, rfl⟩
    | cons c cs =>
      have hc := hm c rfl
      subst hc
      exact ⟨rfl, rfl⟩
  have taken : r.rest.takeWhile (· != '<') = raw := by
    rw [hr, List.takeWhile_append_of_pos inside, stops.1, List.append_nil]
  have dropped : r.rest.dropWhile (· != '<') = more := by
    rw [hr, List.dropWhile_append_of_pos inside, stops.2]
  have asText : r.next = r.text := by
    cases raw with
    | nil => exact absurd rfl some
    | cons c cs =>
      have hc : c ≠ '<' := fun e => plain (e ▸ List.mem_cons_self)
      simp [next, hr, hc]
  exact ⟨_, _, by rw [asText, text, taken, dropped]⟩

lemma pieces_of_next {r r' : Reader} {e : Event} {p : Nat} (h : r.next = .event e p r')
    (before : List (Event × Nat)) : r.pieces before = r'.pieces ((e, p) :: before) := by
  rw [pieces]
  split
  · rename_i h'
    rw [h] at h'
    cases h'
    rfl
  · rename_i h'
    rw [h] at h'
    cases h'

lemma pieces_of_stop {r : Reader} {p : Nat} {reason : SyntaxError} (h : r.next = .stop p reason)
    (before : List (Event × Nat)) : r.pieces before = (before.reverse, p, reason) := by
  rw [pieces]
  split
  · rename_i h'
    rw [h] at h'
    cases h'
  · rename_i h'
    rw [h] at h'
    cases h'
    rfl

/-- What a printer writes for the declaration is read as one aside. -/
lemma next_declaration (more : List Char) :
    ∃ p, next ⟨declarationText ++ more, 0, []⟩ = .event (.aside .instruction) p ⟨more, p, []⟩ :=
  ⟨_, rfl⟩

end Reader

namespace Markup

variable {m : Markup}

/-- Markup that does not begin with text begins with a tag. -/
lemma head?_chars (h : m.beginsWithText = false) {more : List Char}
    (hm : ∀ c ∈ more.head?, c = '<') :
    ∀ c ∈ (m.events.flatMap Event.chars ++ more).head?, c = '<' := by
  cases m with
  | nil => exact hm
  | text raw rest => cases h
  | empty name rest =>
    rintro c ⟨⟩
    rfl
  | element name inner rest =>
    rintro c ⟨⟩
    rfl

/-- The reader takes readable markup apart into its events, and stands behind it afterwards. -/
lemma pieces_events (readable : m.Readable) {r : Reader} {more : List Char}
    (hm : ∀ c ∈ more.head?, c = '<') (hr : r.rest = m.events.flatMap Event.chars ++ more) :
    ∃ (placed : List (Event × Nat)) (r' : Reader), placed.map Prod.fst = m.events ∧
      r'.rest = more ∧ r'.opened = r.opened ∧
        ∀ before, r.pieces before = r'.pieces (placed.reverse ++ before) := by
  induction m generalizing r more with
  | nil => exact ⟨[], r, rfl, hr, rfl, fun _ => rfl⟩
  | text raw rest ih =>
    obtain ⟨nonempty, plain, apart, readable⟩ := readable
    rw [events, List.flatMap_cons, List.append_assoc] at hr
    obtain ⟨p, q, hn⟩ := Reader.next_text nonempty plain (head?_chars apart hm) hr
    obtain ⟨placed, r', hp, hr', ho, run⟩ := ih readable hm (r := ⟨_, q, r.opened⟩) rfl
    refine ⟨(.text raw, p) :: placed, r', by simp [hp, events], hr', ho, fun before => ?_⟩
    rw [Reader.pieces_of_next hn, run]
    simp
  | empty name rest ih =>
    obtain ⟨plain, readable⟩ := readable
    rw [events, List.flatMap_cons, List.append_assoc] at hr
    obtain ⟨p, hn⟩ := Reader.next_empty plain hr
    obtain ⟨placed, r', hp, hr', ho, run⟩ := ih readable hm (r := ⟨_, p, r.opened⟩) rfl
    refine ⟨(.empty name, p) :: placed, r', by simp [hp, events], hr', ho, fun before => ?_⟩
    rw [Reader.pieces_of_next hn, run]
    simp
  | element name inner rest ihInner ih =>
    obtain ⟨plain, readableInner, readable⟩ := readable
    rw [events, List.flatMap_cons, List.flatMap_append, List.flatMap_cons, List.append_assoc,
      List.append_assoc, List.append_assoc] at hr
    obtain ⟨p, hn⟩ := Reader.next_start plain hr
    -- What the reader comes upon behind the content is the end tag of the element.
    have closing : ∀ c ∈ ((Event.close name).chars ++
        (rest.events.flatMap Event.chars ++ more)).head?, c = '<' := by
      simp [Event.chars_close]
    obtain ⟨placedInner, r₁, hpInner, hr₁, ho₁, runInner⟩ :=
      ihInner readableInner closing (r := ⟨_, p, name :: r.opened⟩) rfl
    obtain ⟨q, hc⟩ := Reader.next_close plain hr₁ ho₁
    obtain ⟨placed, r', hp, hr', ho, run⟩ := ih readable hm (r := ⟨_, q, r.opened⟩) rfl
    refine ⟨(.start name, p) :: (placedInner ++ (.close name, q) :: placed), r',
      by simp [hpInner, hp, events], hr', ho, fun before => ?_⟩
    rw [Reader.pieces_of_next hn, runInner, Reader.pieces_of_next hc, run]
    simp

/-- The events of markup, each at some position, make up a content that shows it. -/
lemma foldr_cons_shows (stop : Content) {placed : List (Event × Nat)}
    (h : placed.map Prod.fst = m.events) (last : Content) (outer : List Content) :
    ∃ c, placed.foldr (Content.cons stop) (last :: outer) = c :: outer ∧ m.Shows c last := by
  induction m generalizing placed last outer with
  | nil =>
    rw [events, List.map_eq_nil_iff] at h
    subst h
    exact ⟨last, rfl, rfl⟩
  | text raw rest ih =>
    obtain ⟨⟨_, p⟩, placed, rfl, rfl, tail⟩ := List.map_eq_cons_iff.1 h
    obtain ⟨c, hc, shows⟩ := ih tail last outer
    exact ⟨.text raw p c, by rw [List.foldr_cons, hc]; rfl, p, c, rfl, shows⟩
  | empty name rest ih =>
    obtain ⟨⟨_, p⟩, placed, rfl, rfl, tail⟩ := List.map_eq_cons_iff.1 h
    obtain ⟨c, hc, shows⟩ := ih tail last outer
    exact ⟨.empty name p c, by rw [List.foldr_cons, hc]; rfl, p, c, rfl, shows⟩
  | element name inner rest ihInner ih =>
    obtain ⟨⟨_, p⟩, placed, rfl, rfl, tail⟩ := List.map_eq_cons_iff.1 h
    obtain ⟨placedInner, closing, rfl, hInner, hClosing⟩ := List.map_eq_append_iff.1 tail
    obtain ⟨⟨_, q⟩, placed, rfl, rfl, hRest⟩ := List.map_eq_cons_iff.1 hClosing
    obtain ⟨c, hc, shows⟩ := ih hRest last outer
    obtain ⟨i, hi, showsInner⟩ := ihInner hInner (.closed name q) (c :: outer)
    refine ⟨.element name p i c, ?_, p, q, i, c, rfl, showsInner, shows⟩
    rw [List.foldr_cons, List.foldr_append, List.foldr_cons, hc]
    change Content.cons stop _
      (placedInner.foldr (Content.cons stop) (.closed name q :: c :: outer)) = _
    rw [hi]
    rfl

/-- A document of readable markup is read as the markup, behind its declaration. -/
lemma ofChars_document (readable : m.Readable) :
    ∃ p c last, Content.ofChars (document m.events) = .aside .instruction p c ∧ m.Shows c last := by
  obtain ⟨p, hn⟩ := Reader.next_declaration (m.events.flatMap Event.chars)
  obtain ⟨placed, r', hp, hr', -, run⟩ :=
    pieces_events readable (r := ⟨m.events.flatMap Event.chars, p, []⟩) (by simp)
      (List.append_nil _).symm
  have stopped : r'.next = .stop r'.offset .endOfDocument := by
    rw [Reader.next, hr']
  obtain ⟨c, hc, shows⟩ := foldr_cons_shows (.stopped r'.offset .endOfDocument) hp
    (.stopped r'.offset .endOfDocument) []
  refine ⟨p, c, _, ?_, shows⟩
  have unmarked : withoutMark (document m.events) = document m.events := rfl
  rw [Content.ofChars, unmarked, document, Reader.pieces_of_next hn, run,
    Reader.pieces_of_stop stopped]
  simp [Content.ofEvents, hc, Content.cons]

end Markup

end PerfGate.Xml
