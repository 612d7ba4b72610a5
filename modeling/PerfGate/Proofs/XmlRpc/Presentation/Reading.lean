import PerfGate.Proofs.Text.Line
import PerfGate.Proofs.XmlRpc.Presentation.Grammar
import PerfGate.Proofs.XmlRpc.RootElement
import PerfGate.Proofs.XmlRpc.RoundTrip

/-!
# Reading what is presented

`ReadAs w P` says that the reader makes a content with the property `P` of the characters `w`,
wherever they stand in front of an end tag. It is built up piece by piece, as the grammar is, and
the properties in question say what the functions that read a content make of it. Filler goes
through where blanks and comments do not count (`Skips`); runs of text, literal sections and
comments are read as the characters that they spell (`Spells.readAs`); and a presentation of a value
as the value (`Presents.readAs`), by induction on the grammar.
-/

namespace PerfGate.XmlRpc

open Xml (Content Event Piece Reader IsComment IsLiteral commentChars escapeChar isPlainName
  unescapeFrom)
open Xml.Content (after)
open Xml.Reader (Reads)

variable {u w : List Char}

/-! ## From characters to contents -/

/-- In front of an end tag, the characters are read as a content with the property. -/
def ReadAs (w : List Char) (P : Content → Prop) : Prop :=
  ∀ (r : Reader) (cs : List Char), r.rest = w ++ '<' :: '/' :: cs → ∃ pieces stop,
    Reads r pieces stop ∧ stop.rest = '<' :: '/' :: cs ∧ ∀ n q, P (after pieces (.closed n q))

/-- What follows a run of text is a tag, or the end. -/
def BeginsWithTag (w : List Char) : Prop :=
  ∀ c ∈ w.head?, c = '<'

lemma beginsWithTag_nil : BeginsWithTag [] := nofun

lemma beginsWithTag_cons (cs : List Char) : BeginsWithTag ('<' :: cs) := by
  rintro c ⟨⟩
  rfl

lemma BeginsWithTag.append (h : BeginsWithTag w) (cs : List Char) :
    BeginsWithTag (w ++ '<' :: cs) := by
  cases w with
  | nil => exact beginsWithTag_cons cs
  | cons d ds => exact h

namespace ReadAs

variable {P Q R : Content → Prop}

lemma nil (h : ∀ n q, P (.closed n q)) : ReadAs [] P := by
  intro r cs begins
  exact ⟨[], r, .here ⟨cs, begins⟩, begins, h⟩

lemma mono (h : ReadAs w Q) (imp : ∀ c, Q c → P c) : ReadAs w P := by
  intro r cs begins
  obtain ⟨pieces, stop, reads, ends, holds⟩ := h r cs begins
  exact ⟨pieces, stop, reads, ends, fun n q => imp _ (holds n q)⟩

/-- A piece that is an event by itself is read, and then what follows it. -/
lemma piece {e : Event} {g : Nat → Piece}
    (step : ∀ (r : Reader) (more : List Char), r.rest = u ++ more →
      ∃ p, r.next = .event e p ⟨more, p, r.opened⟩)
    (made : ∀ p, e.piece? p = some (g p)) (begin' : ∀ p c, Q c → P ((g p).before c))
    (h : ReadAs w Q) : ReadAs (u ++ w) P := by
  intro r cs begins
  rw [List.append_assoc] at begins
  obtain ⟨p, first⟩ := step r _ begins
  obtain ⟨pieces, stop, others, ends, holds⟩ := h ⟨_, p, r.opened⟩ cs rfl
  exact ⟨_, stop, .piece first (made p) others, ends, fun n q => begin' p _ (holds n q)⟩

lemma comment {body : List Char} (hc : IsComment body)
    (begin' : ∀ p c, Q c → P (.aside .comment p c)) (h : ReadAs w Q) :
    ReadAs (commentChars body ++ w) P :=
  piece (g := .aside .comment) (fun _ _ begins => Reader.next_comment hc begins)
    (fun _ => rfl) begin' h

lemma cdata {section' : List Char} (hs : IsLiteral section')
    (begin' : ∀ p c, Q c → P (.cdata section' p c)) (h : ReadAs w Q) :
    ReadAs ((Event.cdata section').chars ++ w) P :=
  piece (g := .cdata section') (fun _ _ begins => Reader.next_cdata hs begins)
    (fun _ => rfl) begin' h

lemma empty {name : String} (plain : isPlainName name.toList)
    (begin' : ∀ p c, Q c → P (.empty name.toList p c)) (h : ReadAs w Q) :
    ReadAs ((Event.empty name.toList).chars ++ w) P :=
  piece (g := .empty name.toList) (fun _ _ begins => Reader.next_empty plain begins)
    (fun _ => rfl) begin' h

/-- A run of text goes on to the next tag. -/
lemma text {raw : List Char} (some : raw ≠ []) (plain : '<' ∉ raw) (tag : BeginsWithTag w)
    (begin' : ∀ p c, Q c → P (.text raw p c)) (h : ReadAs w Q) : ReadAs (raw ++ w) P := by
  intro r cs begins
  rw [List.append_assoc] at begins
  obtain ⟨p, q, step⟩ := Reader.next_text some plain (tag.append _) begins
  obtain ⟨pieces, stop, others, ends, holds⟩ := h ⟨_, q, r.opened⟩ cs rfl
  exact ⟨_, stop, .piece step rfl others, ends, fun n q => begin' p _ (holds n q)⟩

/-- What stands in an element is read up to its end tag, and then what follows it. -/
lemma element {name : String} {inner : List Char} (plain : isPlainName name.toList)
    (hi : ReadAs inner Q) (begin' : ∀ p i c, Q i → R c → P (.element name.toList p i c))
    (h : ReadAs w R) : ReadAs (elementChars name inner ++ w) P := by
  intro r cs begins
  rw [elementChars, List.append_assoc, List.append_assoc, List.append_assoc] at begins
  obtain ⟨p, opens⟩ := Reader.next_start plain begins
  obtain ⟨inside, last, reads, closes, holdsInner⟩ := hi ⟨_, p, name.toList :: r.opened⟩ _ rfl
  obtain ⟨q, step⟩ := Reader.next_close plain closes reads.opened
  obtain ⟨pieces, stop, others, ends, holds⟩ := h ⟨_, q, r.opened⟩ cs rfl
  exact ⟨_, stop, .element opens reads step others, ends,
    fun n q' => begin' p _ _ (holdsInner _ q) (holds n q')⟩

end ReadAs

/-! ## Filler -/

/-- Filler in front of a tag is runs of blanks, with comments between them. -/
lemma Filler.induct {G : List Char → Prop}
    (blanks : ∀ {run w : List Char}, run ≠ [] → (∀ c ∈ run, c ∈ asciiBlanks) → BeginsWithTag w →
      G w → G (run ++ w))
    (comment : ∀ {body w : List Char}, IsComment body → G w → G (commentChars body ++ w))
    (filler : Filler u) (tag : BeginsWithTag w) (last : G w) : G (u ++ w) := by
  have ahead : ∀ {run w : List Char}, (∀ c ∈ run, c ∈ asciiBlanks) → BeginsWithTag w → G w →
      G (run ++ w) := by
    intro run w blank tag last
    by_cases empty : run = []
    · rwa [empty]
    · exact blanks empty blank tag last
  -- the blanks that stand before the filler make one run with those that it begins with
  suffices pending : ∀ run, (∀ c ∈ run, c ∈ asciiBlanks) → G (run ++ (u ++ w)) from
    pending [] (List.forall_mem_nil _)
  induction filler with
  | nil => exact fun run blank => ahead blank tag last
  | @blank c cs h _ ih =>
    intro run blank
    have both : ∀ d ∈ run ++ [c], d ∈ asciiBlanks :=
      List.forall_mem_append.2 ⟨blank, List.forall_mem_singleton.2 h⟩
    have more := ih (run ++ [c]) both
    rwa [List.append_assoc] at more
  | comment h _ ih =>
    intro run blank
    rw [List.append_assoc]
    exact ahead blank (beginsWithTag_cons _) (comment h (ih [] (List.forall_mem_nil _)))

lemma layout_of_blanks {run : List Char} (blank : ∀ c ∈ run, c ∈ asciiBlanks) :
    run.all isLayout ∧ '<' ∉ run := by
  have layout : ∀ c ∈ asciiBlanks, isLayout c = true := by
    simp [asciiBlanks, isLayout]
  refine ⟨List.all_eq_true.2 fun c hc => layout c (blank c hc), fun mem => ?_⟩
  exact absurd (blank _ mem) (by decide)

/-- Blanks and comments in front of a content do not count for the property. -/
structure Skips (P : Content → Prop) : Prop where
  blank : ∀ {raw : List Char} {p : Nat} {c : Content}, raw.all isLayout → P c → P (.text raw p c)
  comment : ∀ {p : Nat} {c : Content}, P c → P (.aside .comment p c)

section

variable {P : Content → Prop} (filler : Filler u) (skips : Skips P)
include filler skips

lemma Filler.readAs (tag : BeginsWithTag w) (h : ReadAs w P) : ReadAs (u ++ w) P := by
  refine filler.induct (G := fun w => ReadAs w P) ?blanks ?comment tag h
  case blanks =>
    intro run w some blank tag h
    obtain ⟨layout, plain⟩ := layout_of_blanks blank
    exact .text some plain tag (fun p c => skips.blank layout) h
  case comment =>
    intro body w hc h
    exact .comment hc (fun p c => skips.comment) h

lemma Filler.readAs_end (ends : ∀ n q, P (.closed n q)) : ReadAs u P := by
  have whole := filler.readAs skips beginsWithTag_nil (.nil ends)
  rwa [List.append_nil] at whole

end

/-- What looks for the next tag skips the layout before it. -/
lemma skips_of_nextTag {P : Content → Prop} (h : ∀ c c', nextTag c' = nextTag c → P c → P c') :
    Skips P where
  blank layout := h _ _ (if_pos layout)
  comment := h _ _ rfl

lemma Filler.expectClose (filler : Filler u) (name : String) :
    ReadAs u fun c => expectClose name c = .ok () := by
  refine filler.readAs_end (skips_of_nextTag fun c c' same h => ?_) fun n q => rfl
  rwa [XmlRpc.expectClose, same]

/-! ## Runs of text -/

/-- The characters may stand in a run of text, and are read as the others. -/
structure Run (raw cs : List Char) : Prop where
  noTag : '<' ∉ raw
  unescapes : ∀ total offset out rest, ∃ offset',
    unescapeFrom total (raw ++ rest) offset none out =
      unescapeFrom total rest offset' none (cs.reverse ++ out)

namespace Run

variable {raw raw' cs cs' : List Char}

lemma nil : Run [] [] where
  noTag := List.not_mem_nil
  unescapes _ offset _ _ := ⟨offset, rfl⟩

lemma append (h : Run raw cs) (h' : Run raw' cs') : Run (raw ++ raw') (cs ++ cs') where
  noTag mem := (List.mem_append.1 mem).elim h.noTag h'.noTag
  unescapes total offset out rest := by
    obtain ⟨offset₁, first⟩ := h.unescapes total offset out (raw' ++ rest)
    obtain ⟨offset₂, second⟩ := h'.unescapes total offset₁ (cs.reverse ++ out) rest
    refine ⟨offset₂, ?_⟩
    rw [List.append_assoc, first, second, List.reverse_append, List.append_assoc]

lemma char {c : Char} (h : SpellsChar c raw) : Run raw [c] := by
  cases h with
  | plain notTag notEntity =>
    refine ⟨fun mem => notTag (List.mem_singleton.1 mem).symm, fun total offset out rest => ?_⟩
    exact ⟨_, by rw [List.singleton_append, unescapeFrom, if_neg notEntity]; rfl⟩
  | escaped =>
    exact ⟨Xml.lt_notMem_escapeChar c, fun total offset out rest =>
      Xml.unescapeFrom_escapeChar total c rest offset out⟩

/-- Characters that mean nothing in a run of text stand for themselves. -/
lemma plain (h : ∀ c ∈ raw, c ≠ '<' ∧ c ≠ '&') : Run raw raw := by
  induction raw with
  | nil => exact nil
  | cons c raw ih =>
    obtain ⟨⟨notTag, notEntity⟩, h⟩ := List.forall_mem_cons.1 h
    exact (char (.plain notTag notEntity)).append (ih h)

lemma unescape (h : Run raw cs) : Xml.unescape raw = .ok cs := by
  obtain ⟨offset, reads⟩ := h.unescapes (Text.utf8Length raw) 0 [] []
  rw [List.append_nil, List.append_nil] at reads
  rw [Xml.unescape, reads, unescapeFrom, List.reverse_reverse]

end Run

/-- The content is the text of an element. -/
def HoldsText (cs : List Char) (c : Content) : Prop :=
  ∀ name before, readText name before c = .ok (before.reverse.flatten ++ cs)

lemma holdsText_text {raw s cs : List Char} {p : Nat} {c : Content} (run : Run raw s)
    (h : HoldsText cs c) : HoldsText (s ++ cs) (.text raw p c) := by
  intro name before
  rw [readText, run.unescape]
  simp [h name]

lemma holdsText_cdata {s cs : List Char} {p : Nat} {c : Content} (h : HoldsText cs c) :
    HoldsText (s ++ cs) (.cdata s p c) := by
  intro name before
  rw [readText, h name]
  simp

lemma ReadAs.run {raw s cs : List Char} (run : Run raw s) (tag : BeginsWithTag w)
    (h : ReadAs w (HoldsText cs)) : ReadAs (raw ++ w) (HoldsText (s ++ cs)) := by
  by_cases empty : raw = []
  · -- nothing is spelled by nothing
    have same := run.unescape
    rw [empty] at same
    obtain rfl : [] = s := Except.ok.inj same
    rwa [empty]
  · exact .text empty run.noTag tag (fun p c => holdsText_text run) h

/-- What spells a text is read as this text. -/
lemma Spells.readAs {cs : List Char} (h : Spells cs w) : ReadAs w (HoldsText cs) := by
  -- the characters that stand before it are in one run with those that it begins with
  suffices pending : ∀ raw s, Run raw s → ReadAs (raw ++ w) (HoldsText (s ++ cs)) from
    pending [] [] .nil
  induction h with
  | nil =>
    intro raw s run
    refine .run run beginsWithTag_nil (.nil fun n q name before => ?_)
    rw [readText, List.append_nil]
  | char h _ ih =>
    intro raw s run
    have more := ih _ _ (run.append (.char h))
    rwa [List.append_assoc, List.append_assoc] at more
  | literal h _ ih =>
    intro raw s run
    exact .run run (beginsWithTag_cons _)
      (.cdata h (fun p c => holdsText_cdata) (ih [] [] .nil))
  | comment h _ ih =>
    intro raw s run
    exact .run run (beginsWithTag_cons _)
      (.comment h (fun p c holds name before => holds name before) (ih [] [] .nil))

/-! ## Scalars -/

/-- Blanks around a text are trimmed with its own. -/
lemma Padded.trimChars {text : String} {cs : List Char} (h : Padded text cs) :
    Text.trimChars cs = Text.trimChars text.toList := by
  obtain ⟨left, right, rfl, hl, hr⟩ := h
  exact Text.trimChars_pad hl hr text.toList

/-- Only a text keeps the blanks around it. -/
lemma ofChars_of_padded {s : Scalar} {text : String} {cs : List Char} {v : Value}
    (padded : Padded text cs) (notText : s ≠ .text) (h : s.ofChars text.toList = .ok v) :
    s.ofChars cs = .ok v := by
  cases s with
  | text => exact absurd rfl notText
  | int =>
    simp only [Scalar.ofChars, padded.trimChars] at h ⊢
    split at h
    · exact h
    · cases h
  | boolean =>
    simp only [Scalar.ofChars, padded.trimChars] at h ⊢
    split at h
    · exact h
    · exact h
    · exact h
    · exact h
    · cases h
  | double =>
    simp only [Scalar.ofChars, padded.trimChars] at h ⊢
    split at h
    · exact h
    · cases h
  | base64 => simpa only [Scalar.ofChars, padded.trimChars] using h
  | dateTime => simpa only [Scalar.ofChars, padded.trimChars] using h

lemma ofChars_booleanWord {b : Bool} {word : String} (h : word ∈ booleanWords b) :
    Scalar.boolean.ofChars word.toList = .ok (.boolean b) := by
  cases b with
  | false => rcases List.mem_pair.1 h with rfl | rfl <;> rfl
  | true => rcases List.mem_pair.1 h with rfl | rfl <;> rfl

/-- The tag of a scalar is that of its type, and its characters are read as the value. -/
lemma ScalarForm.ofChars {v : Value} {tag : String} {cs : List Char} (form : ScalarForm v tag cs) :
    isPlainName tag.toList ∧ ∃ s, ValueType.ofName? tag.toList = some (.scalar s) ∧
      s.ofChars cs = .ok v.trimmed := by
  cases form with
  | @int i _ _ named padded =>
    have read := ofChars_of_padded padded (by decide) (ofChars_int i)
    rcases List.mem_cons.1 named with rfl | named
    · exact ⟨by decide, .int, rfl, read⟩
    rcases List.mem_pair.1 named with rfl | rfl
    · exact ⟨by decide, .int, rfl, read⟩
    · exact ⟨by decide, .int, rfl, read⟩
  | boolean word padded =>
    have read := ofChars_of_padded padded (by decide) (ofChars_booleanWord word)
    exact ⟨by decide, .boolean, rfl, read⟩
  | @double x _ padded =>
    have read := ofChars_of_padded padded (by decide) (ofChars_double x)
    exact ⟨by decide, .double, rfl, read⟩
  | text =>
    refine ⟨by decide, .text, rfl, ?_⟩
    rw [Scalar.ofChars, String.ofList_toList]
    rfl
  | base64 padded =>
    have read := ofChars_of_padded (s := .base64) padded (by decide) rfl
    exact ⟨by decide, .base64, rfl, read⟩
  | dateTime padded =>
    have read := ofChars_of_padded (s := .dateTime) padded (by decide) rfl
    exact ⟨by decide, .dateTime, rfl, read⟩

/-! ## Members of a struct -/

namespace Value

lemma trimmedMembers_eq_map : ∀ members : List (String × Value),
    trimmedMembers members = members.map fun m => (m.1, m.2.trimmed) := by
  intro members
  induction members with
  | nil => rfl
  | cons m members ih => rw [trimmedMembers, ih, List.map_cons]

lemma wellFormedMembers_iff {members : List (String × Value)} :
    WellFormedMembers members ↔ ∀ m ∈ members, m.2.WellFormed := by
  induction members with
  | nil => exact ⟨fun _ => nofun, fun _ => trivial⟩
  | cons m members ih => rw [WellFormedMembers, ih, List.forall_mem_cons]

lemma membersDepth_le_iff {members : List (String × Value)} {room : Nat} :
    membersDepth members ≤ room ↔ ∀ m ∈ members, m.2.depth + 1 ≤ room := by
  induction members with
  | nil => exact ⟨fun _ => nofun, fun _ => Nat.zero_le _⟩
  | cons m members ih => rw [membersDepth, Nat.max_le, ih, List.forall_mem_cons]

/-- Members in any order make the struct that lists them in order, also when they are trimmed. -/
lemma ofMembers_trimmedMembers {members order : List (String × Value)}
    (ordered : members.Pairwise fun m n => m.1 < n.1) (perm : order.Perm members) :
    ofMembers (trimmedMembers order) = .struct (trimmedMembers members) := by
  have names := List.pairwise_map.2 ordered
  rw [← map_fst_trimmedMembers] at names
  have trimmed : (trimmedMembers order).Perm (trimmedMembers members) := by
    rw [trimmedMembers_eq_map, trimmedMembers_eq_map]
    exact perm.map _
  exact ofMembers_of_perm (List.pairwise_map.1 names) trimmed

end Value

/-! ## Values -/

/-- The content is the value, wherever it is read with this room. -/
def HoldsValue (room : Nat) (v : Value) (c : Content) : Prop :=
  ∀ before, valueOf room before c = .ok v

/-- The content is the items of an array. -/
def HoldsItems (room : Nat) (items : List Value) (c : Content) : Prop :=
  ∀ before, itemsOf room before c = .ok (before.reverse ++ items)

/-- The content is the members of a struct. -/
def HoldsMembers (room : Nat) (members : List (String × Value)) (c : Content) : Prop :=
  ∀ before, structOf room before c = .ok (.ofMembers (before.reverse ++ members))

section

variable {room : Nat} {v : Value}

lemma skips_holdsValue : Skips (HoldsValue room v) where
  blank := by
    intro raw p c layout h before
    have run : Run raw raw := .plain fun d hd => by
      have blank := List.all_eq_true.1 layout d hd
      refine ⟨?_, ?_⟩ <;> rintro rfl <;> exact absurd blank (by decide)
    rw [valueOf, run.unescape]
    exact h _
  comment h before := h before

lemma skips_arrayOf : Skips fun c => arrayOf room c = .ok v where
  blank layout h := by rwa [arrayOf, if_pos layout]
  comment h := h

lemma skips_holdsItems {items : List Value} : Skips (HoldsItems room items) where
  blank layout h before := by rw [itemsOf, if_pos layout, h]
  comment h before := h before

lemma skips_holdsMembers {members : List (String × Value)} :
    Skips (HoldsMembers room members) where
  blank layout h before := by rw [structOf, if_pos layout, h]
  comment h before := h before

lemma skips_memberOf {name? : Option (List Char)} {value? : Option Value} {m : List Char × Value} :
    Skips fun c => memberOf room name? value? c = .ok m where
  blank layout h := by rwa [memberOf, if_pos layout]
  comment h := h

lemma holdsValue_element {tag : List Char} {t : ValueType} {p : Nat} {inner rest : Content}
    (named : ValueType.ofName? tag = some t) (read : typedOf room tag inner t = .ok v)
    (ended : expectClose "value" rest = .ok ()) :
    HoldsValue room v (.element tag p inner rest) := by
  intro before
  rw [valueOf, named]
  cases t with
  | scalar s =>
    rw [typedOf] at read
    simp only [read, ended, except_ok_bind]
    rfl
  | nil =>
    obtain ⟨⟨⟩, closed, ⟨⟩⟩ := except_bind_eq_ok.1 read
    simp only [closed, ended, except_ok_bind]
    rfl
  | array =>
    rw [typedOf] at read
    simp only [read, ended, except_ok_bind]
    rfl
  | struct =>
    rw [typedOf] at read
    simp only [read, ended, except_ok_bind]
    rfl

/-- A value is presented by the element of its type, with filler around it. -/
lemma readAs_typed {tag : String} {t : ValueType} {inner before after : List Char}
    (plain : isPlainName tag.toList) (named : ValueType.ofName? tag.toList = some t)
    (read : ReadAs inner fun i => typedOf room tag.toList i t = .ok v) (hb : Filler before)
    (ha : Filler after) :
    ReadAs (before ++ elementChars tag inner ++ after) (HoldsValue room v) := by
  rw [List.append_assoc]
  refine hb.readAs skips_holdsValue (beginsWithTag_cons _) ?_
  exact .element plain read (fun p i c => holdsValue_element named) (ha.expectClose "value")

/-- An array is read if its items are. -/
lemma readAs_data {items : List Value} {inner before after : List Char}
    (read : ReadAs inner (HoldsItems room items)) (hb : Filler before) (ha : Filler after) :
    ReadAs (before ++ elementChars "data" inner ++ after) fun c =>
      arrayOf room c = .ok (.array items) := by
  rw [List.append_assoc]
  refine hb.readAs skips_arrayOf (beginsWithTag_cons _) ?_
  refine .element (by decide) read (fun p i c holds ended => ?_) (ha.expectClose "array")
  rw [arrayOf, if_pos (by rfl), holds, except_ok_bind, ended]
  rfl

/-- The name in a member is read if the rest of the member is. -/
lemma readAs_name {name : String} {written : List Char} {value? : Option Value}
    {m : List Char × Value} (named : Spells name.toList written)
    (h : ReadAs w fun c => memberOf room (some name.toList) value? c = .ok m) :
    ReadAs (elementChars "name" written ++ w) fun c => memberOf room none value? c = .ok m := by
  refine .element (by decide) named.readAs (fun p i c holds rest => ?_) h
  rw [memberOf, if_pos (by rfl), holds, except_ok_bind]
  exact rest

/-- The value in a member is read, with one level less of room, if the rest of the member is. -/
lemma readAs_value {inner : List Char} {name? : Option (List Char)} {m : List Char × Value}
    (space : room ≠ 0) (read : ReadAs inner (HoldsValue (room - 1) v))
    (h : ReadAs w fun c => memberOf room name? (some v) c = .ok m) :
    ReadAs (elementChars "value" inner ++ w) fun c => memberOf room name? none c = .ok m := by
  refine .element (by decide) read (fun p i c holds rest => ?_) h
  rw [memberOf, if_neg (by decide), if_pos (by rfl), if_neg space]
  simp only [holds [], except_ok_bind]
  exact rest

/-- A member is read once both its name and its value were. -/
lemma readAs_member {name : String} {after : List Char} (ha : Filler after) :
    ReadAs after fun c => memberOf room (some name.toList) (some v) c = .ok (name.toList, v) :=
  ha.readAs_end skips_memberOf fun _ _ => by
    rw [memberOf]
    rfl

end

mutual

/-- What presents a value is read as the value, trimmed. -/
theorem Presents.readAs : ∀ {v : Value} {w : List Char}, Presents v w → ∀ (room : Nat),
    v.WellFormed → v.depth ≤ room → ReadAs w (HoldsValue room v.trimmed)
  | _, _, .scalar form spelled hb ha, room, _, _ => by
    obtain ⟨plain, s, named, read⟩ := form.ofChars
    refine readAs_typed plain named (spelled.readAs.mono fun i holds => ?_) hb ha
    rw [typedOf, holds, except_ok_bind]
    exact read
  | _, _, .nil hb ha, room, _, _ => by
    rw [List.append_assoc]
    refine hb.readAs skips_holdsValue (beginsWithTag_cons _) ?_
    refine .empty (by decide) (fun p c ended before => ?_) (ha.expectClose "value")
    rw [valueOf, show ValueType.ofName? "nil".toList = some .nil from rfl]
    simp only [Option.bind_some, ValueType.emptyValue?, ended, except_ok_bind]
    rfl
  | _, _, @Presents.array items inner _ _ _ _ h hb ha hb' ha', room, wf, fits => by
    have array := readAs_data (h.readAs room wf fits) hb' ha'
    exact readAs_typed (t := .array) (by decide) rfl array hb ha
  | _, _, @Presents.struct members order inner _ _ h perm hb ha, room, wf, fits => by
    have wfOrder : Value.WellFormedMembers order := by
      rw [Value.wellFormedMembers_iff]
      exact fun m hm => Value.wellFormedMembers_iff.1 wf.2 m (perm.mem_iff.1 hm)
    have fitsOrder : Value.membersDepth order ≤ room := by
      rw [Value.membersDepth_le_iff]
      exact fun m hm => Value.membersDepth_le_iff.1 fits m (perm.mem_iff.1 hm)
    refine readAs_typed (t := .struct) (by decide) rfl ?_ hb ha
    refine (h.readAs room wfOrder fitsOrder).mono fun i holds => ?_
    have read := holds []
    rwa [List.reverse_nil, List.nil_append, Value.ofMembers_trimmedMembers wf.1 perm] at read

theorem PresentsItems.readAs : ∀ {items : List Value} {w : List Char}, PresentsItems items w →
    ∀ (room : Nat), Value.WellFormedItems items → Value.itemsDepth items ≤ room →
      ReadAs w (HoldsItems room (Value.trimmedItems items))
  | _, _, .nil h, room, _, _ =>
    h.readAs_end skips_holdsItems fun n q before => by
      rw [itemsOf, Value.trimmedItems, List.append_nil]
  | _, _, @PresentsItems.cons item items filler inner rest h first others, room, wf, fits => by
    rw [Value.itemsDepth] at fits
    have space : room ≠ 0 := by omega
    have read := first.readAs (room - 1) wf.1 (by omega)
    rw [List.append_assoc]
    refine h.readAs skips_holdsItems (beginsWithTag_cons _) ?_
    refine .element (by decide) read (fun p i c holds rest before => ?_)
      (others.readAs room wf.2 (by omega))
    rw [itemsOf, if_pos (by rfl), if_neg space, holds]
    simp only [except_ok_bind]
    rw [rest]
    simp [Value.trimmedItems]

theorem PresentsMembers.readAs : ∀ {members : List (String × Value)} {w : List Char},
    PresentsMembers members w → ∀ (room : Nat), Value.WellFormedMembers members →
      Value.membersDepth members ≤ room →
        ReadAs w (HoldsMembers room (Value.trimmedMembers members))
  | _, _, .nil h, room, _, _ =>
    h.readAs_end skips_holdsMembers fun n q before => by
      rw [structOf, Value.trimmedMembers, List.append_nil]
  | _, _, @PresentsMembers.cons name value members filler inner rest h first others,
      room, wf, fits => by
    rw [Value.membersDepth] at fits
    have read := first.readAs room wf.1 (by omega)
    rw [List.append_assoc]
    refine h.readAs skips_holdsMembers (beginsWithTag_cons _) ?_
    refine .element (by decide) read (fun p i c member rest before => ?_)
      (others.readAs room wf.2 (by omega))
    rw [structOf, if_pos (by rfl), member]
    simp only [except_ok_bind]
    rw [rest]
    simp [Value.trimmedMembers]

/-- The name and the value of a member are read in either order. -/
theorem PresentsMember.readAs : ∀ {name : String} {value : Value} {w : List Char},
    PresentsMember name value w → ∀ (room : Nat), value.WellFormed → value.depth + 1 ≤ room →
      ReadAs w fun c => memberOf room none none c = .ok (name.toList, value.trimmed)
  | name, value, _, .nameFirst named h hb hm ha, room, wf, fits => by
    have space : room ≠ 0 := by omega
    have read := h.readAs (room - 1) wf (by omega)
    simp only [List.append_assoc]
    refine hb.readAs skips_memberOf (beginsWithTag_cons _) (readAs_name named ?_)
    refine hm.readAs skips_memberOf (beginsWithTag_cons _) ?_
    exact readAs_value space read (readAs_member ha)
  | name, value, _, .valueFirst named h hb hm ha, room, wf, fits => by
    have space : room ≠ 0 := by omega
    have read := h.readAs (room - 1) wf (by omega)
    simp only [List.append_assoc]
    refine hb.readAs skips_memberOf (beginsWithTag_cons _) (readAs_value space read ?_)
    exact hm.readAs skips_memberOf (beginsWithTag_cons _) (readAs_name named (readAs_member ha))

end

end PerfGate.XmlRpc
