import PerfGate.Proofs.XmlRpc.Presentation.Reading
import PerfGate.Proofs.XmlRpc.Truncation

/-!
# Decoding does not depend on the presentation

All documents that present a call are decoded alike, as the document that is written for it
(`decodeCall_presentation`). In front of the root element, the reader comes past filler and the
declaration (`LeadsTo`); in it, past a presentation of the call's parts.
-/

namespace PerfGate.XmlRpc

open Xml (Content Event Reader IsComment commentChars declarationText withoutMark)

variable {u w : List Char}

/-! ## Calls -/

/-- The content is the parameters of a call. -/
def HoldsParams (params : List Value) (c : Content) : Prop :=
  ∀ before, paramsOf before c = .ok (before.reverse ++ params)

lemma skips_holdsParams {params : List Value} : Skips (HoldsParams params) where
  blank layout h before := by rw [paramsOf, if_pos layout, h]
  comment h before := h before

lemma onlyValue_congr {name : String} {c c' : Content} (same : nextTag c' = nextTag c) :
    onlyValue name c' = onlyValue name c := by
  rw [onlyValue, onlyValue, same]

lemma callOf_congr {c c' : Content} (same : nextTag c' = nextTag c) : callOf c' = callOf c := by
  rw [callOf, callOf, expectElement, expectElement, same]

lemma Arguments.congr {params : List Value} {c c' : Content} (same : nextTag c' = nextTag c)
    (h : Arguments c params) : Arguments c' params := by
  cases h with
  | none ended => exact .none (same.trans ended)
  | params found read ended => exact .params (same.trans found) read ended
  | noParams found ended => exact .noParams (same.trans found) ended

/-- The value of a parameter is read. -/
lemma readAs_param {v : Value} {inner before after : List Char}
    (read : ReadAs inner (HoldsValue maxDepth v)) (hb : Filler before) (ha : Filler after) :
    ReadAs (before ++ elementChars "value" inner ++ after) fun c =>
      onlyValue "param" c = .ok v := by
  have skips : Skips fun c => onlyValue "param" c = .ok v :=
    skips_of_nextTag fun c c' same h => (onlyValue_congr same).trans h
  rw [List.append_assoc]
  refine hb.readAs skips (beginsWithTag_cons _) ?_
  refine .element (by decide) read (fun p i c holds ended => ?_) (ha.expectClose "param")
  rw [onlyValue, nextTag_element]
  simp only [holds [], ended, except_ok_bind]
  rfl

/-- What presents parameters is read as these parameters, trimmed. -/
lemma PresentsParams.readAs {params : List Value} (h : PresentsParams params w)
    (wf : ∀ v ∈ params, v.WellFormed) (fits : ∀ v ∈ params, v.depth ≤ maxDepth) :
    ReadAs w (HoldsParams (params.map Value.trimmed)) := by
  induction h with
  | nil h =>
    refine h.readAs_end skips_holdsParams fun n q before => ?_
    rw [paramsOf, List.map_nil, List.append_nil]
  | cons h first hb ha _ ih =>
    obtain ⟨wfHead, wf⟩ := List.forall_mem_cons.1 wf
    obtain ⟨fitsHead, fits⟩ := List.forall_mem_cons.1 fits
    have param := readAs_param (first.readAs maxDepth wfHead fitsHead) hb ha
    rw [List.append_assoc]
    refine h.readAs skips_holdsParams (beginsWithTag_cons _) ?_
    refine .element (by decide) param (fun p i c read rest before => ?_) (ih wf fits)
    rw [paramsOf, if_pos (by rfl), read, except_ok_bind, rest]
    simp

/-- What presents the name of a method and parameters is read as the call of this method. -/
lemma readAs_call {method : String} {given : List Value}
    {cs name arguments opening between closing : List Char} (padded : Padded method cs)
    (named : Spells cs name) (nonempty : Text.trim method ≠ "")
    (read : ReadAs arguments (HoldsParams given)) (ho : Filler opening) (hm : Filler between)
    (hc : Filler closing) :
    ReadAs (opening ++ elementChars "methodName" name ++ between ++
      elementChars "params" arguments ++ closing) fun c =>
        callOf c = .ok ⟨Text.trim method, given⟩ := by
  have skips : Skips fun c => callOf c = .ok ⟨Text.trim method, given⟩ :=
    skips_of_nextTag fun c c' same h => (callOf_congr same).trans h
  have skipsArguments : Skips fun c => Arguments c given :=
    skips_of_nextTag fun c c' same h => h.congr same
  have trimmed : Text.trim method = String.ofList (Text.trimChars cs) := by
    rw [padded.trimChars]
    rfl
  have notEmpty : (Text.trim method).isEmpty = false := by
    simpa using nonempty
  simp only [List.append_assoc]
  refine ho.readAs skips (beginsWithTag_cons _) ?_
  refine .element (R := fun c => Arguments c given) (by decide) named.readAs
    (fun p i c holds arguments => ?_) ?_
  · exact callOf_of_arguments (expectElement_of_nextTag rfl) (holds _ []) trimmed notEmpty
      arguments
  · refine hm.readAs skipsArguments (beginsWithTag_cons _) ?_
    exact .element (by decide) read (fun p i c holds ended => .params rfl (holds []) ended)
      (hc.expectClose "methodCall")

/-! ## Up to the root element -/

/-- The reader comes past the characters to the start tag of the root element, if it stands behind
them. -/
def LeadsTo (root w : List Char) : Prop :=
  ∀ (r : Reader) (cs : List Char), r.rest = w ++ ((Event.start root).chars ++ cs) →
    ∃ r', Opens root r r' ∧ r'.rest = cs

variable {root : List Char}

lemma leadsTo_nil (plain : Xml.isPlainName root) : LeadsTo root [] := by
  intro r cs begins
  obtain ⟨p, opens⟩ := Reader.next_start plain begins
  exact ⟨_, .here opens, rfl⟩

lemma LeadsTo.aside {kind : Xml.Aside}
    (step : ∀ (r : Reader) (more : List Char), r.rest = u ++ more →
      ∃ p, r.next = .event (.aside kind) p ⟨more, p, r.opened⟩)
    (h : LeadsTo root w) : LeadsTo root (u ++ w) := by
  intro r cs begins
  rw [List.append_assoc] at begins
  obtain ⟨p, first⟩ := step r _ begins
  obtain ⟨r', opens, rest⟩ := h ⟨_, p, r.opened⟩ cs rfl
  exact ⟨r', .layout first rfl rfl opens, rest⟩

lemma LeadsTo.blanks {run : List Char} (some : run ≠ []) (blank : ∀ c ∈ run, c ∈ asciiBlanks)
    (tag : BeginsWithTag w) (h : LeadsTo root w) : LeadsTo root (run ++ w) := by
  intro r cs begins
  rw [List.append_assoc] at begins
  obtain ⟨layout, plain⟩ := layout_of_blanks blank
  obtain ⟨p, q, step⟩ := Reader.next_text some plain (tag.append _) begins
  obtain ⟨r', opens, rest⟩ := h ⟨_, q, r.opened⟩ cs rfl
  exact ⟨r', .layout step rfl layout opens, rest⟩

lemma Filler.leadsTo (filler : Filler u) (tag : BeginsWithTag w) (h : LeadsTo root w) :
    LeadsTo root (u ++ w) := by
  refine filler.induct (G := LeadsTo root) ?blanks ?comment tag h
  case blanks => exact fun some blank tag h => h.blanks some blank tag
  case comment => exact fun hc h => h.aside fun _ _ begins => Reader.next_comment hc begins

/-- The declaration is one aside, wherever it stands. -/
lemma next_declarationText {r : Reader} {more : List Char}
    (begins : r.rest = declarationText ++ more) :
    ∃ p, r.next = .event (.aside .instruction) p ⟨more, p, r.opened⟩ := by
  obtain ⟨rest, offset, opened⟩ := r
  obtain rfl : rest = declarationText ++ more := begins
  exact ⟨_, rfl⟩

lemma beginsWithTag_declarationText (w : List Char) : BeginsWithTag (declarationText ++ w) :=
  beginsWithTag_cons _

/-- A document that begins with filler or a tag has no mark in front of it. -/
lemma Filler.withoutMark (filler : Filler u) (tag : BeginsWithTag w) :
    withoutMark (u ++ w) = u ++ w := by
  cases filler with
  | nil =>
    cases w with
    | nil => rfl
    | cons c cs =>
      obtain rfl : c = '<' := tag c rfl
      rfl
  | @blank c _ h _ =>
    refine if_neg ?_
    rintro rfl
    exact absurd h (by decide)
  | comment _ _ => rfl

/-! ## Documents -/

/-- What presents a call is decoded as the call, its method and its arguments trimmed. -/
lemma PresentsCall.decoded {method : String} {params : List Value} {document : String}
    (h : PresentsCall method params document.toList) (named : Text.trim method ≠ "")
    (wf : ∀ v ∈ params, v.WellFormed) (fits : ∀ v ∈ params, v.depth ≤ maxDepth) :
    decodeCall document.toUTF8 = .ok ⟨Text.trim method, params.map Value.trimmed⟩ := by
  rw [decodeCall_eq, decodeRoot_toUTF8, readRoot_eq_ok_iff settles_callOf (by decide)]
  generalize document.toList = chars at h
  obtain ⟨padded, spelled, given, hb, hf, ho, hm, hc, ha⟩ := h
  rename_i cs name arguments before front opening between closing after
  have toRoot : LeadsTo "methodCall".toList (before ++ (declarationText ++ (front ++ []))) := by
    have here : LeadsTo "methodCall".toList [] := leadsTo_nil (by decide)
    have last := hf.leadsTo beginsWithTag_nil here
    have declared := last.aside fun _ _ begins => next_declarationText begins
    exact hb.leadsTo (beginsWithTag_declarationText _) declared
  have call := readAs_call padded spelled named (given.readAs wf fits) ho hm hc
  generalize opening ++ elementChars "methodName" name ++ between ++
    elementChars "params" arguments ++ closing = inner at call ⊢
  have begins : (Reader.start (before ++ declarationText ++ front ++
      elementChars "methodCall" inner ++ after)).rest =
        before ++ (declarationText ++ (front ++ [])) ++ ((Event.start "methodCall".toList).chars ++
          (inner ++ '<' :: '/' :: ("methodCall".toList ++ '>' :: after))) := by
    have unmarked := hb.withoutMark (beginsWithTag_declarationText
      (front ++ (elementChars "methodCall" inner ++ after)))
    simp only [Reader.start, elementChars, Event.chars_close, List.append_assoc, List.cons_append,
      List.nil_append] at unmarked ⊢
    exact unmarked
  obtain ⟨r', opens, rest⟩ := toRoot _ _ begins
  obtain ⟨pieces, stop, reads, ends, holds⟩ := call r' _ rest
  have completes : Reader.CompletesTag ('>' :: after) :=
    ⟨[], _, rfl, List.forall_mem_nil _, .inr ⟨after, rfl⟩⟩
  exact ⟨pieces, stop, _, ⟨r', opens, reads⟩, ends, ⟨_, rfl, completes⟩, holds⟩

/-- A call that is not too deep is written, and every document that presents it is decoded as the
one that is written, which is one of them. -/
theorem decodeCall_presentation {method : String} {params : List Value}
    (named : Text.trim method ≠ "") (wf : ∀ v ∈ params, v.WellFormed)
    (fits : ∀ v ∈ params, v.depth ≤ maxDepth) :
    ∃ doc, encodeCall method params = .ok doc ∧ PresentsCall method params doc.toList ∧
      decodeCall doc.toUTF8 = .ok ⟨Text.trim method, params.map Value.trimmed⟩ ∧
      ∀ document : String, PresentsCall method params document.toList →
        decodeCall document.toUTF8 = decodeCall doc.toUTF8 := by
  have presents : PresentsCall method params
      (String.ofList (Xml.document (callMarkup method params).events)).toList := by
    rw [String.toList_ofList]
    exact presents_written method params
  have decoded := presents.decoded named wf fits
  refine ⟨_, encodeCall_eq_ok method fits, presents, decoded, fun document h => ?_⟩
  rw [h.decoded named wf fits, decoded]

/-- A struct with two members, an array in one of them. -/
def jobArguments : List Value :=
  [.struct [("a", .int 5), ("b", .array [.boolean true, .text "x<y"])]]

/-- A call with these arguments, laid out by hand: the members in reverse, the value before the name
in one of them, and a text in three parts. -/
def laidOutCall : String :=
  "\n<?xml version=\"1.0\"?><!-- <job> -->\n<methodCall>\x0c<methodName> job</methodName>\t" ++
    "<params><param><value><struct>\n<member><value><!-- -> --><array><data><value><boolean>" ++
    " true</boolean></value>\n<value><string>x<![CDATA[<]]><!-- y -->y</string></value></data>" ++
    "</array></value> <name>b</name></member><member><name>a</name><value><i4>5\n</i4></value>" ++
    "</member></struct></value></param></params> </methodCall>\n"

lemma presents_laidOutCall : PresentsCall "job" jobArguments laidOutCall.toList := by
  have blank {c : Char} (h : c ∈ asciiBlanks) : Filler [c] := .blank h .nil
  have newline : Filler ['\n'] := blank (by simp [asciiBlanks])
  have space : Filler [' '] := blank (by simp [asciiBlanks])
  have tab : Filler ['\t'] := blank (by simp [asciiBlanks])
  have feed : Filler ['\x0c'] := blank (by simp [asciiBlanks])
  have flag : Presents (.boolean true) ([] ++ elementChars "boolean" " true".toList ++ []) := by
    have padded : Padded "true" " true".toList :=
      ⟨[' '], [], rfl, by simp; rfl, List.forall_mem_nil _⟩
    exact .scalar (.boolean (by decide) padded) (spells_self (by simp)) .nil .nil
  have number : Presents (.int 5) ([] ++ elementChars "i4" "5\n".toList ++ []) := by
    have padded : Padded (toString (5 : Int64).toInt) "5\n".toList :=
      ⟨[], ['\n'], by decide, List.forall_mem_nil _, by simp; rfl⟩
    exact .scalar (.int (by decide) padded) (spells_self (by simp)) .nil .nil
  have text : Presents (.text "x<y")
      ([] ++ elementChars "string" "x<![CDATA[<]]><!-- y -->y".toList ++ []) := by
    have aside : IsComment " y ".toList := by decide
    have mark : Xml.IsLiteral ['<'] := by decide
    have y : Spells ['y'] ['y'] := spells_self (by simp)
    have spelled : Spells "x<y".toList "x<![CDATA[<]]><!-- y -->y".toList :=
      .char (.plain (by decide) (by decide)) (.literal mark (.comment aside y))
    exact .scalar .text spelled .nil .nil
  have arrow : IsComment " -> ".toList := by decide
  have array := Presents.array (.cons .nil flag (.cons newline text (.nil .nil)))
    (.comment arrow .nil) .nil .nil .nil
  have b : PresentsMember "b" _ _ := .valueFirst (spells_self (by simp)) array .nil space .nil
  have a : PresentsMember "a" _ _ := .nameFirst (spells_self (by simp)) number .nil .nil .nil
  have struct := Presents.struct (.cons newline b (.cons .nil a (.nil .nil))) (.swap _ _ _)
    .nil .nil
  have padded : Padded "job" " job".toList := ⟨[' '], [], rfl, by simp; rfl, List.forall_mem_nil _⟩
  have heading : IsComment " <job> ".toList := by decide +kernel
  have call := PresentsCall.intro padded (spells_self (by simp))
    (.cons .nil struct .nil .nil (.nil .nil)) newline (.comment heading newline) feed tab space
    newline
  have joined (a b c d e : List Char) : String.ofList a ++ String.ofList b ++ String.ofList c ++
      String.ofList d ++ String.ofList e = String.ofList (a ++ b ++ c ++ d ++ e) := by
    simp only [String.ofList_append]
  have chars : laidOutCall = String.ofList _ := joined _ _ _ _ _
  rw [chars, String.toList_ofList]
  set_option maxRecDepth 4000 in exact call

theorem decodeCall_presentation_laidOut :
    Text.trim "job" ≠ "" ∧ (∀ v ∈ jobArguments, v.WellFormed) ∧
      (∀ v ∈ jobArguments, v.depth ≤ maxDepth) ∧
      PresentsCall "job" jobArguments laidOutCall.toList ∧
      ∃ doc, encodeCall "job" jobArguments = .ok doc ∧
        decodeCall doc.toUTF8 = .ok ⟨"job", jobArguments⟩ ∧
        decodeCall laidOutCall.toUTF8 = decodeCall doc.toUTF8 := by
  have named : Text.trim "job" ≠ "" := by decide
  have wf : ∀ v ∈ jobArguments, v.WellFormed := by
    have ordered : "a" < "b" := by decide
    refine List.forall_mem_singleton.2 ⟨List.pairwise_pair.2 ordered, ?_⟩
    simp only [Value.WellFormedMembers, Value.WellFormed, Value.WellFormedItems, and_self]
  have fits : ∀ v ∈ jobArguments, v.depth ≤ maxDepth := by
    simp [jobArguments, Value.depth, Value.itemsDepth, Value.membersDepth, maxDepth]
  obtain ⟨doc, written, -, decoded, alike⟩ := decodeCall_presentation named wf fits
  exact ⟨named, wf, fits, presents_laidOutCall, doc, written, decoded,
    alike laidOutCall presents_laidOutCall⟩

end PerfGate.XmlRpc
