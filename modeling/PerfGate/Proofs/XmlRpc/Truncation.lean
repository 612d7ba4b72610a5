import PerfGate.Proofs.XmlRpc.Responses
import PerfGate.Proofs.XmlRpc.RootElement

/-!
# Documents cut short

What is read of a document is decided when its root element ends, and this is behind the name in its
end tag, as the tag may also end with the document. `EndsAt` says this of the bytes of a document:
whatever is cut off before that place makes it unreadable, and what stands behind it does not count
as long as it completes the tag. Every document that is read ends at one place
(`existsUnique_endsAt`), and one that was written ends before its last byte (`endsAt_document`).
-/

namespace PerfGate.XmlRpc

open Xml (Content Event Markup Piece Reader declarationText document isPlainName withoutMark)
open Xml.Content (after)
open Xml.Reader (CompletesTag)

variable {α : Type} {name : String} {f : Content → Except CodecError α} {a : α}

/-! ## The head of a document -/

variable {root head head' t t' : List Char} {pieces pieces' : List Piece}

/-- In every document that begins with these characters, the reader comes past these pieces to the
end tag of the root element, and they go on to the end of the name in it. -/
def ComesTo (root head : List Char) (pieces : List Piece) : Prop :=
  ∃ stop : Reader, ∀ t, ReadsRoot root (.start (head ++ t)) pieces
    (stop.goingOn ('<' :: '/' :: (root ++ t)))

lemma ComesTo.unique (h : ComesTo root head pieces) (h' : ComesTo root head' pieces')
    (same : head ++ t = head' ++ t') : head = head' ∧ t = t' := by
  obtain ⟨stop, reads⟩ := h
  obtain ⟨stop', reads'⟩ := h'
  have reads := reads t
  rw [same] at reads
  obtain ⟨-, stops⟩ := reads.unique (reads' t')
  have rest : '<' :: '/' :: (root ++ t) = '<' :: '/' :: (root ++ t') := congrArg Reader.rest stops
  obtain rfl : t = t' := by simpa using rest
  exact ⟨List.append_cancel_right same, rfl⟩

/-- A document is read if it has such a head, something is made of the pieces in it, and what
follows completes the tag. -/
theorem readRoot_eq_ok_iff_comesTo {document : List Char} (settles : Settles f)
    (plain : isPlainName name.toList) :
    readRoot name f document = .ok a ↔ ∃ head t pieces, document = head ++ t ∧ CompletesTag t ∧
      ComesTo name.toList head pieces ∧ ∀ n q, f (after pieces (.closed n q)) = .ok a := by
  rw [readRoot_eq_ok_iff settles plain]
  constructor
  · rintro ⟨pieces, stop, _, reads, begins, ⟨t, rfl, completes⟩, made⟩
    obtain ⟨taken, rest, same⟩ := reads.goingOn
    have unmarked : withoutMark document = (taken ++ '<' :: '/' :: name.toList) ++ t := by
      rw [List.append_assoc]
      exact rest.trans (congrArg _ begins)
    obtain ⟨head, rfl, others⟩ := Xml.withoutMark_inv unmarked (by simp)
    refine ⟨head, t, pieces, rfl, completes, ⟨stop, fun t' => ?_⟩, made⟩
    rw [Reader.start, others, List.append_assoc]
    exact same ('<' :: '/' :: (name.toList ++ t')) ⟨_, rfl⟩
  · rintro ⟨head, t, pieces, rfl, completes, ⟨stop, reads⟩, made⟩
    exact ⟨pieces, _, name.toList ++ t, reads t, rfl, ⟨t, rfl, completes⟩, made⟩

/-! ## Bytes -/

/-- What is made of the content of the root element of a document that is given as bytes. -/
def decodeRoot (name : String) (f : Content → Except CodecError α) (bytes : ByteArray) :
    Except CodecError α := do
  let (inner, _) ← expectElement name (← contentOf bytes)
  f inner

lemma decodeCall_eq : decodeCall = decodeRoot "methodCall" callOf := rfl

lemma decodeResponse_eq : decodeResponse = decodeRoot "methodResponse" responseOf := rfl

lemma decodeRoot_toUTF8 (s : String) : decodeRoot name f s.toUTF8 = readRoot name f s.toList := by
  rw [decodeRoot, contentOf_toUTF8]
  rfl

lemma toUTF8_append (s t : String) : (s ++ t).toUTF8 = s.toUTF8 ++ t.toUTF8 :=
  String.toByteArray_append

/-- Bytes that are read are a text. -/
lemma decodeRoot_inv {bytes : ByteArray} (h : decodeRoot name f bytes = .ok a) :
    ∃ s : String, bytes = s.toUTF8 ∧ readRoot name f s.toList = .ok a := by
  by_cases valid : bytes.IsValidUTF8
  · refine ⟨.fromUTF8 bytes valid, rfl, ?_⟩
    rw [← decodeRoot_toUTF8]
    exact h
  · have invalid : String.fromUTF8? bytes = none := dif_neg valid
    rw [decodeRoot, contentOf, Text.ofUtf8, invalid] at h
    cases h

/-! ## Where a document ends -/

/-- The first `m` bytes of a document decide what it is decoded as. -/
structure EndsAt (decode : ByteArray → Except CodecError α) (bytes : ByteArray) (m : Nat) :
    Prop where
  le : m ≤ bytes.size
  /-- The document is these bytes and a text that completes the tag. -/
  whole : ∃ t : String, CompletesTag t.toList ∧ bytes = bytes.extract 0 m ++ t.toUTF8
  /-- Fewer of them are not decoded. -/
  cut : ∀ n < m, ∃ e, decode (bytes.extract 0 n) = .error e
  /-- Any other text that completes the tag makes no difference. -/
  same : ∀ t : String, CompletesTag t.toList → decode (bytes.extract 0 m ++ t.toUTF8) = decode bytes
  /-- A text that does not is refused. -/
  refused : ∀ t : String, ¬ CompletesTag t.toList →
    ∃ e, decode (bytes.extract 0 m ++ t.toUTF8) = .error e

section

variable {decode : ByteArray → Except CodecError α} {bytes : ByteArray} {m n : Nat}

lemma completesTag_nil : CompletesTag [] :=
  ⟨[], [], rfl, nofun, .inl rfl⟩

/-- A tag whose name goes on is another one. -/
lemma not_completesTag_x : ¬ CompletesTag "x".toList := by
  rintro ⟨blanks, tail, split, blank, shape⟩
  cases blanks with
  | nil =>
    rcases shape with rfl | ⟨more, rfl⟩ <;> cases split
  | cons c blanks =>
    obtain ⟨rfl, -⟩ := List.cons_eq_cons.1 split
    exact absurd (blank 'x' List.mem_cons_self) (by decide)

/-- The bytes that decide are decoded by themselves. -/
lemma EndsAt.alone (h : EndsAt decode bytes m) : decode (bytes.extract 0 m) = decode bytes := by
  have same := h.same "" completesTag_nil
  have empty : bytes.extract 0 m ++ "".toUTF8 = bytes.extract 0 m := ByteArray.append_empty
  rwa [empty] at same

lemma EndsAt.le_of_accepted (h : EndsAt decode bytes m) {b : α}
    (accepted : decode (bytes.extract 0 n) = .ok b) : m ≤ n := by
  by_contra below
  obtain ⟨e, failed⟩ := h.cut n (Nat.lt_of_not_le below)
  rw [accepted] at failed
  cases failed

lemma EndsAt.unique (h : EndsAt decode bytes m) (h' : EndsAt decode bytes n)
    (accepted : decode bytes = .ok a) : m = n :=
  Nat.le_antisymm (h.le_of_accepted (h'.alone.trans accepted))
    (h'.le_of_accepted (h.alone.trans accepted))

end

/-- If the bytes at the front of a text are a text, it is at the front of the other. -/
lemma prefix_of_extract_eq {s short : String} {n : Nat} (le : n ≤ s.toUTF8.size)
    (h : s.toUTF8.extract 0 n = short.toUTF8) : short.toList <+: s.toList := by
  have split : s.toUTF8.extract 0 n ++ s.toUTF8.extract n s.toUTF8.size = s.toUTF8 := by
    rw [ByteArray.extract_append_extract, Nat.zero_min, Nat.max_eq_right le]
    exact ByteArray.extract_zero_size
  rw [h] at split
  refine List.isPrefix_of_utf8Encode_append_eq_utf8Encode (s.toUTF8.extract n s.toUTF8.size) ?_
  rw [String.utf8Encode_toList, String.utf8Encode_toList]
  exact split

/-- A document with a head ends where the head does. -/
lemma endsAt_of_comesTo (head t : String) (settles : Settles f) (plain : isPlainName name.toList)
    (comes : ComesTo name.toList head.toList pieces)
    (made : ∀ n q, f (after pieces (.closed n q)) = .ok a) (completes : CompletesTag t.toList) :
    EndsAt (decodeRoot name f) (head ++ t).toUTF8 head.toUTF8.size := by
  have front : (head ++ t).toUTF8.extract 0 head.toUTF8.size = head.toUTF8 := by
    rw [toUTF8_append]
    exact ByteArray.extract_append_eq_left rfl
  have accepted : ∀ t : String, CompletesTag t.toList →
      decodeRoot name f (head ++ t).toUTF8 = .ok a := by
    intro t completes
    rw [decodeRoot_toUTF8, readRoot_eq_ok_iff_comesTo settles plain, String.toList_append]
    exact ⟨_, _, pieces, rfl, completes, comes, made⟩
  have within : head.toUTF8.size ≤ (head ++ t).toUTF8.size := by
    rw [toUTF8_append, ByteArray.size_append]
    exact Nat.le_add_right _ _
  refine ⟨within, ?whole, ?cut, ?same, ?refused⟩
  case whole =>
    refine ⟨t, completes, ?_⟩
    rw [front, toUTF8_append]
  case cut =>
    intro n below
    cases short : decodeRoot name f ((head ++ t).toUTF8.extract 0 n) with
    | error e => exact ⟨e, rfl⟩
    | ok b =>
      obtain ⟨s, is, read⟩ := decodeRoot_inv short
      obtain ⟨head', t', pieces', split, -, comes', -⟩ :=
        (readRoot_eq_ok_iff_comesTo settles plain).1 read
      -- the head of what was cut off is the head of the whole
      obtain ⟨more, extended⟩ := prefix_of_extract_eq (le_trans below.le within) is
      rw [split, String.toList_append, List.append_assoc] at extended
      obtain ⟨rfl, -⟩ := comes.unique comes' extended.symm
      obtain rfl : s = head ++ String.ofList t' := by
        rw [← String.toList_inj, String.toList_append, String.toList_ofList, split]
      have size := congrArg ByteArray.size is
      rw [toUTF8_append head (.ofList t'), ByteArray.size_append, ByteArray.size_extract] at size
      omega
  case same =>
    intro t' completes'
    rw [front, ← toUTF8_append, accepted t' completes', accepted t completes]
  case refused =>
    intro t' other
    rw [front, ← toUTF8_append]
    cases longer : decodeRoot name f (head ++ t').toUTF8 with
    | error e => exact ⟨e, rfl⟩
    | ok b =>
      rw [decodeRoot_toUTF8, readRoot_eq_ok_iff_comesTo settles plain,
        String.toList_append] at longer
      obtain ⟨head', t'', pieces', split, completes', comes', -⟩ := longer
      obtain ⟨-, rfl⟩ := comes.unique comes' split
      exact absurd completes' other

/-- Every document that is decoded ends at one place. -/
lemma existsUnique_endsAt {bytes : ByteArray} (settles : Settles f)
    (plain : isPlainName name.toList) (h : decodeRoot name f bytes = .ok a) :
    ∃! m, EndsAt (decodeRoot name f) bytes m := by
  obtain ⟨s, rfl, read⟩ := decodeRoot_inv h
  obtain ⟨head, t, pieces, split, completes, comes, made⟩ :=
    (readRoot_eq_ok_iff_comesTo settles plain).1 read
  obtain rfl : s = String.ofList head ++ String.ofList t := by
    rw [← String.ofList_append, ← split, String.ofList_toList]
  have ends := endsAt_of_comesTo (.ofList head) (.ofList t) settles plain
    (by rwa [String.toList_ofList]) made (by rwa [String.toList_ofList])
  exact ⟨_, ends, fun m ends' => ends'.unique ends h⟩

/-! ## Written documents -/

/-- The reader comes to the end tag of a document that was written, and only its last character is
left then. -/
lemma readsRoot_document {inner : Markup} (readable : (Markup.element root inner .nil).Readable) :
    ∃ pieces stop, ReadsRoot root (.start (document (Markup.element root inner .nil).events))
      pieces stop ∧ stop.rest = '<' :: '/' :: (root ++ ['>']) := by
  obtain ⟨plain, readableInner, -⟩ := readable
  have events : (Markup.element root inner .nil).events.flatMap Event.chars =
      (Event.start root).chars ++
        (inner.events.flatMap Event.chars ++ '<' :: '/' :: (root ++ ['>'])) := by
    rw [Markup.events, Markup.events, List.flatMap_cons, List.flatMap_append,
      List.flatMap_singleton, Event.chars_close]
  obtain ⟨p, declared⟩ := Reader.next_declaration
    ((Markup.element root inner .nil).events.flatMap Event.chars)
  obtain ⟨q, opens⟩ := Reader.next_start plain (r := ⟨_, p, []⟩) events
  obtain ⟨pieces, stop, reads, ends⟩ :=
    Markup.reads readableInner (r := ⟨_, q, [root]⟩) rfl
  exact ⟨pieces, stop, ⟨_, .layout declared rfl rfl (.here opens), reads⟩, ends⟩

/-- A document that was written and is decoded ends before its last byte. -/
lemma endsAt_document {inner : Markup} (settles : Settles f)
    (readable : (Markup.element name.toList inner .nil).Readable) {doc : String}
    (written : doc = String.ofList (document (Markup.element name.toList inner .nil).events))
    (h : decodeRoot name f doc.toUTF8 = .ok a) :
    ∃ m, m + 1 = doc.toUTF8.size ∧ EndsAt (decodeRoot name f) doc.toUTF8 m := by
  have plain := readable.1
  obtain ⟨pieces, stop, reads, ends⟩ := readsRoot_document readable
  rw [decodeRoot_toUTF8, readRoot_eq_ok_iff_comesTo settles plain] at h
  obtain ⟨head, t, pieces', split, completes, ⟨stop', reads'⟩, made⟩ := h
  have whole := split
  rw [written, String.toList_ofList] at whole
  rw [whole] at reads
  obtain ⟨-, rfl⟩ := reads.unique (reads' t)
  have last : '<' :: '/' :: (name.toList ++ t) = '<' :: '/' :: (name.toList ++ ['>']) := ends
  obtain rfl : t = ['>'] := by simpa using last
  obtain rfl : doc = String.ofList head ++ ">" := by
    rw [← String.toList_inj, String.toList_append, String.toList_ofList]
    exact split
  have ended := endsAt_of_comesTo (.ofList head) ">" settles plain
    (by rw [String.toList_ofList]; exact ⟨stop', reads'⟩) made completes
  refine ⟨_, ?_, ended⟩
  rw [toUTF8_append, ByteArray.size_append]
  rfl

/-- Only the last byte of a document stands behind the place where it ends. -/
def EndsAtLast (decode : ByteArray → Except CodecError α) (bytes : ByteArray) : Prop :=
  ∃ m, m + 1 = bytes.size ∧ EndsAt decode bytes m

lemma endsAtLast_call {method : String} {params : List Value} {doc : String}
    (named : Text.trim method ≠ "") (wf : ∀ v ∈ params, v.WellFormed)
    (written : encodeCall method params = .ok doc) : EndsAtLast decodeCall doc.toUTF8 := by
  have fits : ∀ v ∈ params, v.depth ≤ maxDepth := by
    by_contra deep
    rw [encodeCall_eq_error method deep] at written
    cases written
  rw [encodeCall_eq_ok method fits] at written
  obtain rfl := Except.ok.inj written
  rw [decodeCall_eq]
  exact endsAt_document settles_callOf (readable_call method params) rfl
    (decodeCall_document named wf fits)

lemma endsAtLast_result {value : Value} {doc : String} (wf : value.WellFormed)
    (written : encodeResponse value = .ok doc) : EndsAtLast decodeResponse doc.toUTF8 := by
  have fits : value.depth ≤ maxDepth := by
    by_contra deep
    rw [encodeResponse_eq_error deep] at written
    cases written
  rw [encodeResponse_eq_ok fits] at written
  obtain rfl := Except.ok.inj written
  rw [decodeResponse_eq]
  exact endsAt_document settles_responseOf (readable_result value) rfl
    (decodeResponse_result wf fits)

lemma endsAtLast_fault {code : Int64} {message doc : String}
    (written : encodeFault code message = .ok doc) : EndsAtLast decodeResponse doc.toUTF8 := by
  rw [encodeFault_eq_ok] at written
  obtain rfl := Except.ok.inj written
  rw [decodeResponse_eq]
  exact endsAt_document settles_responseOf (readable_fault code message) rfl
    (decodeResponse_fault code message)

/-- A document that is decoded ends at one place: nothing shorter is decoded, and any text with the
same beginning is decoded as the same if the rest of it completes the end tag, and not at all
otherwise. In a document that was written, only the last byte stands behind that place. -/
theorem endsAt_of_decoded :
    (∀ bytes call, decodeCall bytes = .ok call → ∃! m, EndsAt decodeCall bytes m) ∧
      (∀ bytes response, decodeResponse bytes = .ok response →
        ∃! m, EndsAt decodeResponse bytes m) ∧
      (∀ method params doc, Text.trim method ≠ "" → (∀ v ∈ params, v.WellFormed) →
        encodeCall method params = .ok doc → EndsAtLast decodeCall doc.toUTF8) ∧
      (∀ value doc, value.WellFormed → encodeResponse value = .ok doc →
        EndsAtLast decodeResponse doc.toUTF8) ∧
      ∀ code message doc, encodeFault code message = .ok doc →
        EndsAtLast decodeResponse doc.toUTF8 := by
  refine ⟨?_, ?_, ?_, ?_, ?_⟩
  · intro bytes call decoded
    rw [decodeCall_eq] at decoded ⊢
    exact existsUnique_endsAt settles_callOf (by decide) decoded
  · intro bytes response decoded
    rw [decodeResponse_eq] at decoded ⊢
    exact existsUnique_endsAt settles_responseOf (by decide) decoded
  · intro method params doc named wf written
    exact endsAtLast_call named wf written
  · intro value doc wf written
    exact endsAtLast_result wf written
  · intro code message doc written
    exact endsAtLast_fault written

/-- A response whose end tag has blanks in it, and more behind it. -/
def spacedResponse : String :=
  "<methodResponse><params/></methodResponse \n> <!-- and so on"

/-- A call that breaks off in its end tag. -/
def unendedCall : String :=
  "<methodCall><methodName>m</methodName></methodCall\t"

theorem endsAt_of_decoded_spacedResponse :
    decodeCall unendedCall.toUTF8 = .ok ⟨"m", []⟩ ∧
      (∃! m, EndsAt decodeCall unendedCall.toUTF8 m) ∧
      decodeResponse spacedResponse.toUTF8 = .ok (.success .nil) ∧
      (∃! m, EndsAt decodeResponse spacedResponse.toUTF8 m) ∧
      Text.trim " m" ≠ "" ∧ (∀ v ∈ [Value.array [.nil]], v.WellFormed) ∧
      (∃ doc, encodeCall " m" [.array [.nil]] = .ok doc ∧ EndsAtLast decodeCall doc.toUTF8) ∧
      (∃ doc, encodeResponse (.array [.nil]) = .ok doc ∧ EndsAtLast decodeResponse doc.toUTF8) ∧
      ∃ doc, encodeFault 4 "<late>" = .ok doc ∧ EndsAtLast decodeResponse doc.toUTF8 := by
  have call : decodeCall unendedCall.toUTF8 = .ok ⟨"m", []⟩ := by
    with_unfolding_all rfl
  have response : decodeResponse spacedResponse.toUTF8 = .ok (.success .nil) := by
    with_unfolding_all rfl
  have named : Text.trim " m" ≠ "" := by decide
  have wf : (Value.array [.nil]).WellFormed := ⟨trivial, trivial⟩
  have fits : (Value.array [.nil]).depth ≤ maxDepth := by
    simp [Value.depth, Value.itemsDepth, maxDepth]
  have all {p : Value → Prop} (h : p (.array [.nil])) : ∀ v ∈ [Value.array [.nil]], p v :=
    List.forall_mem_singleton.2 h
  obtain ⟨ofCall, ofResponse, ofWrittenCall, ofResult, ofFault⟩ := endsAt_of_decoded
  exact ⟨call, ofCall _ _ call, response, ofResponse _ _ response, named, all wf,
    ⟨_, encodeCall_eq_ok " m" (all fits), ofWrittenCall _ _ _ named (all wf)
      (encodeCall_eq_ok " m" (all fits))⟩,
    ⟨_, encodeResponse_eq_ok fits, ofResult _ _ wf (encodeResponse_eq_ok fits)⟩,
    ⟨_, encodeFault_eq_ok 4 "<late>", ofFault _ _ _ (encodeFault_eq_ok 4 "<late>")⟩⟩

/-! ## The last byte may be missing -/

/-- No length is such that nothing shorter is decoded and whatever follows does not count, as an end
tag that goes on is another one. -/
lemma EndsAt.not_any {decode : ByteArray → Except CodecError α} {bytes : ByteArray} {m : Nat}
    (h : EndsAt decode bytes m) (accepted : decode bytes = .ok a) :
    ¬ ∃ p, (∀ n < p, ∃ e, decode (bytes.extract 0 n) = .error e) ∧
      ∀ s : String, decode (bytes.extract 0 p ++ s.toUTF8) = decode bytes := by
  rintro ⟨p, cut, same⟩
  have alone := same ""
  have empty : bytes.extract 0 p ++ "".toUTF8 = bytes.extract 0 p := ByteArray.append_empty
  rw [empty, accepted] at alone
  have above : p ≤ m := by
    by_contra below
    obtain ⟨e, failed⟩ := cut m (Nat.lt_of_not_le below)
    rw [h.alone, accepted] at failed
    cases failed
  -- only the end of the name is left, and there the name may go on
  obtain rfl : p = m := Nat.le_antisymm above (h.le_of_accepted alone)
  obtain ⟨e, failed⟩ := h.refused "x" not_completesTag_x
  rw [same, accepted] at failed
  cases failed

/-- The response with the result nil. -/
def nilResponse : String :=
  "<?xml version=\"1.0\"?><methodResponse><params><param><value><nil/></value></param></params>" ++
    "</methodResponse>"

/-- A written document is decoded without its last byte as well, and the end tag may not go on then:
there is no length that all texts with these bytes at the front have the same result from. -/
theorem decodeResponse_without_last :
    encodeResponse .nil = .ok nilResponse ∧
      decodeResponse (nilResponse.toUTF8.extract 0 (nilResponse.toUTF8.size - 1)) =
        .ok (.success .nil) ∧
      ¬ ∃ p, (∀ n < p, ∃ e, decodeResponse (nilResponse.toUTF8.extract 0 n) = .error e) ∧
        ∀ s : String, decodeResponse (nilResponse.toUTF8.extract 0 p ++ s.toUTF8) =
          decodeResponse nilResponse.toUTF8 := by
  have written : encodeResponse .nil = .ok nilResponse := by
    rfl
  have wf : Value.nil.WellFormed := trivial
  have fits : Value.nil.depth ≤ maxDepth := Nat.zero_le _
  have decoded : decodeResponse nilResponse.toUTF8 = .ok (.success .nil) := by
    have same := Except.ok.inj (written.symm.trans (encodeResponse_eq_ok fits))
    rw [same]
    exact decodeResponse_result wf fits
  obtain ⟨m, size, ends⟩ := endsAtLast_result wf written
  refine ⟨written, ?_, ends.not_any decoded⟩
  rw [← size, Nat.add_sub_cancel, ends.alone, decoded]

end PerfGate.XmlRpc
