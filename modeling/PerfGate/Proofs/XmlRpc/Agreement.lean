import PerfGate.Proofs.XmlRpc.Alike

/-!
# Contents that are alike are read alike

The functions that read a content make the same value of two contents that are alike, or fail on
both (`Agree`), if no element that is spelled in two ways is an array, a point in time or a value
that stands too deep (`Ordinary`). There is one lemma for each form of a content (`ReadAlike`), and
then one for each function that reads a call or a response.
-/

namespace PerfGate.XmlRpc

open Xml (Content)

variable {α β : Type} {x y : Except CodecError α} {depth : ℕ} {name tag : List Char}
  {c c' inner inner' : Content} {p p' q : ℕ}

/-! ## Results -/

/-- The results are the same, or both are errors. -/
def Agree (x y : Except CodecError α) : Prop :=
  x.toOption = y.toOption

lemma Agree.bind {f g : α → Except CodecError β} (h : Agree x y) (k : ∀ a, Agree (f a) (g a)) :
    Agree (x >>= f) (y >>= g) := by
  cases x with
  | error e =>
    cases y with
    | error e' => rfl
    | ok b => cases h
  | ok a =>
    cases y with
    | error e' => cases h
    | ok b =>
      cases h
      exact k a

/-! ## Contents -/

/-- The two spellings of the element mean the same. -/
structure Ordinary (depth : ℕ) (name : List Char) : Prop where
  array : name ≠ "array".toList
  dateTime : name ≠ "dateTime.iso8601".toList
  value : name = "value".toList → depth ≤ maxDepth

/-- The functions that read a content make the same of the two, if they are called with the room
that is left at this depth. -/
structure ReadAlike (depth : ℕ) (c c' : Content) : Prop where
  close (name : String) : Agree (expectClose name c) (expectClose name c')
  text (name : List Char) (before : List (List Char)) :
    Agree (readText name before c) (readText name before c')
  value (room : ℕ) (before : List (List Char)) (level : room + depth = maxDepth) :
    Agree (valueOf room before c) (valueOf room before c')
  array (room : ℕ) (level : room + depth = maxDepth + 1) :
    Agree (arrayOf room c) (arrayOf room c')
  items (room : ℕ) (before : List Value) (level : room + depth = maxDepth + 1) :
    Agree (itemsOf room before c) (itemsOf room before c')
  struct (room : ℕ) (before : List (String × Value)) (level : room + depth = maxDepth + 1) :
    Agree (structOf room before c) (structOf room before c')
  member (room : ℕ) (name? : Option (List Char)) (value? : Option Value)
    (level : room + depth = maxDepth + 1) :
    Agree (memberOf room name? value? c) (memberOf room name? value? c')

namespace ReadAlike

lemma stopped {reason reason' : Xml.SyntaxError} :
    ReadAlike depth (.stopped p reason) (.stopped p' reason') where
  close _ := rfl
  text _ _ := rfl
  value _ _ _ := rfl
  array _ _ := rfl
  items _ _ _ := rfl
  struct _ _ _ := rfl
  member _ _ _ _ := rfl

lemma closed : ReadAlike depth (.closed name p) (.closed name p') where
  close _ := rfl
  text _ _ := rfl
  value _ _ _ := rfl
  array _ _ := rfl
  items _ _ _ := rfl
  struct _ _ _ := rfl
  member _ _ _ _ := rfl

lemma runOfText {raw : List Char} (behind : ReadAlike depth c c') :
    ReadAlike depth (.text raw p c) (.text raw p' c') where
  close name := by
    by_cases blank : raw.all isLayout
    · simp only [expectClose, nextTag, if_pos blank]
      exact behind.close name
    · simp only [expectClose, nextTag, if_neg blank]
      rfl
  text name before := by
    rw [readText, readText]
    split
    · exact behind.text name _
    · rfl
  value room before level := by
    rw [valueOf, valueOf]
    split
    · exact behind.value room _ level
    · rfl
  array room level := by
    rw [arrayOf, arrayOf]
    split
    · exact behind.array room level
    · rfl
  items room before level := by
    rw [itemsOf, itemsOf]
    split
    · exact behind.items room before level
    · rfl
  struct room before level := by
    rw [structOf, structOf]
    split
    · exact behind.struct room before level
    · rfl
  member room name? value? level := by
    rw [memberOf, memberOf]
    split
    · exact behind.member room name? value? level
    · rfl

lemma cdata {cs : List Char} (behind : ReadAlike depth c c') :
    ReadAlike depth (.cdata cs p c) (.cdata cs p' c') where
  close _ := rfl
  text name before := behind.text name (cs :: before)
  value room before level := by
    rw [valueOf, valueOf]
    exact behind.value room (cs :: before) level
  array _ _ := rfl
  items _ _ _ := rfl
  struct _ _ _ := rfl
  member _ _ _ _ := rfl

lemma aside {kind : Xml.Aside} (behind : ReadAlike depth c c') :
    ReadAlike depth (.aside kind p c) (.aside kind p' c') where
  close name := behind.close name
  text name before := by
    cases kind with
    | comment => exact behind.text name before
    | _ => rfl
  value room before level := by
    cases kind with
    | comment =>
      rw [valueOf, valueOf]
      exact behind.value room before level
    | _ => rfl
  array room level := by
    rw [arrayOf, arrayOf]
    exact behind.array room level
  items room before level := by
    rw [itemsOf, itemsOf]
    exact behind.items room before level
  struct room before level := by
    rw [structOf, structOf]
    exact behind.struct room before level
  member room name? value? level := by
    rw [memberOf, memberOf]
    exact behind.member room name? value? level

lemma empty (behind : ReadAlike depth c c') :
    ReadAlike depth (.empty name p c) (.empty name p' c') where
  close _ := rfl
  text _ _ := rfl
  value room before level := by
    rw [valueOf, valueOf]
    split
    · exact (behind.close "value").bind fun _ => rfl
    · rfl
  array room level := by
    rw [arrayOf, arrayOf]
    split
    · exact (behind.close "array").bind fun _ => rfl
    · rfl
  items room before level := by
    rw [itemsOf, itemsOf]
    split
    · exact behind.items room _ level
    · rfl
  struct _ _ _ := rfl
  member room name? value? level := by
    rw [memberOf, memberOf]
    split
    · exact behind.member room _ value? level
    split
    · exact behind.member room name? _ level
    · rfl

lemma element (inside : ReadAlike (depth + levelsOf name) inner inner')
    (behind : ReadAlike depth c c') :
    ReadAlike depth (.element name p inner c) (.element name p' inner' c') where
  close _ := rfl
  text _ _ := rfl
  value room before level := by
    have ended := behind.close "value"
    rw [valueOf, valueOf]
    split
    · exact ((inside.text name []).bind fun _ => rfl).bind fun _ => ended.bind fun _ => rfl
    · exact (inside.close "nil").bind fun _ => ended.bind fun _ => rfl
    · rename_i named
      obtain rfl : name = "array".toList := eq_of_ofName? named (by decide)
      have deeper : room + (depth + 1) = maxDepth + 1 := by omega
      exact (inside.array room deeper).bind fun _ => ended.bind fun _ => rfl
    · rename_i named
      obtain rfl : name = "struct".toList := eq_of_ofName? named (by decide)
      have deeper : room + (depth + 1) = maxDepth + 1 := by omega
      exact (inside.struct room [] deeper).bind fun _ => ended.bind fun _ => rfl
    · rfl
  array room level := by
    rw [arrayOf, arrayOf]
    split
    · rename_i named
      obtain rfl := eq_of_beq named
      exact (inside.items room [] level).bind fun _ => (behind.close "array").bind fun _ => rfl
    · rfl
  items room before level := by
    rw [itemsOf, itemsOf]
    split
    · rename_i named
      obtain rfl := eq_of_beq named
      split
      · rfl
      · have same : room - 1 + depth = maxDepth := by omega
        exact (inside.value (room - 1) [] same).bind fun item => behind.items room _ level
    · rfl
  struct room before level := by
    rw [structOf, structOf]
    split
    · rename_i named
      obtain rfl := eq_of_beq named
      exact (inside.member room none none level).bind fun m => behind.struct room _ level
    · rfl
  member room name? value? level := by
    rw [memberOf, memberOf]
    split
    · exact (inside.text name []).bind fun cs => behind.member room _ value? level
    split
    · rename_i named
      obtain rfl := eq_of_beq named
      split
      · rfl
      · have same : room - 1 + depth = maxDepth := by omega
        exact (inside.value (room - 1) [] same).bind fun value =>
          behind.member room name? _ level
    · rfl

lemma spelled (ordinary : Ordinary depth name) (behind : ReadAlike depth c c') :
    ReadAlike depth (.element name p (.closed tag q) c) (.empty name p' c') where
  close _ := rfl
  text _ _ := rfl
  value room before level := by
    have ended := behind.close "value"
    rw [valueOf, valueOf]
    cases named : ValueType.ofName? name with
    | none => rfl
    | some t =>
      cases t with
      | scalar s =>
        cases s with
        | int => rfl
        | boolean => rfl
        | double => rfl
        | text => exact ended.bind fun _ => rfl
        | base64 => exact ended.bind fun _ => rfl
        | dateTime => exact absurd (eq_of_ofName? named (by decide)) ordinary.dateTime
      | nil => exact ended.bind fun _ => rfl
      | array => exact absurd (eq_of_ofName? named (by decide)) ordinary.array
      | struct => exact ended.bind fun _ => rfl
  array room level := by
    rw [arrayOf, arrayOf]
    split
    · exact (behind.close "array").bind fun _ => rfl
    · rfl
  items room before level := by
    rw [itemsOf, itemsOf]
    split
    · rename_i named
      have within := ordinary.value (eq_of_beq named)
      rw [if_neg (by omega)]
      exact behind.items room _ level
    · rfl
  struct room before level := by
    rw [structOf]
    split
    · rfl
    · rfl
  member room name? value? level := by
    rw [memberOf, memberOf]
    split
    · exact behind.member room _ value? level
    split
    · rename_i named
      have within := ordinary.value (eq_of_beq named)
      rw [if_neg (by omega)]
      exact behind.member room name? _ level
    · rfl

end ReadAlike

lemma readAlike_of_alike (h : Alike Ordinary depth c c') : ReadAlike depth c c' := by
  induction h with
  | stopped => exact .stopped
  | closed => exact .closed
  | element _ _ ihInside ih => exact .element ihInside ih
  | empty _ ih => exact .empty ih
  | text _ ih => exact .runOfText ih
  | cdata _ ih => exact .cdata ih
  | aside _ ih => exact .aside ih
  | spelled ordinary _ ih => exact .spelled ordinary ih

/-! ## Calls and responses -/

lemma Alike.nextTag {May : ℕ → List Char → Prop} (h : Alike May depth c c') :
    Alike May depth (nextTag c) (nextTag c') := by
  induction h with
  | aside _ ih => exact ih
  | @text depth p p' raw rest rest' behind ih =>
    by_cases blank : raw.all isLayout
    · simp only [XmlRpc.nextTag, if_pos blank]
      exact ih
    · simp only [XmlRpc.nextTag, if_neg blank]
      exact .text behind
  | stopped => exact .stopped
  | closed => exact .closed
  | element inside behind => exact .element inside behind
  | empty behind => exact .empty behind
  | cdata behind => exact .cdata behind
  | spelled may behind => exact .spelled may behind

lemma onlyValue_agree {name : String} (h : Alike Ordinary 0 c c') :
    Agree (onlyValue name c) (onlyValue name c') := by
  have first := h.nextTag
  unfold onlyValue
  generalize nextTag c = d, nextTag c' = d' at first
  cases first with
  | element inside behind =>
    have ended := (readAlike_of_alike behind).close name
    simp only
    split
    · rename_i named
      obtain rfl := eq_of_beq named
      have read := (readAlike_of_alike inside).value maxDepth [] rfl
      exact read.bind fun _ => ended.bind fun _ => rfl
    · rfl
  | empty behind =>
    simp only
    split
    · exact ((readAlike_of_alike behind).close name).bind fun _ => rfl
    · rfl
  | spelled _ behind =>
    simp only
    split
    · exact ((readAlike_of_alike behind).close name).bind fun _ => rfl
    · rfl
  | _ => rfl

lemma resultOf_agree (h : Alike Ordinary 0 c c') : Agree (resultOf c) (resultOf c') := by
  have first := h.nextTag
  unfold resultOf
  generalize nextTag c = d, nextTag c' = d' at first
  cases first with
  | element inside behind =>
    have ended := (readAlike_of_alike behind).close "params"
    simp only
    split
    · rename_i named
      obtain rfl := eq_of_beq named
      exact (onlyValue_agree inside).bind fun _ => ended.bind fun _ => rfl
    · rfl
  | spelled _ behind =>
    simp only
    split
    · rfl
    · rfl
  | _ => rfl

lemma responseOf_agree (h : Alike Ordinary 0 c c') : Agree (responseOf c) (responseOf c') := by
  have first := h.nextTag
  unfold responseOf
  generalize nextTag c = d, nextTag c' = d' at first
  cases first with
  | element inside behind =>
    have ended := (readAlike_of_alike behind).close "methodResponse"
    simp only
    split
    · rename_i named
      obtain rfl := eq_of_beq named
      exact (resultOf_agree inside).bind fun _ => ended.bind fun _ => rfl
    split
    · rename_i named
      obtain rfl := eq_of_beq named
      exact (onlyValue_agree inside).bind fun v => .bind rfl fun _ => ended.bind fun _ => rfl
    · rfl
  | empty behind =>
    have ended := (readAlike_of_alike behind).close "methodResponse"
    simp only
    split
    · exact ended.bind fun _ => rfl
    · rfl
  | spelled _ behind =>
    have ended := (readAlike_of_alike behind).close "methodResponse"
    simp only
    split
    · exact ended.bind fun _ => rfl
    split
    · rfl
    · rfl
  | _ => rfl

lemma paramsOf_agree {before : List Value} (h : Alike Ordinary depth c c') (outside : depth = 0) :
    Agree (paramsOf before c) (paramsOf before c') := by
  induction h generalizing before with
  | text _ ih =>
    rw [paramsOf, paramsOf]
    split
    · exact ih outside
    · rfl
  | aside _ ih => exact ih outside
  | element inside _ _ ih =>
    rw [paramsOf, paramsOf]
    split
    · rename_i named
      obtain rfl := eq_of_beq named
      subst outside
      exact (onlyValue_agree inside).bind fun _ => ih rfl
    · rfl
  | spelled _ _ =>
    rw [paramsOf]
    split
    · rfl
    · rfl
  | _ => rfl

lemma callOf_agree (h : Alike Ordinary 0 c c') : Agree (callOf c) (callOf c') := by
  have first := h.nextTag
  unfold callOf expectElement
  generalize nextTag c = d, nextTag c' = d' at first
  cases first with
  | @element _ _ _ _ _ _ rest rest' inside behind =>
    simp only
    split
    · have read := (readAlike_of_alike inside).text "methodName".toList []
      refine read.bind fun cs => ?_
      have second := behind.nextTag
      simp only
      split
      · rfl
      generalize nextTag rest = d, nextTag rest' = d' at second
      cases second with
      | element inside behind =>
        have ended := (readAlike_of_alike behind).close "methodCall"
        simp only
        split
        · rename_i named
          obtain rfl := eq_of_beq named
          exact (paramsOf_agree inside rfl).bind fun _ => ended.bind fun _ => rfl
        · rfl
      | empty behind =>
        have ended := (readAlike_of_alike behind).close "methodCall"
        simp only
        split
        · exact ended.bind fun _ => rfl
        · rfl
      | spelled _ behind =>
        have ended := (readAlike_of_alike behind).close "methodCall"
        simp only
        split
        · exact ended.bind fun _ => rfl
        · rfl
      | _ => rfl
    · rfl
  | spelled _ _ =>
    simp only
    split
    · rfl
    · rfl
  | _ => rfl

end PerfGate.XmlRpc
