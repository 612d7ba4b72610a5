import Mathlib.Tactic.Lemma
import PerfGate.XmlRpc.Decoding

/-!
# What a reading that succeeds has found

Inversion lemmas: if a function that reads a content succeeds, the content is of one of the forms
that the function accepts, its parts were read, and the result is made of theirs. There is one lemma
for each form with parts, so that later proofs go by the forms and never through the functions.
-/

namespace PerfGate.XmlRpc

open Xml (Content)

variable {room : Nat} {name tag : List Char} {p : Nat} {inner rest c : Content} {v : Value}

lemma except_ok_bind {ε α β : Type} (a : α) (f : α → Except ε β) : (Except.ok a >>= f) = f a := rfl

lemma except_bind_eq_ok {ε α β : Type} {x : Except ε α} {f : α → Except ε β} {b : β} :
    (x >>= f) = .ok b ↔ ∃ a, x = .ok a ∧ f a = .ok b := by
  cases x with
  | error e => exact ⟨nofun, nofun⟩
  | ok a => exact ⟨fun h => ⟨a, rfl, h⟩, fun ⟨_, rfl, h⟩ => h⟩

/-! ## End tags -/

lemma expectClose_inv {expected : String} (h : expectClose expected c = .ok ()) :
    ∃ n q, nextTag c = .closed n q := by
  unfold expectClose at h
  split at h
  · rename_i n q found
    exact ⟨n, q, found⟩
  · cases h

/-! ## Values -/

lemma valueOf_text_inv {before : List (List Char)} {raw : List Char}
    (h : valueOf room before (.text raw p rest) = .ok v) :
    ∃ cs, Xml.unescape raw = .ok cs ∧ valueOf room (cs :: before) rest = .ok v := by
  rw [valueOf] at h
  split at h
  · rename_i cs found
    exact ⟨cs, found, h⟩
  · cases h

/-- The value in the content of an element of a type. -/
def typedOf (room : Nat) (name : List Char) (inner : Content) : ValueType → Except CodecError Value
  | .scalar s => readText name [] inner >>= s.ofChars
  | .nil => expectClose "nil" inner >>= fun _ => pure .nil
  | .array => arrayOf room inner
  | .struct => structOf room [] inner

lemma valueOf_element_inv {before : List (List Char)}
    (h : valueOf room before (.element name p inner rest) = .ok v) :
    ∃ t, ValueType.ofName? name = some t ∧ typedOf room name inner t = .ok v ∧
      expectClose "value" rest = .ok () := by
  rw [valueOf] at h
  split at h
  · rename_i s named
    obtain ⟨value, read, h⟩ := except_bind_eq_ok.1 h
    obtain ⟨⟨⟩, ended, ⟨⟩⟩ := except_bind_eq_ok.1 h
    exact ⟨.scalar s, named, read, ended⟩
  · rename_i named
    obtain ⟨⟨⟩, read, h⟩ := except_bind_eq_ok.1 h
    obtain ⟨_, ⟨⟩, h⟩ := except_bind_eq_ok.1 h
    obtain ⟨⟨⟩, ended, ⟨⟩⟩ := except_bind_eq_ok.1 h
    exact ⟨.nil, named, except_bind_eq_ok.2 ⟨(), read, rfl⟩, ended⟩
  · rename_i named
    obtain ⟨value, read, h⟩ := except_bind_eq_ok.1 h
    obtain ⟨⟨⟩, ended, ⟨⟩⟩ := except_bind_eq_ok.1 h
    exact ⟨.array, named, read, ended⟩
  · rename_i named
    obtain ⟨value, read, h⟩ := except_bind_eq_ok.1 h
    obtain ⟨⟨⟩, ended, ⟨⟩⟩ := except_bind_eq_ok.1 h
    exact ⟨.struct, named, read, ended⟩
  · cases h

lemma valueOf_empty_inv {before : List (List Char)}
    (h : valueOf room before (.empty name p rest) = .ok v) :
    (∃ t, ValueType.ofName? name = some t ∧ t.emptyValue? = some v) ∧
      expectClose "value" rest = .ok () := by
  rw [valueOf] at h
  split at h
  · rename_i value found
    obtain ⟨⟨⟩, ended, ⟨⟩⟩ := except_bind_eq_ok.1 h
    obtain ⟨t, named, empty⟩ := Option.bind_eq_some_iff.1 found
    exact ⟨⟨t, named, empty⟩, ended⟩
  · cases h

/-! ## Arrays -/

lemma arrayOf_text_inv {raw : List Char} (h : arrayOf room (.text raw p rest) = .ok v) :
    arrayOf room rest = .ok v := by
  rw [arrayOf] at h
  split at h
  · exact h
  · cases h

lemma arrayOf_element_inv (h : arrayOf room (.element name p inner rest) = .ok v) :
    isNamed name "data" ∧ ∃ items, itemsOf room [] inner = .ok items ∧
      expectClose "array" rest = .ok () ∧ v = .array items := by
  rw [arrayOf] at h
  split at h
  · rename_i named
    obtain ⟨items, read, h⟩ := except_bind_eq_ok.1 h
    obtain ⟨⟨⟩, ended, ⟨⟩⟩ := except_bind_eq_ok.1 h
    exact ⟨named, items, read, ended, rfl⟩
  · cases h

lemma arrayOf_empty_inv (h : arrayOf room (.empty name p rest) = .ok v) :
    isNamed name "data" ∧ expectClose "array" rest = .ok () ∧ v = .array [] := by
  rw [arrayOf] at h
  split at h
  · rename_i named
    obtain ⟨⟨⟩, ended, ⟨⟩⟩ := except_bind_eq_ok.1 h
    exact ⟨named, ended, rfl⟩
  · cases h

variable {before items : List Value}

lemma itemsOf_text_inv {raw : List Char}
    (h : itemsOf room before (.text raw p rest) = .ok items) :
    itemsOf room before rest = .ok items := by
  rw [itemsOf] at h
  split at h
  · exact h
  · cases h

/-- An item in a start tag needs room for one more level. -/
lemma itemsOf_element_inv (h : itemsOf room before (.element name p inner rest) = .ok items) :
    isNamed name "value" ∧ room ≠ 0 ∧ ∃ item, valueOf (room - 1) [] inner = .ok item ∧
      itemsOf room (item :: before) rest = .ok items := by
  rw [itemsOf] at h
  split at h
  · rename_i named
    split at h
    · cases h
    · rename_i space
      obtain ⟨item, read, h⟩ := except_bind_eq_ok.1 h
      exact ⟨named, space, item, read, h⟩
  · cases h

/-- One in a self-closing tag does not. -/
lemma itemsOf_empty_inv (h : itemsOf room before (.empty name p rest) = .ok items) :
    isNamed name "value" ∧ itemsOf room (.text "" :: before) rest = .ok items := by
  rw [itemsOf] at h
  split at h
  · rename_i named
    exact ⟨named, h⟩
  · cases h

/-! ## Structs -/

variable {read : List (String × Value)}

lemma structOf_text_inv {raw : List Char} (h : structOf room read (.text raw p rest) = .ok v) :
    structOf room read rest = .ok v := by
  rw [structOf] at h
  split at h
  · exact h
  · cases h

lemma structOf_element_inv (h : structOf room read (.element name p inner rest) = .ok v) :
    isNamed name "member" ∧ ∃ m, memberOf room none none inner = .ok m ∧
      structOf room ((String.ofList m.1, m.2) :: read) rest = .ok v := by
  rw [structOf] at h
  split at h
  · rename_i named
    obtain ⟨m, found, h⟩ := except_bind_eq_ok.1 h
    exact ⟨named, m, found, h⟩
  · cases h

variable {name? : Option (List Char)} {value? : Option Value} {m : List Char × Value}

lemma memberOf_text_inv {raw : List Char}
    (h : memberOf room name? value? (.text raw p rest) = .ok m) :
    memberOf room name? value? rest = .ok m := by
  rw [memberOf] at h
  split at h
  · exact h
  · cases h

/-- A part of a member is its name or its value; a value in a start tag needs room for one more
level. -/
lemma memberOf_element_inv (h : memberOf room name? value? (.element tag p inner rest) = .ok m) :
    (isNamed tag "name" ∧ ∃ cs, readText tag [] inner = .ok cs ∧
        memberOf room (some cs) value? rest = .ok m) ∨
      (isNamed tag "value" ∧ room ≠ 0 ∧ ∃ value, valueOf (room - 1) [] inner = .ok value ∧
        memberOf room name? (some value) rest = .ok m) := by
  rw [memberOf] at h
  split at h
  · rename_i named
    obtain ⟨cs, found, h⟩ := except_bind_eq_ok.1 h
    exact .inl ⟨named, cs, found, h⟩
  · split at h
    · rename_i named
      split at h
      · cases h
      · rename_i space
        obtain ⟨value, found, h⟩ := except_bind_eq_ok.1 h
        exact .inr ⟨named, space, value, found, h⟩
    · cases h

/-- One in a self-closing tag does not. -/
lemma memberOf_empty_inv (h : memberOf room name? value? (.empty tag p rest) = .ok m) :
    (isNamed tag "name" ∧ memberOf room (some []) value? rest = .ok m) ∨
      (isNamed tag "value" ∧ memberOf room name? (some (.text "")) rest = .ok m) := by
  rw [memberOf] at h
  split at h
  · rename_i named
    exact .inl ⟨named, h⟩
  · split at h
    · rename_i named
      exact .inr ⟨named, h⟩
    · cases h

lemma member_inv (h : member name? value? = .ok m) : name? = some m.1 ∧ value? = some m.2 := by
  unfold member at h
  split at h
  · cases h
    exact ⟨rfl, rfl⟩
  · cases h
  · cases h

/-! ## Calls and responses -/

/-- The one value of an element is in a start tag or in a self-closing one. -/
lemma onlyValue_inv {expected : String} (h : onlyValue expected c = .ok v) :
    (∃ q inner rest, nextTag c = .element "value".toList q inner rest ∧
        valueOf maxDepth [] inner = .ok v ∧ expectClose expected rest = .ok ()) ∨
      ∃ q rest, nextTag c = .empty "value".toList q rest ∧ v = .text "" ∧
        expectClose expected rest = .ok () := by
  unfold onlyValue at h
  split at h
  · rename_i tag q inner rest found
    split at h
    · rename_i named
      obtain ⟨value, read, h⟩ := except_bind_eq_ok.1 h
      obtain ⟨⟨⟩, ended, ⟨⟩⟩ := except_bind_eq_ok.1 h
      obtain rfl := eq_of_beq named
      exact .inl ⟨q, inner, rest, found, read, ended⟩
    · cases h
  · rename_i tag q rest found
    split at h
    · rename_i named
      obtain ⟨⟨⟩, ended, ⟨⟩⟩ := except_bind_eq_ok.1 h
      obtain rfl := eq_of_beq named
      exact .inr ⟨q, rest, found, rfl, ended⟩
    · cases h
  · cases h

/-- A response without a parameter has the result nil. -/
lemma resultOf_inv (h : resultOf c = .ok v) :
    (∃ n q, nextTag c = .closed n q ∧ v = .nil) ∨
      ∃ q inner rest, nextTag c = .element "param".toList q inner rest ∧
        onlyValue "param" inner = .ok v ∧ expectClose "params" rest = .ok () := by
  unfold resultOf at h
  split at h
  · rename_i n q found
    cases h
    exact .inl ⟨n, q, found, rfl⟩
  · rename_i tag q inner rest found
    split at h
    · rename_i named
      obtain ⟨value, read, h⟩ := except_bind_eq_ok.1 h
      obtain ⟨⟨⟩, ended, ⟨⟩⟩ := except_bind_eq_ok.1 h
      obtain rfl := eq_of_beq named
      exact .inr ⟨q, inner, rest, found, read, ended⟩
    · cases h
  · cases h

/-- The first element of a response, what follows it, and the response it makes. -/
inductive Answers : Content → Content → Response → Prop
  | params {q : Nat} {inner rest : Content} {v : Value} (read : resultOf inner = .ok v) :
      Answers (.element "params".toList q inner rest) rest (.success v)
  | fault {q : Nat} {inner rest : Content} {v : Value} {r : Response}
      (read : onlyValue "fault" inner = .ok v) (described : faultOf v = .ok r) :
      Answers (.element "fault".toList q inner rest) rest r
  | noParams {q : Nat} {rest : Content} :
      Answers (.empty "params".toList q rest) rest (.success .nil)

lemma responseOf_inv {r : Response} (h : responseOf c = .ok r) :
    ∃ rest, Answers (nextTag c) rest r ∧ expectClose "methodResponse" rest = .ok () := by
  rw [responseOf] at h
  split at h
  · rename_i tag q inner rest found
    rw [found]
    split at h
    · rename_i named
      obtain rfl := eq_of_beq named
      obtain ⟨value, read, h⟩ := except_bind_eq_ok.1 h
      obtain ⟨_, ⟨⟩, h⟩ := except_bind_eq_ok.1 h
      obtain ⟨⟨⟩, ended, ⟨⟩⟩ := except_bind_eq_ok.1 h
      exact ⟨rest, .params read, ended⟩
    split at h
    · rename_i named
      obtain rfl := eq_of_beq named
      obtain ⟨value, read, h⟩ := except_bind_eq_ok.1 h
      obtain ⟨response, described, h⟩ := except_bind_eq_ok.1 h
      obtain ⟨_, ⟨⟩, h⟩ := except_bind_eq_ok.1 h
      obtain ⟨⟨⟩, ended, ⟨⟩⟩ := except_bind_eq_ok.1 h
      exact ⟨rest, .fault read described, ended⟩
    · cases h
  · rename_i tag q rest found
    rw [found]
    split at h
    · rename_i named
      obtain rfl := eq_of_beq named
      obtain ⟨_, ⟨⟩, h⟩ := except_bind_eq_ok.1 h
      obtain ⟨⟨⟩, ended, ⟨⟩⟩ := except_bind_eq_ok.1 h
      exact ⟨rest, .noParams, ended⟩
    · cases h
  · cases h

/-- A response is what its first element says, if nothing follows that element. -/
lemma responseOf_of_answers {r : Response} (answers : Answers (nextTag c) rest r)
    (ended : expectClose "methodResponse" rest = .ok ()) : responseOf c = .ok r := by
  generalize found : nextTag c = first at answers
  rw [responseOf, found]
  cases answers with
  | params read =>
    simp only [read, except_ok_bind]
    rw [if_pos (by rfl), pure_bind, ended]
    rfl
  | fault read described =>
    simp only [read, except_ok_bind, described]
    rw [if_neg (by decide), if_pos (by rfl), pure_bind, ended]
    rfl
  | noParams =>
    simp only
    rw [if_pos (by rfl), pure_bind, ended]
    rfl

lemma paramsOf_text_inv {params : List Value} {raw : List Char}
    (h : paramsOf before (.text raw p rest) = .ok params) : paramsOf before rest = .ok params := by
  rw [paramsOf] at h
  split at h
  · exact h
  · cases h

lemma paramsOf_element_inv {params : List Value}
    (h : paramsOf before (.element name p inner rest) = .ok params) :
    isNamed name "param" ∧ ∃ param, onlyValue "param" inner = .ok param ∧
      paramsOf (param :: before) rest = .ok params := by
  rw [paramsOf] at h
  split at h
  · rename_i named
    obtain ⟨param, read, h⟩ := except_bind_eq_ok.1 h
    exact ⟨named, param, read, h⟩
  · cases h

/-- What follows the name of the method in a call, and the parameters that it gives. -/
inductive Arguments : Content → List Value → Prop
  | none {c : Content} {n : List Char} {q : Nat} (ended : nextTag c = .closed n q) : Arguments c []
  | params {c inner rest : Content} {q : Nat} {params : List Value}
      (found : nextTag c = .element "params".toList q inner rest)
      (read : paramsOf [] inner = .ok params)
      (ended : expectClose "methodCall" rest = .ok ()) : Arguments c params
  | noParams {c rest : Content} {q : Nat} (found : nextTag c = .empty "params".toList q rest)
      (ended : expectClose "methodCall" rest = .ok ()) : Arguments c []

lemma expectElement_inv {expected : String} (h : expectElement expected c = .ok (inner, rest)) :
    ∃ q, nextTag c = .element expected.toList q inner rest := by
  unfold expectElement at h
  split at h
  · rename_i tag q inner rest found
    split at h
    · rename_i named
      cases h
      obtain rfl := eq_of_beq named
      exact ⟨q, found⟩
    · cases h
  · cases h

/-- A call has a name that is not blank, and then its arguments. -/
lemma callOf_inv {call : Call} (h : callOf c = .ok call) : ∃ inner rest cs,
    expectElement "methodName" c = .ok (inner, rest) ∧
      readText "methodName".toList [] inner = .ok cs ∧
      call.method = String.ofList (Text.trimChars cs) ∧ call.method.isEmpty = false ∧
      Arguments rest call.params := by
  rw [callOf] at h
  obtain ⟨⟨inner, rest⟩, named, h⟩ := except_bind_eq_ok.1 h
  obtain ⟨cs, read, h⟩ := except_bind_eq_ok.1 h
  refine ⟨inner, rest, cs, named, read, ?_⟩
  simp only at h
  split at h
  · cases h
  rename_i nonempty
  have nonempty := eq_false_of_ne_true nonempty
  split at h
  · rename_i n q ended
    cases h
    exact ⟨rfl, nonempty, .none ended⟩
  · rename_i tag q inner rest found
    split at h
    · rename_i named
      obtain rfl := eq_of_beq named
      obtain ⟨params, read, h⟩ := except_bind_eq_ok.1 h
      obtain ⟨⟨⟩, ended, ⟨⟩⟩ := except_bind_eq_ok.1 h
      exact ⟨rfl, nonempty, .params found read ended⟩
    · cases h
  · rename_i tag q rest found
    split at h
    · rename_i named
      obtain rfl := eq_of_beq named
      obtain ⟨⟨⟩, ended, ⟨⟩⟩ := except_bind_eq_ok.1 h
      exact ⟨rfl, nonempty, .noParams found ended⟩
    · cases h
  · cases h

lemma callOf_of_arguments {call : Call} {cs : List Char}
    (named : expectElement "methodName" c = .ok (inner, rest))
    (read : readText "methodName".toList [] inner = .ok cs)
    (method : call.method = String.ofList (Text.trimChars cs))
    (nonempty : call.method.isEmpty = false) (arguments : Arguments rest call.params) :
    callOf c = .ok call := by
  obtain ⟨name, params⟩ := call
  obtain rfl : name = String.ofList (Text.trimChars cs) := method
  rw [callOf, named]
  simp only [except_ok_bind, read, nonempty]
  cases arguments with
  | none ended =>
    rw [ended]
    rfl
  | params found read ended =>
    rw [found]
    simp only [read, ended, except_ok_bind]
    rfl
  | noParams found ended =>
    rw [found]
    simp only [ended, except_ok_bind]
    rfl

end PerfGate.XmlRpc
