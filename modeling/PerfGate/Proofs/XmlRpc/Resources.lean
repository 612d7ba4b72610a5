import PerfGate.Proofs.Text.Length
import PerfGate.Proofs.XmlRpc.Progress

/-!
# What decoding takes

The descents that read values, calls and responses end, with the results that are read off the tree
of the document. A loop comes back only behind an event, where fewer bytes are left, so it never
lacks fuel if there was more of it than bytes. Values, types and arrays are gone into without an
event in between; the induction is on the fuel and, for the same fuel, on how many of these steps
may still come before the next event. `decoding_bounded` is the outcome for any bytes.
-/

namespace PerfGate.XmlRpc

open Cursor (At)
open Xml (Content Reader)

variable {α : Type} {total fuel active depth room p : ℕ} {c inner rest : Content}
  {outer : List Content} {name : List Char} {s : Cursor}

/-! ## Values -/

/-- The value in the content of an element, which stands inside of `depth` arrays and structs. -/
def valueAt (depth : ℕ) (c : Content) : Except CodecError Value :=
  if maxDepth < depth then .error .tooDeep else valueOf (maxDepth - depth) [] c

/-- Inside of an array or a struct there is room for one level less. -/
lemma valueAt_succ {f : Value → Except CodecError α} (within : depth ≤ maxDepth) :
    (do
      if maxDepth - depth = 0 then throw .tooDeep
      let v ← valueOf (maxDepth - depth - 1) [] c
      f v) = valueAt (depth + 1) c >>= f := by
  rw [valueAt, Nat.sub_sub]
  by_cases deep : maxDepth < depth + 1
  · rw [if_pos deep, if_pos (by omega)]
    rfl
  · rw [if_neg deep, if_neg (by omega)]

lemma itemsOf_value {before : List Value} (within : depth ≤ maxDepth)
    (named : isNamed name "value") :
    itemsOf (maxDepth - depth) before (.element name p inner rest) =
      valueAt (depth + 1) inner >>= fun v => itemsOf (maxDepth - depth) (v :: before) rest := by
  rw [itemsOf, if_pos named]
  exact valueAt_succ within

lemma memberOf_value {name? : Option (List Char)} {value? : Option Value}
    (within : depth ≤ maxDepth) (other : ¬ isNamed name "name") (named : isNamed name "value") :
    memberOf (maxDepth - depth) name? value? (.element name p inner rest) =
      valueAt (depth + 1) inner >>= fun v => memberOf (maxDepth - depth) name? (some v) rest := by
  rw [memberOf, if_neg other, if_pos named]
  exact valueAt_succ within

/-- The value in the content of an element whose name should be that of a type. -/
def typedIn (room : ℕ) (name : List Char) (inner : Content) : Except CodecError Value :=
  match ValueType.ofName? name with
  | some t => typedOf room name inner t
  | none => .error (.malformed (.unknownType name))

lemma valueOf_element {before : List (List Char)} :
    valueOf room before (.element name p inner rest) =
      typedIn room name inner >>= fun v => expectClose "value" rest >>= fun _ => .ok v := by
  rw [valueOf, typedIn]
  cases ValueType.ofName? name with
  | none => rfl
  | some t =>
    cases t with
    | nil => exact (bind_assoc _ _ _).symm
    | _ => rfl

lemma unplaced_of_ofChars {t : Scalar} {cs : List Char} {e : CodecError}
    (h : t.ofChars cs = .error e) : e.Unplaced := by
  cases t with
  | int | boolean | double =>
    simp only [Scalar.ofChars] at h
    split at h <;> cases h
    trivial
  | text | base64 | dateTime => cases h

lemma unplaced_of_member {name? : Option (List Char)} {value? : Option Value} {e : CodecError}
    (h : XmlRpc.member name? value? = .error e) : e.Unplaced := by
  unfold XmlRpc.member at h
  split at h
  · cases h
  · cases h
    trivial
  · cases h
    trivial

namespace Descent

lemma ends_enter (h : s.At total fuel active (c :: outer)) (deep : active ≤ maxDepth + 1) :
    Ends total enter s (.ok ()) (At total fuel (active + 1) (c :: outer)) := by
  refine ⟨_, rfl, ?_⟩
  exact { h with
    deepest_le := by
      have := h.deepest_le
      have := h.active_eq
      simp only
      omega
    active_eq := congrArg (· + 1) h.active_eq }

lemma ends_leave (h : s.At total fuel (active + 1) outer) :
    Ends total leave s (.ok ()) (At total fuel active outer) := by
  refine ⟨_, rfl, ?_⟩
  exact { h with active_eq := congrArg (· - 1) h.active_eq }

mutual

/-- There are `depth` values around the one that is read, so the cursor is inside of one more while
its content is read. -/
theorem ends_value {fuel depth : ℕ} {c : Content} {outer : List Content} {s : Cursor}
    (h : s.At total fuel depth (c :: outer)) (deep : depth ≤ maxDepth + 1) :
    Ends total (value fuel depth) s (valueAt depth c) (At total fuel depth outer) := by
  rw [value, valueAt]
  refine (ends_enter h deep).andThen fun s' there => ?_
  by_cases within : maxDepth < depth
  · rw [if_pos within, if_pos within]
    exact .failing (.throw there.toSound trivial)
  · rw [if_neg within, if_neg within]
    rw [← bind_pure (valueOf _ _ _)]
    refine (ends_content there (Nat.le_of_not_lt within)).bind fun v s'' there => ?_
    exact (ends_leave there).andThen fun t there => .pure there
termination_by (fuel, 1)

theorem ends_content {fuel depth : ℕ} {c : Content} {outer : List Content} {s : Cursor}
    {before : List (List Char)} (h : s.At total fuel (depth + 1) (c :: outer))
    (within : depth ≤ maxDepth) :
    Ends total (content fuel depth before) s (valueOf (maxDepth - depth) before c)
      (At total fuel (depth + 1) outer) := by
  cases fuel with
  | zero => exact h.fuel_ne_zero.elim
  | succ fuel =>
    rw [content]
    cases c with
    | stopped p reason => exact (ends_event_stopped h).failing
    | closed tag p => exact (ends_event h rfl).andThen fun s' there => .pure there.toAt
    | text raw p rest =>
      rw [valueOf]
      refine (ends_event h rfl).andThen fun s' there => ?_
      cases read : Xml.unescape raw with
      | ok cs =>
        refine (ends_unescape there.passed read).andThen fun s'' there => ?_
        exact (ends_content there within).more
      | error problem => exact (ends_unescape_error there read).failing
    | cdata cs p rest =>
      rw [valueOf]
      exact (ends_event h rfl).andThen fun s' there => (ends_content there.passed within).more
    | aside kind p rest =>
      refine (ends_event h rfl).andThen fun s' there => ?_
      cases kind with
      | comment =>
        rw [valueOf]
        exact (ends_content there.passed within).more
      | _ => exact ends_refuse there rfl
    | element name p inner rest =>
      rw [valueOf_element]
      -- the start tag was the event, so for the type there is less to read
      refine (ends_event h rfl).andThen fun s' there => ?_
      refine (ends_typed there.passed within).bind fun v s'' there => ?_
      exact (ends_closeWith there).more
    | empty name p rest =>
      rw [valueOf]
      refine (ends_event h rfl).andThen fun s' there => ?_
      simp only
      cases (ValueType.ofName? name).bind (·.emptyValue?) with
      | some v => exact (ends_closeWith there.passed).more
      | none => exact ends_refuse there rfl
termination_by (fuel, 0)

theorem ends_typed {fuel depth : ℕ} {c : Content} {outer : List Content} {s : Cursor}
    {name : List Char} (h : s.At total fuel (depth + 1) (c :: outer)) (within : depth ≤ maxDepth) :
    Ends total (typed fuel depth name) s (typedIn (maxDepth - depth) name c)
      (At total fuel (depth + 1) outer) := by
  rw [typed, typedIn]
  cases ValueType.ofName? name with
  | none => exact .throw h.toSound trivial
  | some t =>
    cases t with
    | scalar t =>
      exact (ends_text h).bind fun cs s' there =>
        .lift there there.toSound fun e => unplaced_of_ofChars
    | nil => exact ends_closeWith h
    | array => exact ends_array h within
    | struct => exact ends_struct h within
termination_by (fuel, 2)

theorem ends_array {fuel depth : ℕ} {c : Content} {outer : List Content} {s : Cursor}
    (h : s.At total fuel (depth + 1) (c :: outer)) (within : depth ≤ maxDepth) :
    Ends total (array fuel depth) s (arrayOf (maxDepth - depth) c)
      (At total fuel (depth + 1) outer) := by
  rw [array]
  apply ends_of_tag looksForTag_arrayOf h
  case closed =>
    intro name p s' there
    exact ends_refuse there rfl
  case element =>
    intro name p inner rest s' there
    rw [arrayOf]
    simp only
    split
    · refine (ends_items there.toAt within).bind fun vs s'' there => ?_
      exact ends_closeWith there
    · exact ends_refuse there rfl
  case empty =>
    intro name p rest s' there
    rw [arrayOf]
    simp only
    split
    · exact ends_closeWith there.toAt
    · exact ends_refuse there rfl
termination_by (fuel, 1)

theorem ends_items {fuel depth : ℕ} {c : Content} {outer : List Content} {s : Cursor}
    {before : List Value} (h : s.At total fuel (depth + 1) (c :: outer))
    (within : depth ≤ maxDepth) :
    Ends total (items fuel depth before) s (itemsOf (maxDepth - depth) before c)
      (At total fuel (depth + 1) outer) := by
  cases fuel with
  | zero => exact h.fuel_ne_zero.elim
  | succ fuel =>
    rw [items]
    apply ends_of_tag looksForTag_itemsOf h
    case closed =>
      intro name p s' there
      exact .pure there.toAt
    case element =>
      intro name p inner rest s' there
      by_cases named : isNamed name "value"
      -- the item is one level deeper, which may be one too many
      · rw [itemsOf_value within named]
        simp only [if_pos named]
        refine (ends_value there.passed (Nat.succ_le_succ within)).bind fun v s'' there => ?_
        exact (ends_items there within).more
      · rw [itemsOf]
        simp only [if_neg named]
        exact ends_refuse there rfl
    case empty =>
      intro name p rest s' there
      rw [itemsOf]
      simp only
      split
      · exact (ends_items there.passed within).more
      · exact ends_refuse there rfl
termination_by (fuel, 0)

theorem ends_struct {fuel depth : ℕ} {c : Content} {outer : List Content} {s : Cursor}
    {before : List (String × Value)} (h : s.At total fuel (depth + 1) (c :: outer))
    (within : depth ≤ maxDepth) :
    Ends total (struct fuel depth before) s (structOf (maxDepth - depth) before c)
      (At total fuel (depth + 1) outer) := by
  cases fuel with
  | zero => exact h.fuel_ne_zero.elim
  | succ fuel =>
    rw [struct]
    apply ends_of_tag looksForTag_structOf h
    case closed =>
      intro name p s' there
      exact .pure there.toAt
    case element =>
      intro name p inner rest s' there
      rw [structOf]
      simp only
      split
      · refine (ends_member there.passed within).bind fun m s'' there => ?_
        exact (ends_struct there within).more
      · exact ends_refuse there rfl
    case empty =>
      intro name p rest s' there
      exact ends_refuse there rfl
termination_by (fuel, 0)

theorem ends_member {fuel depth : ℕ} {c : Content} {outer : List Content} {s : Cursor}
    {name? : Option (List Char)} {value? : Option Value}
    (h : s.At total fuel (depth + 1) (c :: outer)) (within : depth ≤ maxDepth) :
    Ends total (member fuel depth name? value?) s (memberOf (maxDepth - depth) name? value? c)
      (At total fuel (depth + 1) outer) := by
  cases fuel with
  | zero => exact h.fuel_ne_zero.elim
  | succ fuel =>
    rw [member]
    apply ends_of_tag looksForTag_memberOf h
    case closed =>
      intro name p s' there
      exact .lift there.toAt there.toSound fun e => unplaced_of_member
    case element =>
      intro name p inner rest s' there
      by_cases label : isNamed name "name"
      · rw [memberOf, if_pos label]
        simp only [if_pos label]
        refine (ends_text there.passed).bind fun cs s'' there => ?_
        exact (ends_member there within).more
      by_cases named : isNamed name "value"
      · rw [memberOf_value within label named]
        simp only [if_neg label, if_pos named]
        refine (ends_value there.passed (Nat.succ_le_succ within)).bind fun v s'' there => ?_
        exact (ends_member there within).more
      · rw [memberOf]
        simp only [if_neg label, if_neg named]
        exact ends_refuse there rfl
    case empty =>
      intro name p rest s' there
      rw [memberOf]
      simp only
      split
      · exact (ends_member there.passed within).more
      split
      · exact (ends_member there.passed within).more
      · exact ends_refuse there rfl
termination_by (fuel, 0)

end

end Descent

/-! ## Calls and responses -/

/-- The call of a method, with what follows its name. -/
def argumentsOf (method : String) (c : Content) : Except CodecError Call :=
  match nextTag c with
  | .closed .. => .ok ⟨method, []⟩
  | .element tag position inner rest =>
    if isNamed tag "params" then do
      let params ← paramsOf [] inner
      expectClose "methodCall" rest
      .ok ⟨method, params⟩
    else .error (unexpectedTag "<params>" (.element tag position inner rest))
  | .empty tag position rest =>
    if isNamed tag "params" then do
      expectClose "methodCall" rest
      .ok ⟨method, []⟩
    else .error (unexpectedTag "<params>" (.empty tag position rest))
  | other => .error (unexpectedTag "<params>" other)

lemma callOf_eq : callOf c = expectElement "methodName" c >>= fun (inner, rest) =>
    readText "methodName".toList [] inner >>= fun cs =>
      let method := String.ofList (Text.trimChars cs)
      if method.isEmpty then .error (.malformed .emptyMethodName) else argumentsOf method rest :=
  rfl

lemma looksForTag_argumentsOf {method : String} : LooksForTag (argumentsOf method) := by
  refine .of (fun _ _ _ => rfl) (fun raw p rest => ?_) (fun _ _ _ => rfl) (fun _ _ => rfl)
  rw [argumentsOf, nextTag]
  split_ifs <;> rfl

lemma unplaced_of_faultOf {v : Value} {e : CodecError} (h : faultOf v = .error e) :
    e.Unplaced := by
  unfold faultOf at h
  split at h
  · cases h
  · cases h
    trivial

namespace Descent

lemma ends_onlyValue {name : String} (h : s.At total fuel 0 (c :: outer)) :
    Ends total (onlyValue fuel name) s (XmlRpc.onlyValue name c) (At total fuel 0 outer) := by
  rw [onlyValue]
  apply ends_of_tag looksForTag_onlyValue h
  case closed =>
    intro found p s' there
    exact ends_refuse there rfl
  case element =>
    intro found p inner rest s' there
    simp only [XmlRpc.onlyValue, nextTag]
    split
    · refine (ends_value there.toAt (Nat.zero_le _)).bind fun v s'' there => ?_
      exact ends_closeWith there
    · exact ends_refuse there rfl
  case empty =>
    intro found p rest s' there
    simp only [XmlRpc.onlyValue, nextTag]
    split
    · exact ends_closeWith there.toAt
    · exact ends_refuse there rfl

lemma ends_result (h : s.At total fuel 0 (c :: outer)) :
    Ends total (result fuel) s (resultOf c) (At total fuel 0 outer) := by
  rw [result]
  apply ends_of_tag looksForTag_resultOf h
  case closed =>
    intro name p s' there
    exact .pure there.toAt
  case element =>
    intro name p inner rest s' there
    simp only [resultOf, nextTag]
    split
    · refine (ends_onlyValue there.toAt).bind fun v s'' there => ?_
      exact ends_closeWith there
    · exact ends_refuse there rfl
  case empty =>
    intro name p rest s' there
    exact ends_refuse there rfl

lemma ends_response (h : s.At total fuel 0 (c :: outer)) :
    Ends total (response fuel) s (responseOf c) (At total fuel 0 outer) := by
  rw [response]
  apply ends_of_tag looksForTag_responseOf h
  case closed =>
    intro name p s' there
    exact .failing (ends_refuse there rfl)
  case element =>
    intro name p inner rest s' there
    simp only [responseOf, nextTag]
    split
    · simp only [pure_bind]
      refine (ends_result there.toAt).bind fun v s'' there => ?_
      exact ends_closeWith there
    split
    · simp only [pure_bind]
      refine (ends_onlyValue there.toAt).bind fun v s'' there => ?_
      have described : Ends total (liftM (faultOf v) : Descent Response) s'' (faultOf v) _ :=
        .lift there there.toSound fun e => unplaced_of_faultOf
      refine described.bind fun r t there => ?_
      exact ends_closeWith there
    · exact .failing (ends_refuse there rfl)
  case empty =>
    intro name p rest s' there
    simp only [responseOf, nextTag]
    split
    · simp only [pure_bind]
      exact ends_closeWith there.toAt
    · exact .failing (ends_refuse there rfl)

lemma ends_params {before : List Value} (h : s.At total fuel 0 (c :: outer)) :
    Ends total (params fuel before) s (paramsOf before c) (At total fuel 0 outer) := by
  induction fuel generalizing s c outer before with
  | zero => exact h.fuel_ne_zero.elim
  | succ fuel ih =>
    rw [params]
    apply ends_of_tag looksForTag_paramsOf h
    case closed =>
      intro name p s' there
      exact .pure there.toAt
    case element =>
      intro name p inner rest s' there
      rw [paramsOf]
      simp only
      split
      · exact (ends_onlyValue there.passed).bind fun v s'' there => (ih there).more
      · exact ends_refuse there rfl
    case empty =>
      intro name p rest s' there
      exact ends_refuse there rfl

/-- What comes behind a start tag is read inside of the element, with what follows it around. -/
lemma ends_expectOpen (expected : String) {place : Cursor → Prop} {k : Descent α}
    {g : Content × Content → Except CodecError α} (h : s.At total fuel active (c :: outer))
    (inside : ∀ inner rest s', s'.At total fuel active (inner :: rest :: outer) →
      Ends total k s' (g (inner, rest)) place) :
    Ends total (expectOpen fuel expected >>= fun _ => k) s (expectElement expected c >>= g)
      place := by
  rw [expectOpen, bind_assoc]
  apply ends_of_tag looksForTag_expectElement.bind h
  case closed =>
    intro name p s' there
    exact .failing (ends_refuse there rfl)
  case element =>
    intro name p inner rest s' there
    simp only [expectElement, nextTag]
    split
    · exact inside inner rest s' there.toAt
    · exact .failing (ends_refuse there rfl)
  case empty =>
    intro name p rest s' there
    exact .failing (ends_refuse there rfl)

lemma ends_call (h : s.At total fuel 0 (c :: outer)) :
    Ends total (call fuel) s (callOf c) (At total fuel 0 outer) := by
  rw [call, callOf_eq]
  refine ends_expectOpen _ h fun inner rest s' there => ?_
  refine (ends_text there).bind fun cs s'' there => ?_
  simp only
  split
  · exact .failing (.throw there.toSound trivial)
  apply ends_of_tag looksForTag_argumentsOf there
  case closed =>
    intro name p t there
    exact .pure there.toAt
  case element =>
    intro name p inner rest t there
    simp only [argumentsOf, nextTag]
    split
    · refine (ends_params there.toAt).bind fun vs t' there => ?_
      exact ends_closeWith there
    · exact ends_refuse there rfl
  case empty =>
    intro name p rest t there
    simp only [argumentsOf, nextTag]
    split
    · exact ends_closeWith there.toAt
    · exact ends_refuse there rfl

end Descent

/-! ## Documents -/

/-- Decoding has ended with this result, within the bounds for so many bytes. -/
def Bounded (bytes : ℕ) (r : Except CodecError α) (ended : Option (Except CodecError α × Tally)) :
    Prop :=
  ∃ t : Tally, ended = some (r, t) ∧ t.reads ≤ bytes + 1 ∧ t.deepest ≤ maxDepth + 2 ∧
    ∀ position problem, r = .error (.parse position problem) → position ≤ bytes

lemma Ends.bounded {d : Descent α} {r : Except CodecError α} {bytes : ℕ}
    (h : Ends total d s r (Cursor.Sound total)) (within : total ≤ bytes) :
    Bounded bytes r ((d.run s).map fun (r, s') => (r, s'.toTally)) := by
  obtain ⟨s', run, ended⟩ := h
  refine ⟨s'.toTally, by rw [run]; rfl, ?_⟩
  cases r with
  | ok a =>
    have read := Nat.le_trans ended.reads_le ended.offset_le
    exact ⟨Nat.le_succ_of_le (Nat.le_trans read within), ended.deepest_le, nofun⟩
  | error e =>
    refine ⟨Nat.le_trans ended.reads_le (Nat.succ_le_succ within), ended.deepest_le, ?_⟩
    rintro position problem ⟨⟩
    exact Nat.le_trans (ended.position_le position problem rfl) within

lemma Cursor.at_start (document : List Char) {fuel : ℕ}
    (enough : (Reader.start document).total < fuel) : ∃ outer,
      At (Reader.start document).total fuel 0 (.ofChars document :: outer)
        { reader := .start document } := by
  obtain ⟨outer, shows⟩ := Reader.shows_start document
  refine ⟨outer, ?_⟩
  exact {
    reads_le := Nat.zero_le _
    total_eq := rfl
    position_le := Nat.zero_le _
    deepest_le := Nat.zero_le _
    near := Nat.lt_of_lt_of_le enough (Nat.le_add_left _ _)
    active_eq := rfl
    shows := shows }

/-- The mark in front of a document is not read. -/
lemma total_start_le (document : List Char) :
    (Reader.start document).total ≤ Text.utf8Length document := by
  rw [Reader.total, Reader.start, Nat.zero_add]
  cases document with
  | nil => exact Nat.le_refl _
  | cons c cs =>
    rw [Xml.withoutMark, Text.utf8Length_cons]
    split
    · exact Nat.le_add_left _ _
    · rw [Text.utf8Length_cons]

/-- If what is in an element is read, so are documents that have it as their root, within bounds. -/
lemma bounded_ofBytes {root : String} {d : ℕ → Descent α} {f : Content → Except CodecError α}
    {fuel : ℕ} {bytes : ByteArray} (enough : bytes.size < fuel)
    (inside : ∀ {total c outer s}, At total fuel 0 (c :: outer) s →
      Ends total (d fuel) s (f c) (At total fuel 0 outer)) :
    Bounded bytes.size (do let (inner, _) ← expectElement root (← contentOf bytes); f inner)
      (Descent.ofBytes root d fuel bytes) := by
  unfold Descent.ofBytes contentOf
  cases decoded : Text.ofUtf8 bytes with
  | error length =>
    refine ⟨{}, rfl, Nat.zero_le _, Nat.zero_le _, ?_⟩
    rintro _ _ ⟨⟩
    exact Text.le_size_of_ofUtf8 decoded
  | ok text =>
    have within := total_start_le text.toList
    rw [← Text.size_of_ofUtf8 decoded] at within
    obtain ⟨outer, start⟩ := Cursor.at_start text.toList (Nat.lt_of_le_of_lt within enough)
    have ends := Descent.ends_expectOpen root (g := fun (inner, _) => f inner) start
      fun inner rest s' there => (inside there).mono fun s'' there => there.toSound
    exact ends.bounded within

/-- Whatever the bytes are, and however long the loops may go on, decoding ends. Every piece that the
reader comes upon takes at least one byte, so no more pieces are asked for than there are bytes, and
then once more for the end of the document; the values that are read at once are no more than two
above the greatest depth; and the position of an error lies in the document or at its end. -/
theorem decoding_bounded (bytes : ByteArray) (more : ℕ) :
    (∀ r : Reader, r.Advances 1 r.next) ∧
      Bounded bytes.size (decodeCall bytes)
        (Descent.ofBytes "methodCall" Descent.call (bytes.size + 1 + more) bytes) ∧
      Bounded bytes.size (decodeResponse bytes)
        (Descent.ofBytes "methodResponse" Descent.response (bytes.size + 1 + more) bytes) := by
  have enough : bytes.size < bytes.size + 1 + more := by omega
  refine ⟨Reader.advances_next, ?call, ?response⟩
  case call => exact bounded_ofBytes enough fun there => Descent.ends_call there
  case response => exact bounded_ofBytes enough fun there => Descent.ends_response there

/-- The end of the document is a request of its own. -/
example : (Descent.ofBytes "methodCall" Descent.call 2 " ".toUTF8).map (·.2.reads) = some 2 := by
  decide

end PerfGate.XmlRpc
