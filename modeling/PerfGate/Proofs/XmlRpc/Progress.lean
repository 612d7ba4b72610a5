import PerfGate.Proofs.Xml.Advance
import PerfGate.Proofs.XmlRpc.Descent
import PerfGate.Proofs.XmlRpc.Inversion

/-!
# The steps of a descent

`Ends` says that a descent ends, with which result, and where. What holds at every place that it
comes to is `Cursor.Sound`: no more pieces were asked for than bytes were read, and neither the
position nor the number of values around goes beyond its bound. Each step is compared with what is
made of the contents in front of the cursor (`Cursor.At`): one event (`ends_event`), what is skipped
up to the next tag (`ends_tag`, `ends_of_tag`), and the text up to an end tag (`ends_text`). An
event takes a byte, so behind it a unit of fuel less will do (`Cursor.Behind.passed`).
-/

namespace PerfGate.XmlRpc

open Xml (Content Event Reader)

variable {α β : Type} {total fuel active : ℕ} {c rest : Content} {outer : List Content}

/-- The error is reported without a position. -/
def CodecError.Unplaced : CodecError → Prop
  | .parse .. => False
  | _ => True

/-! ## Cursors -/

namespace Cursor

/-- What holds of every place that a descent comes to. A piece takes at least a byte, so no more
pieces were asked for than bytes were read. -/
structure Sound (total : ℕ) (s : Cursor) : Prop where
  reads_le : s.reads ≤ s.reader.offset
  total_eq : s.reader.total = total
  position_le : s.position ≤ total
  deepest_le : s.deepest ≤ maxDepth + 2

/-- What holds of the place where a descent fails. -/
structure Failed (total : ℕ) (e : CodecError) (s : Cursor) : Prop where
  reads_le : s.reads ≤ total + 1
  deepest_le : s.deepest ≤ maxDepth + 2
  position_le : ∀ position problem, e = .parse position problem → position ≤ total

/-- The cursor stands in front of these contents, with `active` values being read, and fewer than
`fuel` bytes are left. -/
structure At (total fuel active : ℕ) (following : List Content) (s : Cursor) : Prop
    extends s.Sound total where
  near : total < s.reader.offset + fuel
  active_eq : s.active = active
  shows : s.reader.Shows following

/-- The cursor stands behind the first event of the content, which took one of the bytes. -/
structure Behind (total fuel active : ℕ) (c : Content) (outer : List Content) (s : Cursor) : Prop
    extends s.At total fuel active (c.behind outer) where
  nearer : total + 1 < s.reader.offset + fuel
  position_eq : s.position = c.position

variable {s : Cursor} {e : CodecError} {following : List Content}

lemma Sound.offset_le (h : s.Sound total) : s.reader.offset ≤ total := by
  rw [← h.total_eq]
  exact Nat.le_add_right _ _

/-- What is wrong is reported at the position of what was read last, or at none. -/
lemma Sound.failed (h : s.Sound total)
    (reported : e.Unplaced ∨ ∃ problem, e = .parse s.position problem) : s.Failed total e where
  reads_le := Nat.le_succ_of_le (Nat.le_trans h.reads_le h.offset_le)
  deepest_le := h.deepest_le
  position_le := by
    rintro position problem rfl
    rcases reported with nowhere | ⟨_, ⟨⟩⟩
    · exact nowhere.elim
    · exact h.position_le

lemma At.fuel_ne_zero (h : s.At total 0 active following) : False :=
  Nat.not_lt_of_le h.offset_le h.near

lemma At.more (h : s.At total fuel active following) : s.At total (fuel + 1) active following :=
  { h with near := Nat.lt_succ_of_lt h.near }

lemma Behind.more (h : s.Behind total fuel active c outer) :
    s.Behind total (fuel + 1) active c outer :=
  { h with
    toAt := h.toAt.more
    nearer := Nat.lt_succ_of_lt h.nearer }

/-- Behind an event there is less to read. -/
lemma Behind.passed (h : s.Behind total (fuel + 1) active c outer) :
    s.At total fuel active (c.behind outer) :=
  { h with near := Nat.lt_of_succ_lt_succ h.nearer }

end Cursor

/-! ## Descents that end -/

/-- The descent ends with this result, and at such a place if it does not fail. -/
def Ends (total : ℕ) (d : Descent α) (s : Cursor) (r : Except CodecError α)
    (place : Cursor → Prop) : Prop :=
  ∃ s', d.run s = some (r, s') ∧
    match r with
    | .ok _ => place s'
    | .error e => s'.Failed total e

namespace Ends

variable {s : Cursor} {d : Descent α} {f : α → Descent β} {place place' : Cursor → Prop}

lemma pure {a : α} (h : place s) : Ends total (Pure.pure a : Descent α) s (.ok a) place :=
  ⟨s, rfl, h⟩

lemma mono {r : Except CodecError α} (h : Ends total d s r place')
    (weaker : ∀ s', place' s' → place s') : Ends total d s r place := by
  obtain ⟨s', run, ended⟩ := h
  refine ⟨s', run, ?_⟩
  cases r with
  | ok a => exact weaker s' ended
  | error e => exact ended

lemma throw {e : CodecError} (h : s.Sound total) (unplaced : e.Unplaced) :
    Ends total (MonadExcept.throw e : Descent α) s (.error e) place :=
  ⟨s, rfl, h.failed (.inl unplaced)⟩

lemma fail {problem : Problem} (h : s.Sound total) :
    Ends total (Descent.fail problem : Descent α) s (.error (.parse s.position problem)) place :=
  ⟨s, rfl, h.failed (.inr ⟨problem, rfl⟩)⟩

lemma andThen {a : α} {r : Except CodecError β} (h : Ends total d s (.ok a) place')
    (next : ∀ s', place' s' → Ends total (f a) s' r place) : Ends total (d >>= f) s r place := by
  obtain ⟨s', run, there⟩ := h
  obtain ⟨s'', run', ends⟩ := next s' there
  refine ⟨s'', ?_, ends⟩
  change d.run s >>= _ = _
  rw [run, ← run']
  rfl

/-- Where a descent is that has failed does not depend on where it would have gone. -/
lemma failing {e : CodecError} (h : Ends total d s (.error e) fun _ => False) :
    Ends total (d >>= f) s (.error e) place := by
  obtain ⟨s', run, failed⟩ := h
  refine ⟨s', ?_, failed⟩
  change d.run s >>= _ = _
  rw [run]
  rfl

lemma bind {r : Except CodecError α} {g : α → Except CodecError β} (h : Ends total d s r place')
    (next : ∀ a s', place' s' → Ends total (f a) s' (g a) place) :
    Ends total (d >>= f) s (r >>= g) place := by
  cases r with
  | ok a => exact h.andThen (next a)
  | error e => exact h.failing

lemma more {r : Except CodecError α} {following : List Content}
    (h : Ends total d s r (Cursor.At total fuel active following)) :
    Ends total d s r (Cursor.At total (fuel + 1) active following) :=
  h.mono fun _ there => there.more

/-- What can be made of a result without the document. -/
lemma lift {r : Except CodecError α} (h : place s) (sound : s.Sound total)
    (unplaced : ∀ e, r = .error e → e.Unplaced) : Ends total (liftM r : Descent α) s r place := by
  cases r with
  | ok a => exact ⟨s, rfl, h⟩
  | error e => exact ⟨s, rfl, sound.failed (.inl (unplaced e rfl))⟩

end Ends

namespace Descent

variable {s : Cursor} {place : Cursor → Prop} {e : Event} {p : ℕ} {raw : List Char}
  {expected name : String}

/-! ## Events -/

lemma ends_event (h : s.At total fuel active (c :: outer)) (is : c.first = .ok e) :
    Ends total event s (.ok e) (Cursor.Behind total fuel active c outer) := by
  have next := h.shows.next
  rw [is] at next
  obtain ⟨r', step, shows⟩ := next
  have advances := s.reader.advances_next
  rw [step] at advances
  obtain ⟨further, same, within⟩ := advances
  have run : event.run s = (take s.reader.next).run s := rfl
  rw [step] at run
  rw [h.total_eq] at same
  have nearer : total + 1 < r'.offset + fuel := by
    have := h.near
    omega
  refine ⟨_, run, ?_⟩
  exact {
    reads_le := Nat.le_trans (Nat.succ_le_succ h.reads_le) further
    total_eq := same
    position_le := same ▸ within
    deepest_le := h.deepest_le
    near := Nat.lt_of_succ_lt nearer
    active_eq := h.active_eq
    shows := shows
    nearer := nearer
    position_eq := rfl }

lemma ends_event_stopped {reason : Xml.SyntaxError}
    (h : s.At total fuel active (.stopped p reason :: outer)) :
    Ends total event s (.error (.parse p (.markup reason))) fun _ => False := by
  have step : s.reader.next = .stop p reason := h.shows.next
  have advances := s.reader.advances_next
  rw [step] at advances
  have run : event.run s = (take s.reader.next).run s := rfl
  rw [step] at run
  refine ⟨_, run, ?_⟩
  exact {
    reads_le := Nat.succ_le_succ (Nat.le_trans h.reads_le h.offset_le)
    deepest_le := h.deepest_le
    position_le := by
      rintro _ _ ⟨⟩
      exact h.total_eq ▸ advances }

/-- An event that is not expected is refused as the content is that begins with it. -/
lemma ends_refuse (h : s.Behind total fuel active c outer) (is : c.first = .ok e) :
    Ends total (refuse expected e : Descent α) s (.error (unexpected expected c)) place := by
  have same : unexpected expected c = .parse s.position (.unexpected expected (foundIn e)) := by
    rw [h.position_eq]
    cases c <;> cases is <;> rfl
  rw [same]
  exact .fail h.toSound

lemma ends_unescape {cs : List Char} (h : place s) (read : Xml.unescape raw = .ok cs) :
    Ends total (unescape raw) s (.ok cs) place := by
  rw [unescape, read]
  exact .pure h

lemma ends_unescape_error {problem : Xml.EntityError}
    (h : s.Behind total fuel active (.text raw p rest) outer)
    (read : Xml.unescape raw = .error problem) :
    Ends total (unescape raw) s (.error (.parse p (.entity problem))) fun _ => False := by
  have same : p = s.position := h.position_eq.symm
  rw [unescape, read, same]
  exact .fail h.toSound

/-! ## Tags -/

end Descent

/-- The tag that the content begins with, or why it is none. -/
def tagOf : Content → Except CodecError Event
  | .element name .. => .ok (.start name)
  | .empty name .. => .ok (.empty name)
  | .closed name _ => .ok (.close name)
  | c => .error (unexpectedTag "an element" c)

/-- The function makes of a content what it makes of it from the first tag on, and fails if there is
none. -/
def LooksForTag (f : Content → Except CodecError α) : Prop :=
  ∀ c, f c = tagOf (nextTag c) >>= fun _ => f (nextTag c)

/-- A function that skips layout, and refuses what else stands before a tag. -/
lemma LooksForTag.of {f : Content → Except CodecError α}
    (aside : ∀ kind p rest, f (.aside kind p rest) = f rest)
    (text : ∀ raw p rest, f (.text raw p rest) = if raw.all isLayout then f rest else
      .error (unexpectedTag "an element" (.text raw p rest)))
    (cdata : ∀ cs p rest, f (.cdata cs p rest) =
      .error (unexpectedTag "an element" (.cdata cs p rest)))
    (stopped : ∀ p reason, f (.stopped p reason) =
      .error (unexpectedTag "an element" (.stopped p reason))) : LooksForTag f := by
  intro c
  induction c with
  | aside kind p rest ih => exact (aside kind p rest).trans ih
  | text raw p rest ih =>
    rw [text, nextTag]
    split
    · exact ih
    · rfl
  | cdata cs p rest _ => exact cdata cs p rest
  | stopped p reason => exact stopped p reason
  | _ => rfl

lemma LooksForTag.bind {f : Content → Except CodecError α} {g : α → Except CodecError β}
    (looks : LooksForTag f) : LooksForTag fun c => f c >>= g := by
  intro c
  change f c >>= g = _
  rw [looks c, bind_assoc]

lemma looksForTag_arrayOf {room : ℕ} : LooksForTag (arrayOf room) :=
  .of (fun _ _ _ => rfl) (fun _ _ _ => rfl) (fun _ _ _ => rfl) (fun _ _ => rfl)

lemma looksForTag_itemsOf {room : ℕ} {before : List Value} : LooksForTag (itemsOf room before) :=
  .of (fun _ _ _ => rfl) (fun _ _ _ => rfl) (fun _ _ _ => rfl) (fun _ _ => rfl)

lemma looksForTag_structOf {room : ℕ} {before : List (String × Value)} :
    LooksForTag (structOf room before) :=
  .of (fun _ _ _ => rfl) (fun _ _ _ => rfl) (fun _ _ _ => rfl) (fun _ _ => rfl)

lemma looksForTag_memberOf {room : ℕ} {name? : Option (List Char)} {value? : Option Value} :
    LooksForTag (memberOf room name? value?) :=
  .of (fun _ _ _ => rfl) (fun _ _ _ => rfl) (fun _ _ _ => rfl) (fun _ _ => rfl)

lemma looksForTag_paramsOf {before : List Value} : LooksForTag (paramsOf before) :=
  .of (fun _ _ _ => rfl) (fun _ _ _ => rfl) (fun _ _ _ => rfl) (fun _ _ => rfl)

lemma looksForTag_expectClose {name : String} : LooksForTag (expectClose name) := by
  refine .of (fun _ _ _ => rfl) (fun raw p rest => ?_) (fun _ _ _ => rfl) (fun _ _ => rfl)
  rw [expectClose, nextTag]
  split_ifs <;> rfl

lemma looksForTag_onlyValue {name : String} : LooksForTag (onlyValue name) := by
  refine .of (fun _ _ _ => rfl) (fun raw p rest => ?_) (fun _ _ _ => rfl) (fun _ _ => rfl)
  rw [onlyValue, nextTag]
  split_ifs <;> rfl

lemma looksForTag_resultOf : LooksForTag resultOf := by
  refine .of (fun _ _ _ => rfl) (fun raw p rest => ?_) (fun _ _ _ => rfl) (fun _ _ => rfl)
  rw [resultOf, nextTag]
  split_ifs <;> rfl

lemma looksForTag_responseOf : LooksForTag responseOf := by
  refine .of (fun _ _ _ => rfl) (fun raw p rest => ?_) (fun _ _ _ => rfl) (fun _ _ => rfl)
  rw [responseOf, nextTag]
  split_ifs <;> rfl

lemma looksForTag_expectElement {name : String} : LooksForTag (expectElement name) := by
  refine .of (fun _ _ _ => rfl) (fun raw p rest => ?_) (fun _ _ _ => rfl) (fun _ _ => rfl)
  rw [expectElement, nextTag]
  split_ifs <;> rfl

namespace Descent

lemma ends_tag (h : s.At total fuel active (c :: outer)) :
    Ends total (tag fuel) s (tagOf (nextTag c))
      (Cursor.Behind total fuel active (nextTag c) outer) := by
  induction fuel generalizing s c with
  | zero => exact h.fuel_ne_zero.elim
  | succ fuel ih =>
    rw [tag]
    cases c with
    | stopped p reason => exact (ends_event_stopped h).failing
    | closed name p => exact (ends_event h rfl).andThen fun s' there => .pure there
    | element name p inner rest => exact (ends_event h rfl).andThen fun s' there => .pure there
    | empty name p rest => exact (ends_event h rfl).andThen fun s' there => .pure there
    | text raw p rest =>
      refine (ends_event h rfl).andThen fun s' there => ?_
      rw [nextTag]
      simp only
      split
      · exact (ih there.passed).mono fun s'' there => there.more
      · exact ends_refuse there rfl
    | cdata cs p rest => exact (ends_event h rfl).andThen fun s' there => ends_refuse there rfl
    | aside kind p rest =>
      refine (ends_event h rfl).andThen fun s' there => ?_
      exact (ih there.passed).mono fun s'' there => there.more

/-- What begins with a tag goes by the kind of the tag. -/
lemma ends_of_tag {f : Content → Except CodecError α} {k : Event → Descent α}
    (looks : LooksForTag f) (h : s.At total fuel active (c :: outer))
    (closed : ∀ name p s', s'.Behind total fuel active (.closed name p) outer →
      Ends total (k (.close name)) s' (f (.closed name p)) place)
    (element : ∀ name p inner rest s',
      s'.Behind total fuel active (.element name p inner rest) outer →
        Ends total (k (.start name)) s' (f (.element name p inner rest)) place)
    (empty : ∀ name p rest s', s'.Behind total fuel active (.empty name p rest) outer →
      Ends total (k (.empty name)) s' (f (.empty name p rest)) place) :
    Ends total (tag fuel >>= k) s (f c) place := by
  have found := ends_tag h
  rw [looks c]
  cases is : nextTag c with
  | closed name p =>
    rw [is] at found
    exact found.andThen fun s' there => closed name p s' there
  | element name p inner rest =>
    rw [is] at found
    exact found.andThen fun s' there => element name p inner rest s' there
  | empty name p rest =>
    rw [is] at found
    exact found.andThen fun s' there => empty name p rest s' there
  | _ =>
    rw [is] at found
    exact found.failing

lemma ends_expectClose (h : s.At total fuel active (c :: outer)) :
    Ends total (expectClose fuel name) s (XmlRpc.expectClose name c)
      (Cursor.At total fuel active outer) := by
  rw [expectClose]
  apply ends_of_tag looksForTag_expectClose h
  case closed =>
    intro found p s' there
    exact .pure there.toAt
  case element =>
    intro found p inner rest s' there
    exact ends_refuse there rfl
  case empty =>
    intro found p rest s' there
    exact ends_refuse there rfl

/-- The end tag is read, and with it the element is done. -/
lemma ends_closeWith {a : α} (h : s.At total fuel active (c :: outer)) :
    Ends total (expectClose fuel name >>= fun _ => pure a) s
      (XmlRpc.expectClose name c >>= fun _ => .ok a) (Cursor.At total fuel active outer) :=
  (ends_expectClose h).bind fun _ _ there => .pure there

/-! ## Text -/

lemma ends_text {name : List Char} {before : List (List Char)}
    (h : s.At total fuel active (c :: outer)) :
    Ends total (text fuel name before) s (readText name before c)
      (Cursor.At total fuel active outer) := by
  induction fuel generalizing s c before with
  | zero => exact h.fuel_ne_zero.elim
  | succ fuel ih =>
    rw [text]
    cases c with
    | stopped p reason => exact (ends_event_stopped h).failing
    | closed tag p => exact (ends_event h rfl).andThen fun s' there => .pure there.toAt
    | element tag p inner rest =>
      exact (ends_event h rfl).andThen fun s' there => ends_refuse there rfl
    | empty tag p rest => exact (ends_event h rfl).andThen fun s' there => ends_refuse there rfl
    | text raw p rest =>
      rw [readText]
      refine (ends_event h rfl).andThen fun s' there => ?_
      cases read : Xml.unescape raw with
      | ok cs =>
        exact (ends_unescape there.passed read).andThen fun s'' there => (ih there).more
      | error problem => exact (ends_unescape_error there read).failing
    | cdata cs p rest =>
      exact (ends_event h rfl).andThen fun s' there => (ih there.passed).more
    | aside kind p rest =>
      refine (ends_event h rfl).andThen fun s' there => ?_
      cases kind with
      | comment => exact (ih there.passed).more
      | _ => exact ends_refuse there rfl

end Descent

end PerfGate.XmlRpc
