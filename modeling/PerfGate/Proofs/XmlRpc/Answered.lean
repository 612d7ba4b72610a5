import PerfGate.Proofs.Load.Settled
import PerfGate.Proofs.Load.Trace
import PerfGate.Proofs.XmlRpc.Responses
import PerfGate.XmlRpc.Client

/-!
# Calls that are answered

Once an answer has come back whole, a call is settled, whatever the answer says (`Settled`): it ends
with the response that the answer holds, or with an error of the protocol, and in neither case is
the connection at fault. So the call is sent once at most and keeps its connection, and a worker
counts it once (`callWithReconnect_answered`). Against a server that always answers, a worker sends
every request once, all of them on the connection that it began with (`worker_answered`).
-/

namespace PerfGate.XmlRpc

open Load (Arena CallError Clock Counts Ready callWithReconnect lostConnection requests worker)

/-! ## What an answer amounts to -/

/-- The answer is one that a response can be read from, and this is the response. -/
structure Holds (status : Nat) (body : ByteArray) (response : Response) : Prop where
  found : status = 200
  size : body.size ≤ maxBody
  decoded : decodeResponse body = .ok response

/-- The result of a call with a response. -/
def Response.result : Response → Except CallError Value
  | success value => .ok value
  | fault code message => .error (.fault code message)

/-- The result of a call to which an answer came back whole. -/
structure Settled (call : Load.Request Value) (status : Nat) (body : ByteArray)
    (result : Except CallError Value) : Prop where
  success : ∀ value, result = .ok value ↔
    call.payload.depth ≤ maxDepth ∧ Holds status body (.success value)
  fault : ∀ code message, result = .error (.fault code message) ↔
    call.payload.depth ≤ maxDepth ∧ Holds status body (.fault code message)
  protocol : (∃ reason, result = .error (.protocol reason)) ↔
    ¬ (call.payload.depth ≤ maxDepth ∧ ∃ response, Holds status body response)
  transport : ∀ reason, result ≠ .error (.transport reason)
  timeout : ∀ reason, result ≠ .error (.timeout reason)

variable {call : Load.Request Value} {status : Nat} {body : ByteArray} {response : Response}
  {result : Except CallError Value}

lemma Holds.unique {other : Response} (h : Holds status body response)
    (h' : Holds status body other) : response = other :=
  Except.ok.inj (h.decoded.symm.trans h'.decoded)

lemma Holds.answerResult (h : Holds status body response) :
    answerResult status body = response.result := by
  obtain ⟨found, size, decoded⟩ := h
  rw [XmlRpc.answerResult, if_neg (not_not.2 found), if_neg (not_lt.2 size), decoded]
  cases response with
  | success value => rfl
  | fault code message => rfl

/-- An answer that holds no response is an error of the protocol. -/
lemma answerResult_of_none (h : ¬ ∃ response, Holds status body response) :
    ∃ reason, answerResult status body = .error (.protocol reason) := by
  unfold XmlRpc.answerResult
  split
  · exact ⟨_, rfl⟩
  rename_i found
  split
  · exact ⟨_, rfl⟩
  rename_i size
  cases decoded : decodeResponse body with
  | error e => exact ⟨_, rfl⟩
  | ok response => exact absurd ⟨response, not_not.1 found, not_lt.1 size, decoded⟩ h

/-- Calls whose response is there are settled by it. -/
lemma settled_of_holds (fits : call.payload.depth ≤ maxDepth) (h : Holds status body response) :
    Settled call status body response.result := by
  have only (other : Response) (held : call.payload.depth ≤ maxDepth ∧ Holds status body other) :
      response = other := h.unique held.2
  cases response with
  | success value =>
    constructor
    · intro other
      constructor
      · rintro ⟨⟩
        exact ⟨fits, h⟩
      · intro held
        cases only _ held
        rfl
    · exact fun code message => iff_of_false nofun fun held => nomatch only _ held
    · exact iff_of_false nofun fun none => none ⟨fits, _, h⟩
    · nofun
    · nofun
  | fault code message =>
    constructor
    · exact fun value => iff_of_false nofun fun held => nomatch only _ held
    · intro code' message'
      constructor
      · rintro ⟨⟩
        exact ⟨fits, h⟩
      · intro held
        cases only _ held
        rfl
    · exact iff_of_false nofun fun none => none ⟨fits, _, h⟩
    · nofun
    · nofun

/-- All other calls are settled by an error of the protocol. -/
lemma settled_of_none (reason : String)
    (h : ¬ (call.payload.depth ≤ maxDepth ∧ ∃ response, Holds status body response)) :
    Settled call status body (.error (.protocol reason)) where
  success _ := iff_of_false nofun fun held => h ⟨held.1, _, held.2⟩
  fault _ _ := iff_of_false nofun fun held => h ⟨held.1, _, held.2⟩
  protocol := iff_of_true ⟨reason, rfl⟩ h
  transport := nofun
  timeout := nofun

lemma settled_answerResult (fits : call.payload.depth ≤ maxDepth) :
    Settled call status body (answerResult status body) := by
  by_cases h : ∃ response, Holds status body response
  · obtain ⟨response, held⟩ := h
    rw [held.answerResult]
    exact settled_of_holds fits held
  · obtain ⟨reason, wrong⟩ := answerResult_of_none h
    rw [wrong]
    exact settled_of_none reason fun held => h held.2

/-- A settled call does not put its connection in doubt. -/
lemma Settled.fine (h : Settled call status body result) : lostConnection result = false := by
  cases result with
  | ok value => rfl
  | error e =>
    cases e with
    | transport reason => exact absurd rfl (h.transport reason)
    | timeout reason => exact absurd rfl (h.timeout reason)
    | fault code message => rfl
    | protocol reason => rfl

/-! ## Calls over a network that answers -/

variable {σ : Type} {network : Network σ} {e : Endpoint} {conn : Nat} {before after : σ}

/-- The network answers the call, and changes its state by that: a request is sent, and a whole
answer comes back; or the call has no request, since its argument is too deep. -/
inductive Network.Answers (network : Network σ) (e : Endpoint) (conn : Nat)
    (call : Load.Request Value) (status : Nat) (body : ByteArray) (before : σ) : σ → Prop
  | exchanged {request : Http.Request} {after : σ} (sent : requestOf e call = .ok request)
      (time : e.timeoutMs ≠ 0)
      (whole : (network.exchange e conn request).run before = (.answered status body, after)) :
      Answers network e conn call status body before after
  | unsent (deep : ¬ call.payload.depth ≤ maxDepth) :
      Answers network e conn call status body before before

/-- The requests that a call with an answer sends: one, or none if its argument is too deep. -/
inductive Sends (e : Endpoint) (call : Load.Request Value) : List Http.Request → Prop
  | once {request : Http.Request} (fits : call.payload.depth ≤ maxDepth)
      (made : requestOf e call = .ok request) : Sends e call [request]
  | never (deep : ¬ call.payload.depth ≤ maxDepth) : Sends e call []

/-- The network that keeps, beside its state, all requests that were exchanged. -/
def Network.recorded (network : Network σ) : Network (σ × List Http.Request) where
  dial e := fun s =>
    let (result, state) := (network.dial e).run s.1
    (result, state, s.2)
  exchange e conn request := fun s =>
    let (answer, state) := (network.exchange e conn request).run s.1
    (answer, state, s.2 ++ [request])

lemma fits_of_requestOf {request : Http.Request} (h : requestOf e call = .ok request) :
    call.payload.depth ≤ maxDepth := by
  by_contra deep
  rw [requestOf, encodeCall_eq_error _ fun fits => deep (fits _ List.mem_cons_self)] at h
  cases h

lemma requestOf_of_deep (deep : ¬ call.payload.depth ≤ maxDepth) :
    requestOf e call = .error (.protocol CodecError.tooDeep.message) := by
  rw [requestOf, encodeCall_eq_error _ fun fits => deep (fits _ List.mem_cons_self)]

/-- A call that is answered is settled, and sends its request once if it has one. -/
lemma Network.Answers.settled (h : network.Answers e conn call status body before after)
    (log : List Http.Request) :
    ∃ result sent, Settled call status body result ∧ Sends e call sent ∧
      (callThrough e (network.exchange e conn) call).run before = (result, after) ∧
      (callThrough e (network.recorded.exchange e conn) call).run (before, log) =
        (result, after, log ++ sent) := by
  cases h with
  | @exchanged request _ made time whole =>
    have fits := fits_of_requestOf made
    refine ⟨_, _, settled_answerResult fits, .once fits made, ?_, ?_⟩
    · rw [callThrough, made]
      simp only [if_neg time]
      rw [StateT.run_bind, whole]
      rfl
    · have logged : (network.recorded.exchange e conn request).run (before, log) =
          (.answered status body, after, log ++ [request]) := by
        change (let (answer, state) := (network.exchange e conn request).run before
          (answer, state, log ++ [request])) = _
        rw [whole]
      rw [callThrough, made]
      simp only [if_neg time]
      rw [StateT.run_bind, logged]
      rfl
  | unsent deep =>
    have none : requestOf e call = .error (.protocol CodecError.tooDeep.message) :=
      requestOf_of_deep deep
    have settled : Settled call status body (.error (.protocol CodecError.tooDeep.message)) :=
      settled_of_none _ fun held => deep held.1
    refine ⟨_, [], settled, .never deep, ?_, ?_⟩
    · rw [callThrough, none]
      rfl
    · rw [callThrough, none, List.append_nil]
      rfl

/-! ## Calls of a worker -/

section

variable {s : Arena σ Value Value}

/-- How many connections were opened once the next call has one. -/
def openedFor (slot : Option Nat) (opened : Nat) : Nat :=
  if slot.isSome then opened else opened + 1

/-- The connection for a call over a network is at hand, or it can be opened. -/
lemma exists_ready (network : Network σ) (e : Endpoint) (slot : Option Nat)
    (s : Arena σ Value Value) :
    ∃ s', Ready (network.target e) s slot (slot.getD s.opened) s' ∧ s'.target = s.target ∧
      s'.opened = openedFor slot s.opened ∧ s.Kept s' := by
  cases slot with
  | none => exact ⟨_, .opened rfl, rfl, rfl, ⟨rfl, rfl, rfl⟩⟩
  | some conn => exact ⟨s, .held conn, rfl, rfl, ⟨rfl, rfl, rfl⟩⟩

/-- On the connection of an arena a call is the same, and nothing but the target takes part. -/
lemma call_of_run
    (run : (callThrough e (network.exchange e conn) call).run s.target = (result, after)) :
    ∃ s', s.call (network.target e) conn call = (result, s') ∧ s'.target = after ∧
      s'.opened = s.opened ∧ s.Kept s' := by
  have called : (network.target e).call conn call s.target = (result, after) := run
  refine ⟨(s.call (network.target e) conn call).2, ?_, ?_, rfl, ⟨rfl, rfl, rfl⟩⟩
  · rw [Arena.call, called]
  · rw [Arena.call, called]

section

variable (slot : Option Nat)
  (run : (callThrough e (network.exchange e (slot.getD s.opened)) call).run s.target =
    (result, after)) (fine : lostConnection result = false) (clock : Clock)
include run fine

/-- A call that does not lose its connection is over after it, and keeps the connection. -/
lemma callWithReconnect_of_run :
    ∃ s', (callWithReconnect slot call).run (network.target e) clock s =
        ((result, some (slot.getD s.opened)), s') ∧
      s'.target = after ∧ s'.opened = openedFor slot s.opened := by
  obtain ⟨s', ready, same, opened, -⟩ := exists_ready network e slot s
  rw [← same] at run
  obtain ⟨s'', called, target, still, -⟩ := call_of_run run
  exact ⟨s'', Load.run_callWithReconnect clock ready called fine, target, still.trans opened⟩

/-- A worker counts it once. -/
lemma requests_of_run (measured : Bool) (n : Nat) (samples : List Nat) :
    ∃ samples' s', (requests measured call (n + 1) slot samples).run (network.target e) clock s =
        (requests measured call n (some (slot.getD s.opened)) samples').run
          (network.target e) clock s' ∧
      s'.target = after ∧ s'.opened = openedFor slot s.opened ∧ s'.samples = s.samples ∧
      Counts samples s.errors result samples' s'.errors := by
  obtain ⟨s', ready, same, opened, kept⟩ :=
    exists_ready network e slot { s with ticks := s.ticks + 1 }
  rw [show s.target = s'.target from same.symm] at run
  obtain ⟨s'', called, target, still, kept'⟩ := call_of_run run
  obtain ⟨samples', last, counts, unchanged, continues⟩ :=
    Load.run_requests_succ measured n samples ready called fine
  refine ⟨samples', last, continues, unchanged.target.trans target,
    unchanged.opened.trans (still.trans opened), ?_, ?_⟩
  · exact unchanged.samples.trans (kept'.samples.trans kept.samples)
  · rw [kept'.errors.trans kept.errors] at counts
    exact counts

end

end

/-- A whole answer settles a call, whatever it says. So the call is sent once at most, the
connection is kept, and a worker counts the call as one sample or as one error. -/
theorem callWithReconnect_answered (slot : Option Nat)
    {s : Arena (σ × List Http.Request) Value Value}
    (h : network.Answers e (slot.getD s.opened) call status body s.target.1 after)
    (clock : Clock) :
    ∃ result sent, Settled call status body result ∧ Sends e call sent ∧
      (callThrough e (network.exchange e (slot.getD s.opened)) call).run s.target.1 =
        (result, after) ∧
      (∃ s', (callWithReconnect slot call).run (network.recorded.target e) clock s =
          ((result, some (slot.getD s.opened)), s') ∧
        s'.target = (after, s.target.2 ++ sent) ∧ s'.opened = openedFor slot s.opened) ∧
      ∀ measured n samples, ∃ samples' s',
        (requests measured call (n + 1) slot samples).run (network.recorded.target e) clock s =
          (requests measured call n (some (slot.getD s.opened)) samples').run
            (network.recorded.target e) clock s' ∧
        s'.target = (after, s.target.2 ++ sent) ∧ s'.opened = openedFor slot s.opened ∧
        s'.samples = s.samples ∧ Counts samples s.errors result samples' s'.errors := by
  obtain ⟨result, sent, settled, sends, plain, logged⟩ := h.settled s.target.2
  exact ⟨result, sent, settled, sends, plain,
    callWithReconnect_of_run slot logged settled.fine clock,
    requests_of_run slot logged settled.fine clock⟩

/-- A network that gives the same answer to every request. -/
def answering (status : Nat) (body : ByteArray) : Network Unit where
  dial _ := pure (.ok ())
  exchange _ _ _ := pure (.answered status body)

/-- A call, and an answer to it. -/
def sampleCall : Load.Request Value := ⟨"inventory.count", .text "bolts"⟩

def sampleAnswer : ByteArray :=
  (String.ofList (Xml.document (resultMarkup (.int 7)).events)).toUTF8

/-- The first call of a worker whose connection is still to be opened. -/
theorem callWithReconnect_answered_sample :
    (answering 200 sampleAnswer).Answers .standard 0 sampleCall 200 sampleAnswer () () ∧
      ∃ s', (callWithReconnect none sampleCall).run
          ((answering 200 sampleAnswer).recorded.target .standard) id (.start ((), []) []) =
            ((.ok (.int 7), some 0), s') ∧
        s'.target.2.length = 1 ∧ s'.opened = 1 := by
  have answers :
      (answering 200 sampleAnswer).Answers .standard 0 sampleCall 200 sampleAnswer () () := by
    obtain ⟨request, made⟩ : ∃ request, requestOf .standard sampleCall = .ok request := ⟨_, rfl⟩
    exact .exchanged made (by decide) rfl
  have held : Holds 200 sampleAnswer (.success (.int 7)) :=
    ⟨rfl, by decide +kernel, decodeResponse_result trivial (by decide)⟩
  obtain ⟨result, sent, settled, sends, -, ⟨s', run, target, opened⟩, -⟩ :=
    callWithReconnect_answered none (s := .start ((), []) []) answers id
  cases (settled.success _).2 ⟨by decide, held⟩
  refine ⟨answers, s', run, ?_, opened⟩
  rw [target]
  cases sends with
  | once fits made => rfl
  | never deep => exact absurd (by decide) deep

/-- Whatever is asked on the connection, and whatever the state of the network is, the call is
answered. -/
def Network.AlwaysAnswers (network : Network σ) (e : Endpoint) (conn : Nat)
    (call : Load.Request Value) : Prop :=
  ∀ before, ∃ status body after, network.Answers e conn call status body before after

lemma requests_answered (answers : network.AlwaysAnswers e conn call) (clock : Clock) (n : Nat)
    (samples : List Nat) (s : Arena (σ × List Http.Request) Value Value) :
    ∃ s', ((requests true call n (some conn) samples).run (network.recorded.target e) clock s).2 =
        s' ∧
      s'.opened = s.opened ∧
      s'.samples.length + s'.errors = s.samples.length + samples.length + s.errors + n ∧
      s'.target.2.length =
        s.target.2.length + if call.payload.depth ≤ maxDepth then n else 0 := by
  -- each call leaves the connection at hand, so the next one begins as this one did
  induction n generalizing samples s with
  | zero =>
    refine ⟨_, rfl, rfl, ?_, ?_⟩
    · change (s.samples ++ samples.reverse).length + s.errors = _
      rw [List.length_append, List.length_reverse, Nat.add_zero]
    · rw [ite_self]
      rfl
  | succ n ih =>
    obtain ⟨status, body, after, answered⟩ := answers s.target.1
    obtain ⟨result, sent, settled, sends, -, logged⟩ := answered.settled s.target.2
    obtain ⟨samples', next, continues, target, opened, handed, counts⟩ :=
      requests_of_run (some conn) logged settled.fine clock true n samples
    obtain ⟨last, done, opened', counted, length⟩ := ih samples' next
    rw [continues]
    refine ⟨last, done, opened'.trans opened, ?_, ?_⟩
    · have once := counts.total
      rw [counted, handed]
      omega
    · rw [length, target, List.length_append]
      cases sends with
      | once fits made =>
        rw [if_pos fits, if_pos fits, List.length_singleton]
        omega
      | never deep => rw [if_neg deep, if_neg deep, List.length_nil]

/-- Against a server that answers every call, a worker opens one connection and sends each of its
requests once, and its samples and errors are as many as its requests. -/
theorem worker_answered {s : Arena (σ × List Http.Request) Value Value}
    (answers : network.AlwaysAnswers e s.opened call) (clock : Clock) (count : Nat) :
    ∃ s', ((worker true call count).run (network.recorded.target e) clock s).2 = s' ∧
      s'.opened = s.opened + 1 ∧
      s'.samples.length + s'.errors = s.samples.length + s.errors + count ∧
      s'.target.2.length =
        s.target.2.length + if call.payload.depth ≤ maxDepth then count else 0 := by
  obtain ⟨last, done, opened, counted, length⟩ :=
    requests_answered answers clock count [] (s.connect (network.recorded.target e)).2
  exact ⟨last, done, opened, counted, length⟩

end PerfGate.XmlRpc
