import PerfGate.Load.Run
import PerfGate.Proofs.Load.Trace

/-!
# Calls that reconnect

What `callWithReconnect` does, for any target. `Attempt` lists the three ways in which one attempt
at a call can go, `Served` how a call is made up of attempts; `makes_callWithReconnect` says that
there are no other ways. `Invocation.Safe` is what follows for a single call.

For calls one after the other, each on the connection that the one before it kept, `Fit` is the
invariant: the connection at hand was opened and never lost, and nothing was called after it was
lost. It is kept by every attempt, because the numbers of new connections are new.
-/

namespace PerfGate.Load

variable {σ π ρ : Type}

/-- The connection that is kept after a call on it. -/
def keptAfter (conn : Nat) (result : Except CallError ρ) : Option Nat :=
  if lostConnection result then none else some conn

/-- One attempt at a call: the connection at hand, the steps, the result, and the connection that is
kept. -/
inductive Attempt (request : Request π) :
    Option Nat → List (Step π ρ) → Except CallError ρ → Option Nat → Prop
  | held (conn : Nat) (result : Except CallError ρ) :
      Attempt request (some conn) [.call conn request result] result (keptAfter conn result)
  | refused (e : CallError) : Attempt request none [.connect (.error e)] (.error e) none
  | opened (conn : Nat) (result : Except CallError ρ) :
      Attempt request none [.connect (.ok conn), .call conn request result] result
        (keptAfter conn result)

/-- A call as it is served: in one attempt, or, if this loses its connection, in two. -/
inductive Served (request : Request π) :
    Option Nat → List (Step π ρ) → Except CallError ρ → Option Nat → Prop
  | once {slot kept : Option Nat} {steps : List (Step π ρ)} {result : Except CallError ρ}
      (attempt : Attempt request slot steps result kept) (fine : lostConnection result = false) :
      Served request slot steps result kept
  | twice {slot kept : Option Nat} {steps steps' : List (Step π ρ)}
      {lost result : Except CallError ρ} (first : Attempt request slot steps lost none)
      (failed : lostConnection lost = true) (second : Attempt request none steps' result kept) :
      Served request slot (steps ++ steps') result kept

variable {request : Request π} {slot kept : Option Nat} {steps : List (Step π ρ)}
  {result : Except CallError ρ}

lemma makes_callOnNew (h : (callOnNew request).Makes steps (result, kept)) :
    Attempt request none steps result kept := by
  cases h with
  | @connect _ r _ _ h =>
    cases r with
    | error e =>
      cases h
      exact .refused e
    | ok conn =>
      cases h with
      | call h =>
        cases h
        exact .opened conn result

lemma makes_callOnce (h : (callOnce slot request).Makes steps (result, kept)) :
    Attempt request slot steps result (if lostConnection result then none else kept) := by
  cases slot with
  | none =>
    have attempt := makes_callOnNew h
    cases hl : lostConnection result with
    | true =>
      cases attempt with
      | refused e => exact .refused e
      | opened conn =>
        have opened : Attempt request none _ result (keptAfter conn result) := .opened conn result
        rwa [keptAfter, hl] at opened
    | false => exact attempt
  | some conn =>
    cases h with
    | call h =>
      cases h
      exact .held conn result

/-- A call that reconnects is served in one attempt or in two, and in no other way. -/
theorem makes_callWithReconnect (h : (callWithReconnect slot request).Makes steps (result, kept)) :
    Served request slot steps result kept := by
  obtain ⟨first, rest, ⟨lost, kept'⟩, rfl, hf, hr⟩ := Procedure.makes_bind h
  have attempt := makes_callOnce hf
  cases hl : lostConnection lost with
  | true =>
    simp only [hl, if_true] at attempt hr
    exact .twice attempt hl (makes_callOnNew hr)
  | false =>
    simp only [hl, Bool.false_eq_true, if_false] at attempt hr
    cases hr
    rw [List.append_nil]
    exact .once attempt hl

/-! ## What a call asks of the target -/

/-- How an attempt at a call ended: the connection that was called, if one could be opened, and the
result. -/
structure Outcome (ρ : Type) where
  conn : Option Nat
  result : Except CallError ρ

namespace Event

/-- The attempt at a call that ended here. Opening a connection is the beginning of an attempt, and
its end only if it fails. -/
def outcome? : Event π ρ → Option (Outcome ρ)
  | connected (.error e) => some ⟨none, .error e⟩
  | called conn _ result => some ⟨some conn, result⟩
  | _ => none

/-- A connection was asked for. -/
def isConnect : Event π ρ → Bool
  | connected _ => true
  | _ => false

/-- A call was made. -/
def isCall : Event π ρ → Bool
  | called .. => true
  | _ => false

/-- The connection that was called. -/
def conn? : Event π ρ → Option Nat
  | called conn _ _ => some conn
  | _ => none

/-- The connection that was lost. -/
def lost? : Event π ρ → Option Nat
  | called conn _ result => if lostConnection result then some conn else none
  | _ => none

end Event

/-- What steps ask of the target. -/
def eventsOf (steps : List (Step π ρ)) : List (Event π ρ) :=
  steps.filterMap Step.event?

/-- What there is to say of a single attempt. -/
lemma Attempt.shape (h : Attempt request slot steps result kept) :
    ∃ conn, (eventsOf steps).filterMap Event.outcome? = [⟨conn, result⟩] ∧
      (eventsOf steps).getLast?.bind Event.outcome? = some ⟨conn, result⟩ ∧
      (∀ c, kept = some c ↔ conn = some c ∧ lostConnection result = false) ∧
      (eventsOf steps).countP Event.isConnect = (if slot.isSome then 0 else 1) ∧
      (eventsOf steps).countP Event.isCall ≤ 1 := by
  cases h with
  | held conn =>
    refine ⟨some conn, rfl, rfl, fun c => ?_, rfl, Nat.le_refl 1⟩
    cases h : lostConnection result <;> simp [keptAfter, h]
  | refused e => exact ⟨none, rfl, rfl, by simp, rfl, Nat.zero_le 1⟩
  | opened conn =>
    refine ⟨some conn, rfl, rfl, fun c => ?_, rfl, Nat.le_refl 1⟩
    cases h : lostConnection result <;> simp [keptAfter, h]

/-- A call as it was made. -/
structure Invocation (π ρ : Type) where
  request : Request π
  /-- The connection at hand before. -/
  slot : Option Nat
  /-- What was asked of the target, in order. -/
  events : List (Event π ρ)
  result : Except CallError ρ
  /-- The connection at hand afterwards. -/
  kept : Option Nat

namespace Invocation

/-- The attempts of a call, in order. -/
def attempts (call : Invocation π ρ) : List (Outcome ρ) :=
  call.events.filterMap Event.outcome?

/-- The rules that a call keeps to. -/
structure Safe (call : Invocation π ρ) : Prop where
  calls_le : call.events.countP Event.isCall ≤ 2
  attempts_le : call.attempts.length ≤ 2
  /-- There is a second attempt only if the first one was lost. -/
  lost_of_retried : ∀ first ∈ call.attempts.head?, 2 ≤ call.attempts.length →
    lostConnection first.result = true
  connects_le : call.events.countP Event.isConnect ≤ if call.slot.isSome then 1 else 2
  /-- Any other failure of the first attempt is final, and leaves the connection alone. -/
  final : ∀ first ∈ call.attempts.head?, ∀ e, first.result = .error e → e.isTransport = false →
    call.attempts = [first] ∧ call.result = .error e ∧ call.kept = first.conn
  /-- The last attempt is the last thing that is asked of the target, and its result is returned. -/
  result_eq : ∃ last, call.attempts.getLast? = some last ∧ last.result = call.result ∧
    call.events.getLast?.bind Event.outcome? = some last
  /-- A connection is kept exactly if the last attempt was a call on it that did not lose it. -/
  kept_iff : ∀ conn, call.kept = some conn ↔
    ∃ last, call.attempts.getLast? = some last ∧ last.conn = some conn ∧
      lostConnection last.result = false

end Invocation

/-- A call that is served in one attempt keeps to the rules. -/
lemma Attempt.safe_once (attempt : Attempt request slot steps result kept)
    (fine : lostConnection result = false) :
    (⟨request, slot, eventsOf steps, result, kept⟩ : Invocation π ρ).Safe := by
  obtain ⟨conn, outcomes, last, keeps, connects, calls⟩ := attempt.shape
  exact {
    calls_le := Nat.le_succ_of_le calls
    attempts_le := by simp [Invocation.attempts, outcomes]
    lost_of_retried := by simp [Invocation.attempts, outcomes]
    connects_le := by
      rw [connects]
      split <;> omega
    final := by
      intro first hfirst e he _
      simp only [Invocation.attempts, outcomes, List.head?_cons, Option.mem_some_iff] at hfirst ⊢
      subst hfirst
      refine ⟨rfl, he, Option.ext fun c => ?_⟩
      simpa [fine] using keeps c
    result_eq := ⟨_, by simp [Invocation.attempts, outcomes], rfl, last⟩
    kept_iff := by simpa [Invocation.attempts, outcomes] using keeps }

/-- So does a call whose first attempt is lost and followed by another one. -/
lemma Attempt.safe_twice {first second : List (Step π ρ)} {lost : Except CallError ρ}
    {kept' : Option Nat} (attempt : Attempt request slot first lost kept')
    (failed : lostConnection lost = true) (retry : Attempt request none second result kept) :
    (⟨request, slot, eventsOf (first ++ second), result, kept⟩ : Invocation π ρ).Safe := by
  obtain ⟨conn, outcomes, -, -, connects, calls⟩ := attempt.shape
  obtain ⟨conn', outcomes', last', keeps', connects', calls'⟩ := retry.shape
  have joined : eventsOf (first ++ second) = eventsOf first ++ eventsOf second :=
    List.filterMap_append
  have both : (eventsOf (first ++ second)).filterMap Event.outcome? =
      [⟨conn, lost⟩, ⟨conn', result⟩] := by
    rw [joined, List.filterMap_append, outcomes, outcomes']
    rfl
  have nonempty : eventsOf second ≠ [] := by
    intro e
    rw [e] at last'
    cases last'
  exact {
    calls_le := by
      rw [joined, List.countP_append]
      omega
    attempts_le := by simp [Invocation.attempts, both]
    lost_of_retried := by simp [Invocation.attempts, both, failed]
    connects_le := by
      simp only [joined, List.countP_append, connects, connects']
      split <;> simp
    final := by
      -- the first attempt was lost on the way, so it did not fail in any other manner
      intro first hfirst e he refused
      simp only [Invocation.attempts, both, List.head?_cons, Option.mem_some_iff] at hfirst
      subst hfirst
      simp only at he
      rw [he, lostConnection, refused] at failed
      cases failed
    result_eq := by
      refine ⟨⟨conn', result⟩, by simp [Invocation.attempts, both], rfl, ?_⟩
      rw [joined, List.getLast?_append_of_ne_nil _ nonempty]
      exact last'
    kept_iff := by simpa [Invocation.attempts, both] using keeps' }

/-- A call that is served keeps to the rules. -/
lemma Served.safe (h : Served request slot steps result kept) :
    (⟨request, slot, eventsOf steps, result, kept⟩ : Invocation π ρ).Safe := by
  cases h with
  | once attempt fine => exact attempt.safe_once fine
  | twice attempt failed retry => exact attempt.safe_twice failed retry

/-! ## Lost connections -/

/-- The connection was lost in one of the calls. -/
def Lost (events : List (Event π ρ)) (conn : Nat) : Prop :=
  ∃ e ∈ events, e.lost? = some conn

/-- The later event is no call on a connection that the earlier one lost. -/
def NotReused (earlier later : Event π ρ) : Prop :=
  ∀ conn, earlier.lost? = some conn → later.conn? ≠ some conn

/-- So many connections were opened, the one at hand is among them and was not lost, and none was
called after it was lost. -/
structure Fit (events : List (Event π ρ)) (slot : Option Nat) (opened : Nat) : Prop where
  held : ∀ conn, slot = some conn → conn < opened ∧ ¬ Lost events conn
  lost_lt : ∀ conn, Lost events conn → conn < opened
  apart : events.Pairwise NotReused

namespace Fit

variable {events : List (Event π ρ)} {n : Nat}

lemma lost_append_singleton {e : Event π ρ} {conn : Nat} (h : Lost (events ++ [e]) conn) :
    Lost events conn ∨ e.lost? = some conn := by
  obtain ⟨e', mem, lost⟩ := h
  rw [List.mem_append, List.mem_singleton] at mem
  rcases mem with mem | rfl
  · exact .inl ⟨e', mem, lost⟩
  · exact .inr lost

/-- Before anything is called, every connection that was opened is fit to be called. -/
lemma start (h : ∀ conn, slot = some conn → conn < n) : Fit ([] : List (Event π ρ)) slot n where
  held conn hc := ⟨h conn hc, fun ⟨_, mem, _⟩ => nomatch mem⟩
  lost_lt _ := fun ⟨_, mem, _⟩ => nomatch mem
  apart := .nil

/-- An event that calls no connection changes nothing. -/
lemma quiet (fit : Fit events slot n) {e : Event π ρ} (conn : e.conn? = none)
    (lost : e.lost? = none) : Fit (events ++ [e]) slot n where
  held c hc := by
    obtain ⟨lt, unlost⟩ := fit.held c hc
    refine ⟨lt, fun h => ?_⟩
    rcases lost_append_singleton h with h | h
    · exact unlost h
    · rw [lost] at h
      cases h
  lost_lt c h := by
    rcases lost_append_singleton h with h | h
    · exact fit.lost_lt c h
    · rw [lost] at h
      cases h
  apart := by
    refine List.pairwise_append.2 ⟨fit.apart, List.pairwise_singleton _ _, fun _ _ e' he' => ?_⟩
    rw [List.mem_singleton] at he'
    intro c _
    rw [he', conn]
    exact nofun

/-- A connection that is opened now was not lost before. -/
lemma opened (fit : Fit events slot n) : Fit events (some n) (n + 1) where
  held c hc := by
    cases hc
    exact ⟨Nat.lt_succ_self n, fun h => Nat.lt_irrefl n (fit.lost_lt n h)⟩
  lost_lt c h := Nat.lt_succ_of_lt (fit.lost_lt c h)
  apart := fit.apart

/-- After a call on the connection at hand, the connection is kept unless it was lost. -/
lemma called {conn : Nat} (fit : Fit events (some conn) n) (request : Request π)
    (result : Except CallError ρ) :
    Fit (events ++ [.called conn request result]) (keptAfter conn result) n := by
  obtain ⟨lt, unlost⟩ := fit.held conn rfl
  refine ⟨fun c hc => ?_, fun c h => ?_, ?_⟩
  · unfold keptAfter at hc
    split at hc
    · cases hc
    · rename_i fine
      cases hc
      refine ⟨lt, fun h => ?_⟩
      rcases lost_append_singleton h with h | h
      · exact unlost h
      · rw [Event.lost?, if_neg fine] at h
        cases h
  · rcases lost_append_singleton h with h | h
    · exact fit.lost_lt c h
    · simp only [Event.lost?] at h
      split at h
      · cases h
        exact lt
      · cases h
  · refine List.pairwise_append.2 ⟨fit.apart, List.pairwise_singleton _ _, fun e he e' he' => ?_⟩
    rw [List.mem_singleton] at he'
    intro c lost hc
    rw [he'] at hc
    cases hc
    exact unlost ⟨e, he, lost⟩

end Fit

variable {t : Target σ π ρ} {clock : Clock} {s s' : Arena σ π ρ} {events : List (Event π ρ)}

/-- An attempt leaves a connection that is fit to be called. -/
lemma Attempt.fit (h : Attempt request slot steps result kept)
    (course : s.Course t clock steps s') (fit : Fit events slot s.opened) :
    Fit (events ++ eventsOf steps) kept s'.opened := by
  cases h with
  | held conn =>
    cases course with
    | cons move rest =>
      cases rest
      cases move with
      | call h =>
        rw [Arena.opened_of_call h]
        exact fit.called request result
  | refused e =>
    cases course with
    | cons move rest =>
      cases rest
      cases move with
      | connect h =>
        rw [Arena.opened_of_connect_error h]
        exact fit.quiet rfl rfl
  | opened conn =>
    cases course with
    | cons move rest =>
      cases rest with
      | cons move' rest =>
        cases rest
        cases move with
        | connect h =>
          cases move' with
          | call h' =>
            obtain ⟨rfl, more⟩ := Arena.opened_of_connect_ok h
            have fresh := (fit.quiet (e := .connected (.ok s.opened)) rfl rfl).opened
            have after := fresh.called request result
            rw [List.append_assoc] at after
            rw [Arena.opened_of_call h', more]
            exact after

/-- A call leaves a connection that is fit to be called. -/
lemma Served.fit (h : Served request slot steps result kept)
    (course : s.Course t clock steps s') (fit : Fit events slot s.opened) :
    Fit (events ++ eventsOf steps) kept s'.opened := by
  cases h with
  | once attempt _ => exact attempt.fit course fit
  | twice first _ second =>
    obtain ⟨between, course₁, course₂⟩ := course.split
    have after := second.fit course₂ (first.fit course₁ fit)
    rw [List.append_assoc] at after
    rw [eventsOf, List.filterMap_append]
    exact after

/-- A call does nothing but open connections and make its request. -/
lemma Served.step_cases (h : Served request slot steps result kept) : ∀ step ∈ steps,
    (∃ opened, step = .connect opened) ∨ ∃ conn result, step = .call conn request result := by
  have single {slot kept : Option Nat} {steps : List (Step π ρ)} {result : Except CallError ρ}
      (h : Attempt request slot steps result kept) : ∀ step ∈ steps,
        (∃ opened, step = .connect opened) ∨ ∃ conn result, step = .call conn request result := by
    cases h <;> simp
  cases h with
  | once attempt _ => exact single attempt
  | twice first _ second =>
    rw [List.forall_mem_append]
    exact ⟨single first, single second⟩

lemma Served.asks (h : Served request slot steps result kept) :
    ∀ step ∈ steps, step.event?.isSome := by
  intro step mem
  obtain ⟨opened, rfl⟩ | ⟨conn, result', rfl⟩ := h.step_cases step mem
  · rfl
  · rfl

/-! ## Calls one after the other -/

/-- Makes a call on the connection at hand. -/
def invoke (t : Target σ π ρ) (clock : Clock) (slot : Option Nat) (request : Request π)
    (s : Arena σ π ρ) : Invocation π ρ × Arena σ π ρ :=
  let ((result, kept), s') := (callWithReconnect slot request).run t clock s
  let events := s'.history.take (s'.history.length - s.history.length)
  (⟨request, slot, events.reverse, result, kept⟩, s')

/-- Makes calls one after the other, each on the connection that the one before it kept. -/
def invokeAll (t : Target σ π ρ) (clock : Clock) :
    Option Nat → List (Request π) → Arena σ π ρ → List (Invocation π ρ)
  | _, [], _ => []
  | slot, request :: requests, s =>
    let (call, s') := invoke t clock slot request s
    call :: invokeAll t clock call.kept requests s'

/-- A call keeps to the rules, and leaves a connection that is fit to be called. -/
lemma invoke_safe (t : Target σ π ρ) (clock : Clock) {slot : Option Nat} (request : Request π)
    {s : Arena σ π ρ} (fit : Fit events slot s.opened) :
    (invoke t clock slot request s).1.Safe ∧
      Fit (events ++ (invoke t clock slot request s).1.events)
        (invoke t clock slot request s).1.kept (invoke t clock slot request s).2.opened := by
  obtain ⟨steps, makes, course⟩ :=
    Procedure.run_trace t clock (callWithReconnect slot request) s
  have served := makes_callWithReconnect makes
  have asked : (invoke t clock slot request s).1.events = eventsOf steps := by
    have history := course.history fun step mem =>
      (Step.quiet_of_asks (served.asks step mem)).2.2.2
    simp [invoke, history, eventsOf]
  have call : (invoke t clock slot request s).1 = ⟨request, slot, eventsOf steps,
      ((callWithReconnect slot request).run t clock s).1.1,
      ((callWithReconnect slot request).run t clock s).1.2⟩ := by
    rw [← asked]
    rfl
  rw [call]
  exact ⟨served.safe, served.fit course fit⟩

lemma invokeAll_fit (t : Target σ π ρ) (clock : Clock) {slot : Option Nat}
    (requests : List (Request π)) {s : Arena σ π ρ} (fit : Fit events slot s.opened) :
    (∀ call ∈ invokeAll t clock slot requests s, call.Safe) ∧
      (events ++ (invokeAll t clock slot requests s).flatMap Invocation.events).Pairwise
        NotReused := by
  induction requests generalizing slot s events with
  | nil => simpa [invokeAll] using fit.apart
  | cons request requests ih =>
    -- the invariant after the first call is the one that the others begin with
    obtain ⟨safe, after⟩ := invoke_safe t clock request fit
    obtain ⟨rest, apart⟩ := ih after
    rw [invokeAll, List.flatMap_cons, ← List.append_assoc]
    exact ⟨List.forall_mem_cons.2 ⟨safe, rest⟩, apart⟩

/-- However the target answers, calls that are made one after the other on a connection slot all
keep to the rules, and no connection is called after it was lost. -/
theorem invokeAll_safe (t : Target σ π ρ) (clock : Clock) {slot : Option Nat}
    (requests : List (Request π)) {s : Arena σ π ρ}
    (opened : ∀ conn, slot = some conn → conn < s.opened) :
    (∀ call ∈ invokeAll t clock slot requests s, call.Safe) ∧
      ((invokeAll t clock slot requests s).flatMap Invocation.events).Pairwise NotReused :=
  invokeAll_fit t clock requests (.start opened)

/-- A target that answers on every third connection. Of the others, every other one is lost. -/
def everyThird : Target Unit Unit Unit where
  description := "answers on every third connection"
  connect _ := (.ok (), ())
  call conn _ _ :=
    (if conn % 3 = 0 then .ok ()
     else if conn % 3 = 1 then .error (.timeout "no answer")
     else .error (.fault 1 "busy"), ())
  probe := none

/-- A first call that loses the connection at hand, and a second one on the connection that the
first one opened. -/
theorem invokeAll_safe_everyThird :
    let opened : Arena Unit Unit Unit := { Arena.start () [] with opened := 3 }
    let calls := invokeAll everyThird (fun _ => 0) (some 1) [⟨"echo", ()⟩, ⟨"echo", ()⟩] opened
    (∀ call ∈ calls, call.Safe) ∧ (calls.flatMap Invocation.events).Pairwise NotReused ∧
      calls.map Invocation.kept = [some 3, some 3] := by
  intro opened calls
  have given : ∀ conn, some 1 = some conn → conn < opened.opened := by
    rintro _ ⟨⟩
    decide
  obtain ⟨safe, apart⟩ := invokeAll_safe everyThird (fun _ => 0) [⟨"echo", ()⟩, ⟨"echo", ()⟩] given
  exact ⟨safe, apart, by decide⟩

end PerfGate.Load
