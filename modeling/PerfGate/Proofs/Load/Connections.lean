import PerfGate.Proofs.Load.Accounting

/-!
# One connection for each worker

A target is `Steady` if it opens every connection and loses none. Each worker of a run then opens
one connection and makes all its calls on it (`Worked.alone`), whichever of them fail for other
reasons. So the connections and the calls of a phase can be counted (`OneEach`), and hence those of
a whole run (`runBenchmark_connections`).
-/

namespace PerfGate.Load

variable {σ π ρ : Type}

/-! ## Steady targets -/

namespace Target

/-- The target can come from the one state to the other while it is asked for connections and for
answers to the request. -/
inductive Reaches (t : Target σ π ρ) (request : Request π) (a : σ) : σ → Prop
  | refl : Reaches t request a a
  | connect {b : σ} (h : Reaches t request a b) : Reaches t request a (t.connect b).2
  | call {b : σ} (conn : Nat) (h : Reaches t request a b) :
      Reaches t request a (t.call conn request b).2

/-- Whatever the target is asked from this state on, it opens every connection, and no call fails
because its connection was lost. A call may fail for any other reason. -/
structure Steady (t : Target σ π ρ) (request : Request π) (a : σ) : Prop where
  connects : ∀ b, t.Reaches request a b → (t.connect b).1 = .ok ()
  answers : ∀ b conn, t.Reaches request a b → lostConnection (t.call conn request b).1 = false

variable {t : Target σ π ρ} {request : Request π} {a b c : σ}

lemma Reaches.trans (first : t.Reaches request a b) (rest : t.Reaches request b c) :
    t.Reaches request a c := by
  induction rest with
  | refl => exact first
  | connect _ ih => exact .connect ih
  | call conn _ ih => exact .call conn ih

lemma Steady.of_reaches (steady : t.Steady request a) (h : t.Reaches request a b) :
    t.Steady request b where
  connects c rest := steady.connects c (h.trans rest)
  answers c conn rest := steady.answers c conn (h.trans rest)

end Target

namespace Step

/-- A step that a worker may make for this request. -/
def IsOf (request : Request π) : Step π ρ → Prop
  | probe _ => False
  | call _ asked _ => asked = request
  | _ => True

/-- The step opened a connection, or lost none. -/
def IsFine : Step π ρ → Prop
  | connect opened => ∃ conn, opened = .ok conn
  | call _ _ result => lostConnection result = false
  | _ => True

variable {request : Request π} {step : Step π ρ}

lemma IsOf.not_probe (h : step.IsOf request) : step.isProbe = false := by
  cases step with
  | probe => exact h.elim
  | _ => rfl

end Step

variable {t : Target σ π ρ} {clock : Clock} {request : Request π} {measured : Bool}
  {s s' : Arena σ π ρ} {step : Step π ρ} {steps : List (Step π ρ)}

namespace Arena

lemma connect_of_ok (h : (t.connect s.target).1 = .ok ()) :
    s.connect t = (.ok s.opened, { s with
      target := (t.connect s.target).2, opened := s.opened + 1,
      history := .connected (.ok s.opened) :: s.history }) := by
  unfold connect
  split
  rename_i answer target asked
  rw [asked] at h ⊢
  cases h
  rfl

/-- A steady target stays steady, and every step that asks it is fine. -/
lemma Moves.fine (move : s.Moves t clock step s') (own : step.IsOf request)
    (steady : t.Steady request s.target) : step.IsFine ∧ t.Steady request s'.target := by
  cases move with
  | connect h =>
    have opens := connect_of_ok (steady.connects _ .refl)
    cases h.symm.trans opens
    exact ⟨⟨_, rfl⟩, steady.of_reaches (.connect .refl)⟩
  | probe => exact own.elim
  | @call _ conn asked _ h =>
    obtain rfl : asked = request := own
    cases h
    exact ⟨steady.answers _ conn .refl, steady.of_reaches (.call conn .refl)⟩
  | _ => exact ⟨trivial, steady⟩

lemma Course.fine (course : s.Course t clock steps s') (own : ∀ step ∈ steps, step.IsOf request)
    (steady : t.Steady request s.target) :
    (∀ step ∈ steps, step.IsFine) ∧ t.Steady request s'.target := by
  induction course with
  | nil s => exact ⟨fun _ mem => (List.not_mem_nil mem).elim, steady⟩
  | cons move _ ih =>
    obtain ⟨first, rest⟩ := List.forall_mem_cons.1 own
    obtain ⟨fine, after⟩ := move.fine first steady
    obtain ⟨all, stays⟩ := ih rest after
    exact ⟨List.forall_mem_cons.2 ⟨fine, all⟩, stays⟩

end Arena

/-! ## One worker -/

/-- The steps of a call are those of its request. -/
lemma Served.isOf {slot kept : Option Nat} {result : Except CallError ρ}
    (h : Served request slot steps result kept) : ∀ step ∈ steps, step.IsOf request := by
  intro step mem
  obtain ⟨opened, rfl⟩ | ⟨conn, result', rfl⟩ := h.step_cases step mem
  · trivial
  · rfl

/-- An attempt on the connection at hand, if it does not lose it, is a call and keeps it. -/
lemma Attempt.alone {conn : Nat} {kept : Option Nat} {result : Except CallError ρ}
    (h : Attempt request (some conn) steps result kept) (fine : ∀ step ∈ steps, step.IsFine) :
    steps = [.call conn request result] ∧ lostConnection result = false ∧ kept = some conn := by
  cases h with
  | held =>
    have unlost : lostConnection result = false := (List.forall_mem_cons.1 fine).1
    refine ⟨rfl, unlost, ?_⟩
    rw [keptAfter, unlost]
    rfl

/-- So a call on the connection at hand is made in one attempt. -/
lemma Served.alone {conn : Nat} {kept : Option Nat} {result : Except CallError ρ}
    (h : Served request (some conn) steps result kept) (fine : ∀ step ∈ steps, step.IsFine) :
    steps = [.call conn request result] ∧ kept = some conn := by
  cases h with
  | once attempt _ =>
    obtain ⟨call, -, keeps⟩ := attempt.alone fine
    exact ⟨call, keeps⟩
  | twice first failed _ =>
    obtain ⟨-, unlost, -⟩ := first.alone (List.forall_mem_append.1 fine).1
    rw [unlost] at failed
    cases failed

variable {count : Nat} {log : WorkLog π ρ}

lemma isOf_reportSteps (measured : Bool) (seen : Nat) (e : CallError) :
    ∀ step ∈ (reportSteps measured seen e : List (Step π ρ)), step.IsOf request := by
  unfold reportSteps
  split <;> simp [Step.IsOf]

/-- To report a failed call asks nothing of the target. -/
lemma eventsOf_reportSteps (measured : Bool) (seen : Nat) (e : CallError) :
    eventsOf (reportSteps measured seen e : List (Step π ρ)) = [] := by
  unfold reportSteps
  split <;> rfl

lemma Requested.isOf {slot : Option Nat} {samples : List Nat}
    (h : Requested measured request count slot samples log) :
    ∀ step ∈ log.trace, step.IsOf request := by
  induction h with
  | done => split <;> simp [Step.IsOf]
  | answered call _ ih =>
    rw [List.forall_mem_cons, List.forall_mem_append, List.forall_mem_cons]
    exact ⟨trivial, (makes_callWithReconnect call).isOf, trivial, ih⟩
  | failed call _ ih =>
    rw [List.forall_mem_cons, List.forall_mem_append, List.forall_mem_append]
    exact ⟨trivial, (makes_callWithReconnect call).isOf, isOf_reportSteps _ _ _, ih⟩

/-- Requests from a connection at hand are all made on it, one call each. -/
lemma Requested.alone {conn : Nat} {slot : Option Nat} {samples : List Nat}
    (h : Requested measured request count slot samples log) (held : slot = some conn)
    (fine : ∀ step ∈ log.trace, step.IsFine) :
    eventsOf log.trace = log.results.map (.called conn request) ∧ log.results.length = count := by
  induction h with
  | done => split <;> exact ⟨rfl, rfl⟩
  | answered call _ ih =>
    subst held
    rw [List.forall_mem_cons, List.forall_mem_append, List.forall_mem_cons] at fine
    obtain ⟨-, fineCall, -, fineRest⟩ := fine
    obtain ⟨rfl, rfl⟩ := (makes_callWithReconnect call).alone fineCall
    obtain ⟨events, length⟩ := ih rfl fineRest
    refine ⟨?_, by rw [List.length_cons, length]⟩
    rw [List.map_cons, ← events]
    rfl
  | @failed _ _ seen _ _ _ _ e log call _ ih =>
    subst held
    rw [List.forall_mem_cons, List.forall_mem_append, List.forall_mem_append] at fine
    obtain ⟨-, fineCall, -, fineRest⟩ := fine
    obtain ⟨rfl, rfl⟩ := (makes_callWithReconnect call).alone fineCall
    obtain ⟨events, length⟩ := ih rfl fineRest
    refine ⟨?_, by rw [List.length_cons, length]⟩
    have quiet : eventsOf (reportSteps measured seen e ++ log.trace) = eventsOf log.trace := by
      rw [eventsOf, List.filterMap_append]
      exact congrArg (· ++ _) (eventsOf_reportSteps measured seen e)
    rw [List.map_cons, ← events, ← quiet]
    rfl

/-- A connection that a worker opens, with the results of the calls that it makes on it. -/
structure Session (ρ : Type) where
  conn : Nat
  results : List (Except CallError ρ)

/-- What is asked of the target in a session. -/
def Session.events (request : Request π) (session : Session ρ) : List (Event π ρ) :=
  .connected (.ok session.conn) :: session.results.map (.called session.conn request)

lemma Worked.isOf (h : Worked measured request count log) :
    ∀ step ∈ log.trace, step.IsOf request := by
  obtain ⟨opened, steps, trace, requested⟩ := h
  rw [trace, List.forall_mem_cons]
  exact ⟨trivial, requested.isOf⟩

/-- A worker that loses no connection does all its work in one session. -/
lemma Worked.alone (h : Worked measured request count log)
    (fine : ∀ step ∈ log.trace, step.IsFine) :
    ∃ session : Session ρ, session.results.length = count ∧
      eventsOf log.trace = session.events request := by
  obtain ⟨opened, steps, trace, requested⟩ := h
  rw [trace, List.forall_mem_cons] at fine
  obtain ⟨⟨conn, rfl⟩, fineRest⟩ := fine
  obtain ⟨events, length⟩ := requested.alone rfl fineRest
  refine ⟨⟨conn, log.results⟩, length, ?_⟩
  rw [Session.events, ← events, trace]
  rfl

/-! ## Workers side by side -/

namespace Event

/-- The number of the connection that was opened. -/
def opened? : Event π ρ → Option Nat
  | connected (.ok conn) => some conn
  | _ => none

/-- The event is a call on the connection. -/
def isOn (conn : Nat) (event : Event π ρ) : Bool :=
  event.conn? == some conn

end Event

namespace Arena

lemma Moves.opened (move : s.Moves t clock step s') (known : step.isProbe = false) :
    step.event?.bind Event.opened? = none ∧ s'.opened = s.opened ∨
      step.event?.bind Event.opened? = some (s.opened + 0) ∧ s'.opened = s.opened + 1 := by
  cases move with
  | @connect _ r h =>
    cases r with
    | error e => exact .inl ⟨rfl, opened_of_connect_error h⟩
    | ok conn =>
      obtain ⟨rfl, more⟩ := opened_of_connect_ok h
      exact .inr ⟨rfl, more⟩
  | probe => cases known
  | call h => exact .inl ⟨rfl, opened_of_call h⟩
  | _ => exact .inl ⟨rfl, rfl⟩

/-- Connections are numbered one by one. -/
lemma Course.opened (course : s.Course t clock steps s')
    (known : ∀ step ∈ steps, step.isProbe = false) :
    (eventsOf steps).filterMap Event.opened? = List.range' s.opened (s'.opened - s.opened) ∧
      s.opened ≤ s'.opened := by
  rw [eventsOf, List.filterMap_filterMap]
  exact course.numbered fun step mem move => move.opened (known step mem)

end Arena

namespace Session

variable (session : Session ρ) (request : Request π)

lemma filterMap_opened? : (session.events request).filterMap Event.opened? = [session.conn] := by
  have calls : (session.results.map (Event.called session.conn request)).filterMap
      Event.opened? = [] := by
    rw [List.filterMap_map, List.filterMap_eq_nil_iff]
    exact fun _ _ => rfl
  rw [events, List.filterMap_cons, calls]
  rfl

lemma countP_isConnect : (session.events request).countP Event.isConnect = 1 := by
  rw [events, List.countP_cons_of_pos (by rfl), List.countP_map, List.countP_eq_zero.2]
  exact fun _ _ => nofun

lemma countP_isCall : (session.events request).countP Event.isCall = session.results.length := by
  simp [events, Event.isCall, Function.comp_def]

/-- All calls of a session are made on its own connection. -/
lemma countP_isOn (conn : Nat) : (session.events request).countP (Event.isOn conn) =
    if session.conn = conn then session.results.length else 0 := by
  by_cases own : session.conn = conn <;>
    simp [events, Event.isOn, Event.conn?, Function.comp_def, own]

end Session

lemma countP_isOn_of_not_mem {sessions : List (Session ρ)} {conn : Nat}
    (other : conn ∉ sessions.map Session.conn) (request : Request π) :
    (sessions.flatMap (Session.events request)).countP (Event.isOn conn) = 0 := by
  rw [List.countP_flatMap, List.sum_eq_zero_iff]
  intro n mem
  obtain ⟨session, listed, rfl⟩ := List.mem_map.1 mem
  refine (session.countP_isOn request conn).trans (if_neg ?_)
  rintro rfl
  exact other (List.mem_map_of_mem listed)

/-- Of sessions on different connections, each has its own calls on its connection. -/
lemma map_countP_isOn {sessions : List (Session ρ)} (apart : (sessions.map Session.conn).Nodup)
    (request : Request π) :
    (sessions.map fun session =>
      (sessions.flatMap (Session.events request)).countP (Event.isOn session.conn)) =
      sessions.map (·.results.length) := by
  refine List.map_congr_left fun session mem => ?_
  induction sessions with
  | nil => cases mem
  | cons other sessions ih =>
    obtain ⟨fresh, apart⟩ := List.nodup_cons.1 apart
    rw [List.flatMap_cons, List.countP_append, Session.countP_isOn]
    rcases List.mem_cons.1 mem with rfl | later
    · rw [if_pos rfl, countP_isOn_of_not_mem fresh, Nat.add_zero]
    · have differs : other.conn ≠ session.conn :=
        fun same => fresh (same ▸ List.mem_map_of_mem later)
      rw [if_neg differs, ih apart later, Nat.zero_add]

/-- The connections of sessions are those that are opened in them. -/
lemma opened_sessions {sessions : List (Session ρ)} {events : List (Event π ρ)}
    (merged : events.Perm (sessions.flatMap (Session.events request))) :
    (events.filterMap Event.opened?).Perm (sessions.map Session.conn) := by
  refine (merged.filterMap Event.opened?).trans ?_
  rw [List.filterMap_flatMap, List.map_eq_flatMap]
  simp only [Session.filterMap_opened?]
  rfl

/-- Every worker opens one connection and makes its share of the calls on it, and no other worker
uses it. -/
structure OneEach (request : Request π) (first : Nat) (shares : List Nat)
    (events : List (Event π ρ)) : Prop where
  sessions : ∃ sessions : List (Session ρ), sessions.map (·.results.length) = shares ∧
    events.Perm (sessions.flatMap (Session.events request))
  numbered : events.filterMap Event.opened? = List.range' first shares.length

namespace OneEach

variable {first : Nat} {shares : List Nat} {events : List (Event π ρ)}

lemma nil (request : Request π) (first : Nat) : OneEach request first [] ([] : List (Event π ρ)) :=
  ⟨⟨[], rfl, .refl _⟩, rfl⟩

/-- There are as many connections as workers. -/
lemma connects (h : OneEach request first shares events) :
    events.countP Event.isConnect = shares.length := by
  obtain ⟨sessions, rfl, merged⟩ := h.sessions
  rw [merged.countP_eq, List.countP_flatMap, List.length_map]
  simp [Function.comp_def, Session.countP_isConnect]

/-- There are as many calls as the shares add up to. -/
lemma calls (h : OneEach request first shares events) :
    events.countP Event.isCall = shares.sum := by
  obtain ⟨sessions, rfl, merged⟩ := h.sessions
  rw [merged.countP_eq, List.countP_flatMap]
  simp [Function.comp_def, Session.countP_isCall]

/-- The connections have each the calls of one worker. -/
lemma callsOn (h : OneEach request first shares events) :
    ((events.filterMap Event.opened?).map fun conn => events.countP (Event.isOn conn)).Perm
      shares := by
  obtain ⟨sessions, rfl, merged⟩ := h.sessions
  have conns := opened_sessions merged
  have apart : (sessions.map Session.conn).Nodup := by
    rw [← conns.nodup_iff, h.numbered]
    exact List.nodup_range'
  refine (conns.map _).trans ?_
  rw [List.map_map, ← map_countP_isOn apart request]
  refine .of_eq (List.map_congr_left fun session _ => ?_)
  exact merged.countP_eq _

end OneEach

lemma isOf_traces {shares : List Nat} {logs : List (WorkLog π ρ)}
    (h : List.Forall₂ (Worked measured request) shares logs) :
    ∀ step ∈ (logs.map WorkLog.trace).flatten, step.IsOf request := by
  induction h with
  | nil => exact fun _ mem => (List.not_mem_nil mem).elim
  | cons worked _ ih =>
    rw [List.map_cons, List.flatten_cons, List.forall_mem_append]
    exact ⟨worked.isOf, ih⟩

/-- Workers that lose no connection have a session each. -/
lemma sessions_traces {shares : List Nat} {logs : List (WorkLog π ρ)}
    (h : List.Forall₂ (Worked measured request) shares logs)
    (fine : ∀ step ∈ (logs.map WorkLog.trace).flatten, step.IsFine) :
    ∃ sessions : List (Session ρ), sessions.map (·.results.length) = shares ∧
      eventsOf (logs.map WorkLog.trace).flatten =
        sessions.flatMap (Session.events request) := by
  induction h with
  | nil => exact ⟨[], rfl, rfl⟩
  | cons worked _ ih =>
    rw [List.map_cons, List.flatten_cons, List.forall_mem_append] at fine
    obtain ⟨session, rfl, own⟩ := worked.alone fine.1
    obtain ⟨sessions, rfl, others⟩ := ih fine.2
    refine ⟨session :: sessions, rfl, ?_⟩
    rw [List.flatMap_cons, ← own, ← others, List.map_cons, List.flatten_cons]
    exact List.filterMap_append

/-- Workers that are started together on a steady target have one connection each. -/
lemma together_oneEach {shares : List Nat} {phase : Phase} (steady : t.Steady request s.target)
    (h : Arena.together t clock (shares.map (worker measured request)) s = (phase, s')) :
    ∃ events, s'.history = events.reverse ++ s.history ∧
      OneEach request s.opened shares events ∧ s'.opened = s.opened + shares.length ∧
      t.Steady request s'.target := by
  obtain ⟨stop, traces, steps, all, merged, course, -, -, rfl⟩ := together_course h
  obtain ⟨logs, worked, rfl⟩ := makeAll_workers all
  have own : ∀ step ∈ steps, step.IsOf request := fun step mem =>
    isOf_traces worked step (merged.mem_iff.1 mem)
  have known := fun step mem => (own step mem).not_probe
  obtain ⟨fine, stays⟩ := course.fine own steady
  obtain ⟨sessions, rfl, events⟩ := sessions_traces worked fun step mem =>
    fine step (merged.mem_iff.2 mem)
  have asked : (eventsOf steps).Perm (sessions.flatMap (Session.events request)) :=
    events ▸ merged.filterMap Step.event?
  obtain ⟨numbers, more⟩ := course.opened known
  have total : stop.opened - s.opened = sessions.length := by
    have length := (opened_sessions asked).length_eq
    rwa [numbers, List.length_range', List.length_map] at length
  refine ⟨eventsOf steps, course.history known, ⟨⟨sessions, rfl, asked⟩, ?_⟩, ?_, stays⟩
  · rw [List.length_map, ← total]
    exact numbers
  · rw [List.length_map, ← total]
    exact (Nat.add_sub_cancel' more).symm

/-! ## A run -/

variable {config : Config}

/-- The shares of the workers in the warmup. -/
def Config.warmupShares (c : Config) : List Nat :=
  if c.warmupPerWorker = 0 then [] else List.replicate c.concurrency c.warmupPerWorker

lemma warmUp_oneEach (clock : Clock) (config : Config) (steady : t.Steady request s.target) :
    ∃ s' events, (warmUp (Stage.ofTarget (n := Id) t clock) request config).run s = ((), s') ∧
      s'.history = events.reverse ++ s.history ∧
      OneEach request s.opened config.warmupShares events ∧
      s'.opened = s.opened + config.warmupShares.length ∧ t.Steady request s'.target := by
  rw [run_warmUp, Config.warmupShares]
  split
  · exact ⟨s, [], rfl, rfl, .nil request s.opened, rfl, steady⟩
  · rcases together : Arena.together t clock
      (List.replicate config.concurrency (worker false request config.warmupPerWorker)) s with
      ⟨phase, s'⟩
    rw [← List.map_replicate] at together
    obtain ⟨events, history, each, opened, stays⟩ := together_oneEach steady together
    exact ⟨s', events, rfl, history, each, opened, stays⟩

lemma measure_oneEach (clock : Clock) (config : Config) (steady : t.Steady request s.target) :
    ∃ result s' events,
      (measure (Stage.ofTarget (n := Id) t clock) request config).run s = (result, s') ∧
      s'.history = events.reverse ++ s.history ∧
      OneEach request s.opened (distribute config.requests config.concurrency) events := by
  rcases together : Arena.together t clock
    ((distribute config.requests config.concurrency).map (worker true request)) s with ⟨phase, s'⟩
  obtain ⟨events, history, each, -⟩ := together_oneEach steady together
  refine ⟨.ofPhase config phase, s', events, ?_, history, each⟩
  have run : ((Stage.ofTarget (n := Id) t clock).together
    ((distribute config.requests config.concurrency).map (worker true request))).run s = _ :=
    together
  rw [measure, StateT.run_bind, run]
  rfl

/-- A steady target that has no other way to be looked for is found by opening a connection. -/
lemma probe_of_steady (plain : t.probe = none) (steady : t.Steady request s.target) :
    ∃ s', s.probe t = (.ok (), s') ∧ s'.history = .connected (.ok s.opened) :: s.history ∧
      s'.opened = s.opened + 1 ∧ t.Steady request s'.target := by
  have opens := Arena.connect_of_ok (steady.connects _ .refl)
  refine ⟨(s.connect t).2, ?_, ?_, ?_, ?_⟩
  · rw [Arena.probe, plain, opens]
    rfl
  · rw [opens]
  · rw [opens]
  · rw [opens]
    exact steady.of_reaches (.connect .refl)

/-- A run that finds its target warms up and measures. -/
lemma run_runBenchmark_of_found {s₁ s₂ : Arena σ π ρ} {result : Result}
    (valid : config.validate = .ok ()) (found : s.probe t = (.ok (), s₁))
    (warm : (warmUp (Stage.ofTarget (n := Id) t clock) request config).run s₁ = ((), s₂))
    (measured : (measure (Stage.ofTarget (n := Id) t clock) request config).run s₂ =
      (result, s')) :
    (runBenchmark (Stage.ofTarget (n := Id) t clock) request config).run s = (.ok result, s') := by
  have looked : ((Stage.ofTarget (n := Id) t clock).run (.probe .finish)).run s = _ := found
  have next {α β : Type} (x : StateM (Arena σ π ρ) α) (f : α → StateM (Arena σ π ρ) β)
      (s : Arena σ π ρ) : (x >>= f).run s = (f (x.run s).1).run (x.run s).2 := rfl
  rw [runBenchmark, valid]
  simp only [next, looked, warm, measured]
  rfl

namespace Config

lemma warmupPerWorker_of_valid (valid : config.validate = .ok ()) : config.warmupPerWorker =
    if config.warmup = 0 then 0 else max 1 (config.warmup / config.concurrency) := by
  rw [warmupPerWorker, Nat.max_comm]
  simp only [or_iff_left (concurrency_of_valid valid)]

lemma sum_warmupShares (config : Config) :
    config.warmupShares.sum = config.concurrency * config.warmupPerWorker := by
  unfold warmupShares
  split
  · rename_i none
    rw [none]
    rfl
  · rw [List.sum_replicate, smul_eq_mul]

lemma length_warmupShares (config : Config) :
    config.warmupShares.length = if config.warmupPerWorker = 0 then 0 else config.concurrency := by
  unfold warmupShares
  split
  · rfl
  · exact List.length_replicate

end Config

/-- What a run asks of its target after it opened the first connection, in the warmup and in the
measured phase, if every worker makes so many calls in the warmup. -/
structure Connections (request : Request π) (config : Config) (warmup first : Nat)
    (warm measured : List (Event π ρ)) : Prop where
  warmCalls : warm.countP Event.isCall = config.concurrency * warmup
  measuredCalls : measured.countP Event.isCall = config.requests
  /-- The first connection is counted too. -/
  connects : 1 + (warm ++ measured).countP Event.isConnect =
    if warmup = 0 then 1 + config.concurrency else 1 + 2 * config.concurrency
  /-- Every connection that was asked for was opened. -/
  opened : (warm ++ measured).filterMap Event.opened? =
    List.range' (first + 1) ((warm ++ measured).countP Event.isConnect)
  callsOn : ((measured.filterMap Event.opened?).map fun conn =>
    measured.countP (Event.isOn conn)).Perm (distribute config.requests config.concurrency)
  /-- Every worker of the measured phase has a connection of its own. -/
  each : OneEach request (first + 1 + warm.countP Event.isConnect)
    (distribute config.requests config.concurrency) measured

/-- A run on a steady target succeeds. It opens one connection to find the target, and then one for
each worker of each phase; the calls of a worker are all made on its connection, whichever of them
fail and in whatever order the workers make their steps. -/
theorem runBenchmark_connections (valid : config.validate = .ok ()) (plain : t.probe = none)
    (steady : t.Steady request s.target) :
    ∃ result s₁ s₂ s' warm measured,
      (runBenchmark (Stage.ofTarget (n := Id) t clock) request config).run s = (.ok result, s') ∧
      s.probe t = (.ok (), s₁) ∧ s₁.history = .connected (.ok s.opened) :: s.history ∧
      (warmUp (Stage.ofTarget (n := Id) t clock) request config).run s₁ = ((), s₂) ∧
      s₂.history = warm.reverse ++ s₁.history ∧
      (measure (Stage.ofTarget (n := Id) t clock) request config).run s₂ = (result, s') ∧
      s'.history = measured.reverse ++ s₂.history ∧
      Connections request config
        (if config.warmup = 0 then 0 else max 1 (config.warmup / config.concurrency)) s.opened
        warm measured := by
  obtain ⟨s₁, looked, history₁, opened₁, steady₁⟩ := probe_of_steady plain steady
  obtain ⟨s₂, warm, warmed, history₂, eachWarm, opened₂, steady₂⟩ :=
    warmUp_oneEach clock config steady₁
  obtain ⟨result, s', measured, ran, history₃, each⟩ := measure_oneEach clock config steady₂
  refine ⟨result, s₁, s₂, s', warm, measured, run_runBenchmark_of_found valid looked warmed ran,
    looked, history₁, warmed, history₂, ran, history₃, ?_⟩
  have connects : (warm ++ measured).countP Event.isConnect =
      config.warmupShares.length + config.concurrency := by
    rw [List.countP_append, eachWarm.connects, each.connects, length_distribute]
  rw [← Config.warmupPerWorker_of_valid valid]
  refine ⟨?_, ?_, ?_, ?_, each.callsOn, ?_⟩
  · rw [eachWarm.calls, Config.sum_warmupShares]
  · rw [each.calls, sum_distribute config.requests (Config.concurrency_of_valid valid)]
  · rw [connects, Config.length_warmupShares]
    split <;> omega
  · rw [connects, List.filterMap_append, eachWarm.numbered, each.numbered, opened₂, opened₁,
      length_distribute]
    exact List.range'_append_1
  · rw [eachWarm.connects, ← opened₁, ← opened₂]
    exact each

/-- A target that answers, refuses and says what is no response, in turns. -/
def takingTurns : Target Nat Unit Unit where
  description := "takes turns"
  connect n := (.ok (), n)
  call _ _ n :=
    (match n % 3 with
      | 0 => .ok ()
      | 1 => .error (.fault 1 "busy")
      | _ => .error (.protocol "no response"), n + 1)
  probe := none

lemma steady_takingTurns (request : Request Unit) (n : Nat) : takingTurns.Steady request n where
  connects _ _ := rfl
  answers m conn _ := by
    change lostConnection (match m % 3 with
      | 0 => Except.ok ()
      | 1 => .error (.fault 1 "busy")
      | _ => .error (.protocol "no response")) = false
    split <;> rfl

/-- A run of two workers, most of whose calls fail. -/
theorem runBenchmark_connections_takingTurns :
    (⟨9, 2, 5⟩ : Config).validate = .ok () ∧ takingTurns.probe = none ∧
      takingTurns.Steady ⟨"echo", ()⟩ 0 ∧
      ∃ (result : Result) (s' : Arena Nat Unit Unit) (warm measured : List (Event Unit Unit)),
        (runBenchmark (Stage.ofTarget (n := Id) takingTurns (5 * ·)) ⟨"echo", ()⟩ ⟨9, 2, 5⟩).run
          (Arena.start 0 [[0, 1, 0, 0, 1, 1], [1, 0, 0, 1, 1]]) = (.ok result, s') ∧
        s'.history = measured.reverse ++ (warm.reverse ++ [.connected (.ok 0)]) ∧
        warm.countP Event.isCall = 4 ∧ measured.countP Event.isCall = 9 ∧
        1 + (warm ++ measured).countP Event.isConnect = 5 ∧
        ((measured.filterMap Event.opened?).map fun conn =>
          measured.countP (Event.isOn conn)).Perm [5, 4] := by
  have steady := steady_takingTurns ⟨"echo", ()⟩ 0
  obtain ⟨result, s₁, s₂, s', warm, measured, run, -, found, -, warmed, -, ended, counted⟩ :=
    @runBenchmark_connections _ _ _ takingTurns (5 * ·) ⟨"echo", ()⟩
      (Arena.start 0 [[0, 1, 0, 0, 1, 1], [1, 0, 0, 1, 1]]) ⟨9, 2, 5⟩ rfl rfl steady
  refine ⟨rfl, rfl, steady, result, s', warm, measured, run, ?_, counted.warmCalls,
    counted.measuredCalls, counted.connects, counted.callsOn⟩
  rw [ended, warmed, found]
  rfl

end PerfGate.Load
