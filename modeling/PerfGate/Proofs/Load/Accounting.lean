import Mathlib
import PerfGate.Load.Run
import PerfGate.Proofs.Load.Latency
import PerfGate.Proofs.Load.Reconnect
import PerfGate.Proofs.Load.Shares

/-!
# What a run reports

The figures of a run come from a shared count of errors, samples that the workers hand in, and a
plan that splits the requests over the workers. `runBenchmark_accounted` says that they add up,
whatever the target answers and in whatever order the workers make their steps.

A worker is described by its `WorkLog`, its trace together with the results of its calls; `Worked`
says that these belong together. A figure of the run is a sum over the merged trace, and hence the
sum of the workers' figures, each of which is read off its log.
-/

namespace PerfGate.Load

open Latency.Summary (ofSamples_of_perm)

variable {σ π ρ : Type}

/-- What a worker did: its steps, and the results of its calls. -/
structure WorkLog (π ρ : Type) where
  trace : List (Step π ρ)
  results : List (Except CallError ρ)

/-- The warning about a failed call. -/
def complaint (e : CallError) : String :=
  "Error: " ++ e.message

/-- What a worker does about a failed call: the error is counted, and one of the first errors of the
measured phase is reported. -/
def reportSteps (measured : Bool) (seen : Nat) (e : CallError) : List (Step π ρ) :=
  .countError seen :: if measured && seen ≤ reportedErrors then [.warn (complaint e)] else []

/-- So many requests, from the connection at hand and the samples so far, with the steps they take
and the results of their calls. -/
inductive Requested (measured : Bool) (request : Request π) :
    Nat → Option Nat → List Nat → WorkLog π ρ → Prop
  | done {slot : Option Nat} {samples : List Nat} :
      Requested measured request 0 slot samples
        ⟨if measured then [.deposit samples.reverse] else [], []⟩
  | answered {n start stop : Nat} {slot kept : Option Nat} {samples : List Nat}
      {steps : List (Step π ρ)} {r : ρ} {log : WorkLog π ρ}
      (call : (callWithReconnect slot request).Makes steps (.ok r, kept))
      (more : Requested measured request n kept ((stop - start) :: samples) log) :
      Requested measured request (n + 1) slot samples
        ⟨.readClock start :: (steps ++ .readClock stop :: log.trace), .ok r :: log.results⟩
  | failed {n start seen : Nat} {slot kept : Option Nat} {samples : List Nat}
      {steps : List (Step π ρ)} {e : CallError} {log : WorkLog π ρ}
      (call : (callWithReconnect slot request).Makes steps (.error e, kept))
      (more : Requested measured request n kept samples log) :
      Requested measured request (n + 1) slot samples
        ⟨.readClock start :: (steps ++ (reportSteps measured seen e ++ log.trace)),
          .error e :: log.results⟩

/-- What a worker does for its share of the requests. -/
def Worked (measured : Bool) (request : Request π) (count : Nat) (log : WorkLog π ρ) : Prop :=
  ∃ opened steps, log.trace = .connect opened :: steps ∧
    Requested measured request count opened.toOption [] ⟨steps, log.results⟩

variable {measured : Bool} {request : Request π} {count : Nat} {log : WorkLog π ρ}

/-- What is done about a failed call stands in front of what is done afterwards. -/
lemma makes_report {p : Procedure π ρ Unit} {seen : Nat} {e : CallError} {steps : List (Step π ρ)}
    (h : (if measured && seen ≤ reportedErrors then .warn (complaint e) p else p).Makes steps ()) :
    ∃ rest, .countError seen :: steps = reportSteps measured seen e ++ rest ∧ p.Makes rest () := by
  unfold reportSteps
  by_cases reported : (measured && decide (seen ≤ reportedErrors)) = true
  · rw [if_pos reported] at h ⊢
    cases h with
    | warn h => exact ⟨_, rfl, h⟩
  · rw [if_neg reported] at h ⊢
    exact ⟨steps, rfl, h⟩

lemma makes_requests {slot : Option Nat} {samples : List Nat} {steps : List (Step π ρ)}
    (h : (requests measured request count slot samples).Makes steps ()) :
    ∃ results, Requested measured request count slot samples ⟨steps, results⟩ := by
  -- slot and samples go from call to call, so they are general in the induction on what is left
  induction count generalizing slot samples steps with
  | zero =>
    refine ⟨[], ?_⟩
    rw [requests] at h
    cases measured with
    | true =>
      cases h with
      | deposit h =>
        cases h
        exact .done
    | false =>
      cases h
      exact .done
  | succ n ih =>
    rw [requests] at h
    cases h with
    | readClock h =>
      obtain ⟨first, rest, ⟨result, kept⟩, rfl, call, h⟩ := Procedure.makes_bind h
      cases result with
      | ok r =>
        cases h with
        | readClock h =>
          obtain ⟨results, more⟩ := ih h
          exact ⟨_, .answered call more⟩
      | error e =>
        cases h with
        | countError h =>
          obtain ⟨rest, split, h⟩ := makes_report h
          obtain ⟨results, more⟩ := ih h
          rw [split]
          exact ⟨_, .failed call more⟩

lemma makes_worker {steps : List (Step π ρ)} (h : (worker measured request count).Makes steps ()) :
    ∃ results, Worked measured request count ⟨steps, results⟩ := by
  cases h with
  | connect h =>
    obtain ⟨results, more⟩ := makes_requests h
    exact ⟨results, _, _, rfl, more⟩

/-- The traces of workers are those of their logs. -/
lemma makeAll_workers {counts : List Nat} {traces : List (List (Step π ρ))}
    (h : MakeAll (counts.map (worker measured request)) traces) :
    ∃ logs, List.Forall₂ (Worked measured request) counts logs ∧
      logs.map WorkLog.trace = traces := by
  induction counts generalizing traces with
  | nil =>
    cases h
    exact ⟨[], .nil, rfl⟩
  | cons count counts ih =>
    cases h with
    | cons makes all =>
      obtain ⟨results, worked⟩ := makes_worker makes
      obtain ⟨logs, worked', rfl⟩ := ih all
      exact ⟨⟨_, results⟩ :: logs, .cons worked worked', rfl⟩

/-! ## The figures of one worker -/

/-- The call succeeded. -/
def succeeded (result : Except CallError ρ) : Bool :=
  result.isOk

@[simp]
lemma succeeded_ok (r : ρ) : succeeded (.ok r) = true := rfl

@[simp]
lemma succeeded_error (e : CallError) : succeeded (.error e : Except CallError ρ) = false := rfl

/-- The complaint about a call, if it failed. -/
def complaint? : Except CallError ρ → Option String
  | .error e => some (complaint e)
  | .ok _ => none

/-- What the steps of a worker add to the figures of a run, given the results of its calls. -/
structure Figures (count : Nat) (before : List Nat) (log : WorkLog π ρ) : Prop where
  requests : log.results.length = count
  errors : (log.trace.filterMap Step.count?).length = log.results.countP (!succeeded ·)
  samples : (log.trace.flatMap Step.deposited).length =
    before.length + log.results.countP succeeded
  warnings : (log.trace.filterMap Step.warning?).length =
    (log.trace.filterMap Step.count?).countP (· ≤ reportedErrors)
  complaints : (log.trace.filterMap Step.warning?).Sublist (log.results.filterMap complaint?)

/-- The steps of a call add nothing to any figure. -/
lemma call_adds_nothing {slot kept : Option Nat} {result : Except CallError ρ}
    {steps : List (Step π ρ)} (call : (callWithReconnect slot request).Makes steps (result, kept)) :
    steps.filterMap Step.count? = [] ∧ steps.flatMap Step.deposited = [] ∧
      steps.filterMap Step.warning? = [] := by
  have quiet := fun step mem =>
    Step.quiet_of_asks ((makes_callWithReconnect call).asks step mem)
  exact ⟨List.filterMap_eq_nil_iff.2 fun step mem => (quiet step mem).1,
    List.flatMap_eq_nil_iff.2 fun step mem => (quiet step mem).2.1,
    List.filterMap_eq_nil_iff.2 fun step mem => (quiet step mem).2.2.1⟩

/-- A call that succeeds adds a sample to the figures. -/
lemma Figures.answered {n start stop time : Nat} {samples : List Nat} {steps : List (Step π ρ)}
    {r : ρ} (ih : Figures n (time :: samples) log) (counts : steps.filterMap Step.count? = [])
    (deposits : steps.flatMap Step.deposited = []) (warns : steps.filterMap Step.warning? = []) :
    Figures (n + 1) samples
      ⟨.readClock start :: (steps ++ .readClock stop :: log.trace), .ok r :: log.results⟩ := by
  have counted : (.readClock start :: (steps ++ .readClock stop :: log.trace)).filterMap
      Step.count? = log.trace.filterMap Step.count? := by
    simp [List.filterMap_cons, counts, Step.count?]
  have deposited : (.readClock start :: (steps ++ .readClock stop :: log.trace)).flatMap
      Step.deposited = log.trace.flatMap Step.deposited := by
    simp [deposits, Step.deposited]
  have warned : (.readClock start :: (steps ++ .readClock stop :: log.trace)).filterMap
      Step.warning? = log.trace.filterMap Step.warning? := by
    simp [List.filterMap_cons, warns, Step.warning?]
  refine ⟨?_, ?_, ?_, ?_, ?_⟩
  · simp [ih.requests]
  · rw [counted, ih.errors, List.countP_cons_of_neg (by simp)]
  · rw [deposited, ih.samples, List.countP_cons_of_pos (by rfl), List.length_cons]
    omega
  · rw [counted, warned, ih.warnings]
  · rw [warned]
    exact ih.complaints

/-- A call that fails adds an error to the figures, and a warning if the error is among the
first. -/
lemma Figures.failed {n start seen : Nat} {samples : List Nat} {steps : List (Step π ρ)}
    {e : CallError} (ih : Figures n samples log) (counts : steps.filterMap Step.count? = [])
    (deposits : steps.flatMap Step.deposited = []) (warns : steps.filterMap Step.warning? = []) :
    Figures (n + 1) samples
      ⟨.readClock start :: (steps ++ (reportSteps true seen e ++ log.trace)),
        .error e :: log.results⟩ := by
  have counted : (.readClock start :: (steps ++ (reportSteps true seen e ++ log.trace))).filterMap
      Step.count? = seen :: log.trace.filterMap Step.count? := by
    unfold reportSteps
    split <;> simp [List.filterMap_cons, counts, Step.count?]
  have deposited : (.readClock start :: (steps ++ (reportSteps true seen e ++ log.trace))).flatMap
      Step.deposited = log.trace.flatMap Step.deposited := by
    unfold reportSteps
    split <;> simp [deposits, Step.deposited]
  have warned : (.readClock start :: (steps ++ (reportSteps true seen e ++ log.trace))).filterMap
      Step.warning? = (if seen ≤ reportedErrors then [complaint e] else []) ++
        log.trace.filterMap Step.warning? := by
    by_cases h : seen ≤ reportedErrors <;>
      simp [reportSteps, h, List.filterMap_cons, warns, Step.warning?]
  refine ⟨?_, ?_, ?_, ?_, ?_⟩
  · simp [ih.requests]
  · rw [counted, List.length_cons, ih.errors, List.countP_cons_of_pos (by rfl)]
  · rw [deposited, ih.samples, List.countP_cons_of_neg (by simp)]
  · rw [counted, warned, List.length_append, ih.warnings, List.countP_cons]
    split <;> simp [*, Nat.add_comm]
  · rw [warned]
    split
    · exact ih.complaints.cons_cons (complaint e)
    · exact ih.complaints.cons (complaint e)

lemma Requested.figures {slot : Option Nat} {before : List Nat}
    (h : Requested true request count slot before log) : Figures count before log := by
  induction h with
  | done => exact ⟨rfl, rfl, by simp [Step.deposited], rfl, .slnil⟩
  | answered call _ ih =>
    obtain ⟨counts, deposits, warns⟩ := call_adds_nothing call
    exact ih.answered counts deposits warns
  | failed call _ ih =>
    obtain ⟨counts, deposits, warns⟩ := call_adds_nothing call
    exact ih.failed counts deposits warns

/-- Requests that are not measured give no warnings. -/
lemma Requested.unmeasured {slot : Option Nat} {before : List Nat}
    (h : Requested false request count slot before log) :
    log.trace.filterMap Step.warning? = [] := by
  induction h with
  | done => rfl
  | answered call _ ih =>
    obtain ⟨_, _, warns⟩ := call_adds_nothing call
    simp [List.filterMap_cons, warns, ih, Step.warning?]
  | failed call _ ih =>
    obtain ⟨_, _, warns⟩ := call_adds_nothing call
    simp [reportSteps, List.filterMap_cons, warns, ih, Step.warning?]

lemma Worked.figures (h : Worked true request count log) : Figures count [] log := by
  obtain ⟨opened, steps, trace, requested⟩ := h
  have fig := requested.figures
  have counted : log.trace.filterMap Step.count? = steps.filterMap Step.count? := by
    rw [trace, List.filterMap_cons_none rfl]
  have warned : log.trace.filterMap Step.warning? = steps.filterMap Step.warning? := by
    rw [trace, List.filterMap_cons_none rfl]
  have deposited : log.trace.flatMap Step.deposited = steps.flatMap Step.deposited := by
    rw [trace, List.flatMap_cons]
    rfl
  refine ⟨fig.requests, ?_, ?_, ?_, ?_⟩
  · rw [counted]
    exact fig.errors
  · rw [deposited]
    exact fig.samples
  · rw [counted, warned]
    exact fig.warnings
  · rw [warned]
    exact fig.complaints

/-! ## The figures of a phase -/

/-- The results of all calls of the workers. -/
def resultsOf (logs : List (WorkLog π ρ)) : List (Except CallError ρ) :=
  logs.flatMap WorkLog.results

/-- The samples that the workers hand in, worker by worker. -/
def samplesOf (logs : List (WorkLog π ρ)) : List Nat :=
  logs.flatMap fun log => log.trace.flatMap Step.deposited

/-- The figures of two logs together are the sums of theirs. -/
lemma Figures.append {m n : Nat} {a b : WorkLog π ρ} (ha : Figures m [] a) (hb : Figures n [] b) :
    Figures (m + n) [] ⟨a.trace ++ b.trace, a.results ++ b.results⟩ := by
  have samplesA := ha.samples
  have samplesB := hb.samples
  refine ⟨?_, ?_, ?_, ?_, ?_⟩
  · rw [List.length_append, ha.requests, hb.requests]
  · rw [List.filterMap_append, List.length_append, List.countP_append, ha.errors, hb.errors]
  · rw [List.flatMap_append, List.length_append, List.countP_append, samplesA, samplesB]
    simp
  · rw [List.filterMap_append, List.filterMap_append, List.length_append, List.countP_append,
      ha.warnings, hb.warnings]
  · rw [List.filterMap_append, List.filterMap_append]
    exact ha.complaints.append hb.complaints

/-- The figures of workers side by side are the sums of theirs. -/
lemma figures_sum {counts : List Nat} {logs : List (WorkLog π ρ)}
    (h : List.Forall₂ (Worked true request) counts logs) :
    Figures counts.sum [] ⟨logs.flatMap WorkLog.trace, resultsOf logs⟩ := by
  induction h with
  | nil => exact ⟨rfl, rfl, rfl, rfl, .slnil⟩
  | cons worked _ ih => exact worked.figures.append ih

/-- The first errors that are counted are as many as there may be. -/
lemma countP_range_one (limit n : Nat) :
    (List.range' 1 n).countP (· ≤ limit) = min limit n := by
  induction n with
  | zero => simp
  | succ n ih =>
    rw [List.range'_concat, List.countP_append, ih, List.countP_singleton]
    split <;> simp_all <;> omega

/-! ## A run -/

variable {t : Target σ π ρ} {clock : Clock} {config : Config} {s s' : Arena σ π ρ} {result : Result}

lemma Config.concurrency_of_valid (valid : config.validate = .ok ()) : config.concurrency ≠ 0 := by
  intro none
  rw [validate, if_pos none] at valid
  cases valid

/-- A run that succeeds has found the target, warmed up and measured. -/
lemma run_runBenchmark (h : (runBenchmark (Stage.ofTarget (n := Id) t clock) request config).run s =
    (.ok result, s')) :
    config.concurrency ≠ 0 ∧ ∃ s₁ s₂ phase, s.probe t = (.ok (), s₁) ∧
      s₂ = ((warmUp (Stage.ofTarget (n := Id) t clock) request config).run s₁).2 ∧
      Arena.together t clock ((distribute config.requests config.concurrency).map
        (worker true request)) s₂ = (phase, s') ∧ result = .ofPhase config phase := by
  unfold runBenchmark at h
  cases valid : config.validate with
  | error e =>
    rw [valid] at h
    cases h
  | ok _ =>
    rw [valid] at h
    rcases probed : s.probe t with ⟨_ | _, s₁⟩
    · have run : ((Stage.ofTarget (n := Id) t clock).run (.probe .finish)).run s = _ := probed
      simp only [StateT.run_bind, run] at h
      cases h
    · have run : ((Stage.ofTarget (n := Id) t clock).run (.probe .finish)).run s = _ := probed
      simp only [StateT.run_bind, run] at h
      cases h
      exact ⟨Config.concurrency_of_valid valid, s₁, _, _, rfl, rfl, rfl, rfl⟩

/-- The arena when workers begin that are started together. -/
def Arena.cleared (s : Arena σ π ρ) : Arena σ π ρ :=
  { s with errors := 0, samples := [], schedules := s.schedules.drop 1 }

/-- Workers side by side leave their traces merged in some order. -/
lemma together_course {workers : List (Procedure π ρ Unit)} {phase : Phase}
    (h : Arena.together t clock workers s = (phase, s')) :
    ∃ (stop : Arena σ π ρ) (traces : List (List (Step π ρ))) (steps : List (Step π ρ)),
      MakeAll workers traces ∧ steps.Perm traces.flatten ∧
      (s.cleared.readClock clock).2.Course t clock steps stop ∧ phase.samples = stop.samples ∧
      phase.errors = stop.errors ∧ s' = (stop.readClock clock).2 := by
  obtain ⟨traces, steps, all, merged, course⟩ := Procedure.interleave_trace t clock
    (s.schedules.headD []) workers (s.cleared.readClock clock).2
  cases h
  exact ⟨_, traces, steps, all, merged, course, rfl, rfl, rfl⟩

/-- The warmup starts workers with equal shares, unless the share is zero. -/
lemma run_warmUp (t : Target σ π ρ) (clock : Clock) (request : Request π) (config : Config)
    (s : Arena σ π ρ) :
    (warmUp (Stage.ofTarget (n := Id) t clock) request config).run s = ((),
      if config.warmupPerWorker = 0 then s
      else (Arena.together t clock (List.replicate config.concurrency
        (worker false request config.warmupPerWorker)) s).2) := by
  unfold warmUp
  split
  · rename_i none
    rw [if_neg (not_not.2 none)]
    rfl
  · rename_i some
    rw [if_pos some]
    rfl

lemma traces_unmeasured {counts : List Nat} {logs : List (WorkLog π ρ)}
    (h : List.Forall₂ (Worked false request) counts logs) :
    (logs.map WorkLog.trace).flatten.filterMap Step.warning? = [] := by
  induction h with
  | nil => rfl
  | cons worked _ ih =>
    obtain ⟨opened, steps, trace, requested⟩ := worked
    rw [List.map_cons, List.flatten_cons, List.filterMap_append, ih, trace,
      List.filterMap_cons_none rfl, requested.unmeasured]
    rfl

/-- The warmup gives no warnings. -/
lemma warnings_warmUp :
    ((warmUp (Stage.ofTarget (n := Id) t clock) request config).run s).2.warnings = s.warnings := by
  rw [run_warmUp]
  split
  · rfl
  · rcases together : Arena.together t clock
      (List.replicate config.concurrency (worker false request config.warmupPerWorker)) s with
      ⟨phase, s'⟩
    obtain ⟨stop, traces, steps, all, merged, course, -, -, rfl⟩ := together_course together
    rw [← List.map_replicate] at all
    obtain ⟨logs, worked, rfl⟩ := makeAll_workers all
    have none : steps.filterMap Step.warning? = [] := by
      have := merged.filterMap Step.warning?
      rwa [traces_unmeasured worked, List.perm_nil] at this
    change stop.warnings = s.warnings
    rw [course.warnings, none, List.append_nil]
    rfl

/-- Workers side by side have each their share of the requests; their steps, merged in some order,
lead from the one arena, where nothing is counted yet, to the other. -/
structure SideBySide (t : Target σ π ρ) (clock : Clock) (request : Request π) (shares : List Nat)
    (logs : List (WorkLog π ρ)) (start stop : Arena σ π ρ) : Prop where
  worked : List.Forall₂ (Worked true request) shares logs
  course : ∃ steps, steps.Perm (logs.flatMap WorkLog.trace) ∧ start.Course t clock steps stop
  errors : start.errors = 0
  samples : start.samples = []

namespace SideBySide

variable {shares : List Nat} {logs : List (WorkLog π ρ)} {start stop : Arena σ π ρ}

/-- The samples are those that the workers hand in, in some order. -/
lemma samples_perm (h : SideBySide t clock request shares logs start stop) :
    stop.samples.Perm (samplesOf logs) := by
  obtain ⟨steps, merged, course⟩ := h.course
  rw [course.samples, h.samples, List.nil_append, samplesOf, ← List.flatMap_assoc]
  exact merged.flatMap_right Step.deposited

/-- There is a sample for each call that succeeded. -/
lemma length_samples (h : SideBySide t clock request shares logs start stop) :
    stop.samples.length = (resultsOf logs).countP succeeded := by
  have summed := (figures_sum h.worked).samples
  rw [List.flatMap_assoc, List.length_nil, Nat.zero_add] at summed
  rw [h.samples_perm.length_eq, ← summed]
  rfl

/-- Since nothing was counted before, the workers together count from one on. -/
lemma counts_eq (h : SideBySide t clock request shares logs start stop)
    {steps : List (Step π ρ)} (course : start.Course t clock steps stop) :
    steps.filterMap Step.count? = List.range' 1 stop.errors := by
  rw [course.counts.1, h.errors, Nat.zero_add, Nat.sub_zero]

/-- There is a count for each call that failed. -/
lemma errors_eq (h : SideBySide t clock request shares logs start stop) :
    stop.errors = (resultsOf logs).countP (!succeeded ·) := by
  obtain ⟨steps, merged, course⟩ := h.course
  rw [← (figures_sum h.worked).errors, ← (merged.filterMap Step.count?).length_eq,
    h.counts_eq course, List.length_range']

/-- There is a warning for each of the first few counts, whoever made them. -/
lemma length_warnings (h : SideBySide t clock request shares logs start stop)
    {steps : List (Step π ρ)} (merged : steps.Perm (logs.flatMap WorkLog.trace))
    (course : start.Course t clock steps stop) :
    (steps.filterMap Step.warning?).length = min reportedErrors stop.errors := by
  rw [(merged.filterMap Step.warning?).length_eq, (figures_sum h.worked).warnings,
    ← (merged.filterMap Step.count?).countP_eq, h.counts_eq course, countP_range_one]

end SideBySide

/-- The report of a run agrees with the results of the measured calls. -/
structure Accounted (config : Config) (result : Result) (logs : List (WorkLog π ρ))
    (given : List String) : Prop where
  attempted : result.attempted = config.requests
  requests : (resultsOf logs).length = config.requests
  total : result.sampleCount + result.errorCount = config.requests
  samples : result.sampleCount = (resultsOf logs).countP succeeded
  errors : result.errorCount = (resultsOf logs).countP (!succeeded ·)
  warnings : given.length = min reportedErrors result.errorCount
  /-- No failed call is reported twice. -/
  complaints : given.Subperm ((resultsOf logs).filterMap complaint?)
  latency : ∀ samples, samples.Perm (samplesOf logs) →
    result.latency = Latency.Summary.ofSamples samples

/-- However the target answers and in whatever order the workers make their steps, a run that
succeeds reports what came of the measured calls, and of no others. -/
theorem runBenchmark_accounted
    (h : (runBenchmark (Stage.ofTarget (n := Id) t clock) request config).run s =
      (.ok result, s')) :
    ∃ start stop logs warnings,
      SideBySide t clock request (distribute config.requests config.concurrency) logs start stop ∧
      s' = (stop.readClock clock).2 ∧ s'.warnings = s.warnings ++ warnings ∧
      Accounted config result logs warnings := by
  obtain ⟨someWorker, s₁, s₂, phase, probed, rfl, measured, rfl⟩ := run_runBenchmark h
  obtain ⟨stop, traces, steps, all, merged, course, samples, errors, rfl⟩ :=
    together_course measured
  obtain ⟨logs, worked, rfl⟩ := makeAll_workers all
  rw [← List.flatMap_def] at merged
  have figures := figures_sum worked
  rw [sum_distribute config.requests someWorker] at figures
  have beside : SideBySide t clock request (distribute config.requests config.concurrency) logs
      _ stop := ⟨worked, ⟨steps, merged, course⟩, rfl, rfl⟩
  refine ⟨_, stop, logs, steps.filterMap Step.warning?, beside, rfl, ?_, ?_⟩
  · change stop.warnings = _
    rw [course.warnings]
    exact congrArg (· ++ _) (warnings_warmUp.trans (Arena.kept_of_probe probed).warnings)
  · exact {
      attempted := rfl
      requests := figures.requests
      total := by
        change phase.samples.length + phase.errors = config.requests
        rw [samples, errors, beside.length_samples, beside.errors_eq, ← figures.requests]
        simpa using (List.length_eq_countP_add_countP succeeded (l := resultsOf logs)).symm
      samples := by
        change phase.samples.length = _
        rw [samples, beside.length_samples]
      errors := by
        change phase.errors = _
        rw [errors, beside.errors_eq]
      warnings := by
        change _ = min reportedErrors phase.errors
        rw [beside.length_warnings merged course, errors]
      complaints := (merged.filterMap Step.warning?).subperm.trans figures.complaints.subperm
      latency := by
        intro others same
        change Latency.Summary.ofSamples phase.samples = _
        rw [samples]
        exact ofSamples_of_perm (beside.samples_perm.trans same.symm) }

/-- A run of two workers, some of whose calls fail in the warmup and in the measured phase. -/
theorem runBenchmark_accounted_everyThird :
    ∃ result s', (runBenchmark (Stage.ofTarget (n := Id) everyThird (5 * ·)) ⟨"echo", ()⟩
        ⟨9, 2, 2⟩).run (Arena.start () [[0, 1, 0, 0, 1, 1], [1, 0, 0, 1, 1]]) = (.ok result, s') ∧
      result.sampleCount = 4 ∧ result.errorCount = 5 ∧
      ∃ start stop logs warnings,
        SideBySide everyThird (5 * ·) ⟨"echo", ()⟩ (distribute 9 2) logs start stop ∧
        s' = (stop.readClock (5 * ·)).2 ∧ s'.warnings = [] ++ warnings ∧
        Accounted ⟨9, 2, 2⟩ result logs warnings := by
  have accounted {result : Result} {s' : Arena Unit Unit Unit}
      (h : (runBenchmark (Stage.ofTarget (n := Id) everyThird (5 * ·)) ⟨"echo", ()⟩ ⟨9, 2, 2⟩).run
        (Arena.start () [[0, 1, 0, 0, 1, 1], [1, 0, 0, 1, 1]]) = (.ok result, s')) :=
    runBenchmark_accounted h
  exact ⟨_, _, rfl, rfl, rfl, accounted rfl⟩

end PerfGate.Load
