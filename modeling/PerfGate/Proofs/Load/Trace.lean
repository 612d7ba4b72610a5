import Mathlib.Tactic.Lemma
import Mathlib.Data.List.Forall2
import PerfGate.Load.Procedure

/-!
# Traces of procedures

A `Step` is an atomic step together with the answer that it got. `Procedure.Makes` says which steps
a procedure makes to its end, and `Arena.Moves` and `Arena.Course` what steps do to the arena.

Whatever is performed leaves a trace: `run_trace` for one procedure, `interleave_trace` for several
side by side, whose traces are merged in some order. The remaining lemmas say what a course adds to
each part of the arena.
-/

namespace PerfGate.Load

variable {σ π ρ α β : Type}

/-- An atomic step of a worker, with its answer. -/
inductive Step (π ρ : Type) where
  | connect (opened : Except CallError Nat)
  | probe (result : Except CallError Unit)
  | call (conn : Nat) (request : Request π) (result : Except CallError ρ)
  | readClock (time : Nat)
  | countError (count : Nat)
  | warn (message : String)
  | deposit (samples : List Nat)

/-- The procedure makes these steps, one after the other, and ends with that value. -/
inductive Procedure.Makes : Procedure π ρ α → List (Step π ρ) → α → Prop
  | finish (a : α) : Makes (.finish a) [] a
  | connect {next : Except CallError Nat → Procedure π ρ α} {r : Except CallError Nat}
      {steps : List (Step π ρ)} {a : α} (rest : (next r).Makes steps a) :
      Makes (.connect next) (.connect r :: steps) a
  | probe {next : Except CallError Unit → Procedure π ρ α} {r : Except CallError Unit}
      {steps : List (Step π ρ)} {a : α} (rest : (next r).Makes steps a) :
      Makes (.probe next) (.probe r :: steps) a
  | call {conn : Nat} {request : Request π} {next : Except CallError ρ → Procedure π ρ α}
      {r : Except CallError ρ} {steps : List (Step π ρ)} {a : α} (rest : (next r).Makes steps a) :
      Makes (.call conn request next) (.call conn request r :: steps) a
  | readClock {next : Nat → Procedure π ρ α} {time : Nat} {steps : List (Step π ρ)} {a : α}
      (rest : (next time).Makes steps a) : Makes (.readClock next) (.readClock time :: steps) a
  | countError {next : Nat → Procedure π ρ α} {count : Nat} {steps : List (Step π ρ)} {a : α}
      (rest : (next count).Makes steps a) : Makes (.countError next) (.countError count :: steps) a
  | warn {message : String} {next : Procedure π ρ α} {steps : List (Step π ρ)} {a : α}
      (rest : next.Makes steps a) : Makes (.warn message next) (.warn message :: steps) a
  | deposit {samples : List Nat} {next : Procedure π ρ α} {steps : List (Step π ρ)} {a : α}
      (rest : next.Makes steps a) : Makes (.deposit samples next) (.deposit samples :: steps) a

/-- What a step does to the arena. -/
inductive Arena.Moves (t : Target σ π ρ) (clock : Clock) :
    Arena σ π ρ → Step π ρ → Arena σ π ρ → Prop
  | connect {s s' : Arena σ π ρ} {r : Except CallError Nat} (h : s.connect t = (r, s')) :
      Moves t clock s (.connect r) s'
  | probe {s s' : Arena σ π ρ} {r : Except CallError Unit} (h : s.probe t = (r, s')) :
      Moves t clock s (.probe r) s'
  | call {s s' : Arena σ π ρ} {conn : Nat} {request : Request π} {r : Except CallError ρ}
      (h : s.call t conn request = (r, s')) : Moves t clock s (.call conn request r) s'
  | readClock (s : Arena σ π ρ) :
      Moves t clock s (.readClock (s.readClock clock).1) (s.readClock clock).2
  | countError (s : Arena σ π ρ) :
      Moves t clock s (.countError s.countError.1) s.countError.2
  | warn (s : Arena σ π ρ) (message : String) : Moves t clock s (.warn message) (s.warn message)
  | deposit (s : Arena σ π ρ) (samples : List Nat) :
      Moves t clock s (.deposit samples) (s.deposit samples)

/-- What several steps do to the arena, one after the other. -/
inductive Arena.Course (t : Target σ π ρ) (clock : Clock) :
    Arena σ π ρ → List (Step π ρ) → Arena σ π ρ → Prop
  | nil (s : Arena σ π ρ) : Course t clock s [] s
  | cons {s s' s'' : Arena σ π ρ} {step : Step π ρ} {steps : List (Step π ρ)}
      (first : Moves t clock s step s') (rest : Course t clock s' steps s'') :
      Course t clock s (step :: steps) s''

variable {t : Target σ π ρ} {clock : Clock} {s s' s'' : Arena σ π ρ} {step : Step π ρ}
  {steps steps' : List (Step π ρ)}

namespace Procedure

/-- The steps of one procedure and then another are those of the one and then those of the other. -/
lemma makes_bind {p : Procedure π ρ α} {f : α → Procedure π ρ β} {b : β}
    (h : (p.bind f).Makes steps b) :
    ∃ first rest a, steps = first ++ rest ∧ p.Makes first a ∧ (f a).Makes rest b := by
  induction p generalizing steps with
  | finish a => exact ⟨[], steps, a, rfl, .finish a, h⟩
  | connect next ih =>
    cases h with
    | connect h =>
      obtain ⟨first, rest, a, rfl, hp, hf⟩ := ih _ h
      exact ⟨_ :: first, rest, a, rfl, .connect hp, hf⟩
  | probe next ih =>
    cases h with
    | probe h =>
      obtain ⟨first, rest, a, rfl, hp, hf⟩ := ih _ h
      exact ⟨_ :: first, rest, a, rfl, .probe hp, hf⟩
  | call conn request next ih =>
    cases h with
    | call h =>
      obtain ⟨first, rest, a, rfl, hp, hf⟩ := ih _ h
      exact ⟨_ :: first, rest, a, rfl, .call hp, hf⟩
  | readClock next ih =>
    cases h with
    | readClock h =>
      obtain ⟨first, rest, a, rfl, hp, hf⟩ := ih _ h
      exact ⟨_ :: first, rest, a, rfl, .readClock hp, hf⟩
  | countError next ih =>
    cases h with
    | countError h =>
      obtain ⟨first, rest, a, rfl, hp, hf⟩ := ih _ h
      exact ⟨_ :: first, rest, a, rfl, .countError hp, hf⟩
  | warn message next ih =>
    cases h with
    | warn h =>
      obtain ⟨first, rest, a, rfl, hp, hf⟩ := ih h
      exact ⟨_ :: first, rest, a, rfl, .warn hp, hf⟩
  | deposit samples next ih =>
    cases h with
    | deposit h =>
      obtain ⟨first, rest, a, rfl, hp, hf⟩ := ih h
      exact ⟨_ :: first, rest, a, rfl, .deposit hp, hf⟩

/-- A procedure that is performed leaves a trace. -/
theorem run_trace (t : Target σ π ρ) (clock : Clock) (p : Procedure π ρ α) (s : Arena σ π ρ) :
    ∃ steps, p.Makes steps (p.run t clock s).1 ∧ s.Course t clock steps (p.run t clock s).2 := by
  induction p generalizing s with
  | finish a => exact ⟨[], .finish a, .nil s⟩
  | connect next ih =>
    obtain ⟨steps, makes, course⟩ := ih (s.connect t).1 (s.connect t).2
    exact ⟨_, .connect makes, .cons (.connect rfl) course⟩
  | probe next ih =>
    obtain ⟨steps, makes, course⟩ := ih (s.probe t).1 (s.probe t).2
    exact ⟨_, .probe makes, .cons (.probe rfl) course⟩
  | call conn request next ih =>
    obtain ⟨steps, makes, course⟩ := ih (s.call t conn request).1 (s.call t conn request).2
    exact ⟨_, .call makes, .cons (.call rfl) course⟩
  | readClock next ih =>
    obtain ⟨steps, makes, course⟩ := ih (s.readClock clock).1 (s.readClock clock).2
    exact ⟨_, .readClock makes, .cons (.readClock s) course⟩
  | countError next ih =>
    obtain ⟨steps, makes, course⟩ := ih s.countError.1 s.countError.2
    exact ⟨_, .countError makes, .cons (.countError s) course⟩
  | warn message next ih =>
    obtain ⟨steps, makes, course⟩ := ih (s.warn message)
    exact ⟨_, .warn makes, .cons (.warn s message) course⟩
  | deposit samples next ih =>
    obtain ⟨steps, makes, course⟩ := ih (s.deposit samples)
    exact ⟨_, .deposit makes, .cons (.deposit s samples) course⟩

/-- The first step of a procedure, if it makes one, goes in front of the steps that it makes
afterwards. -/
lemma step_trace (t : Target σ π ρ) (clock : Clock) (p : Procedure π ρ α) (s : Arena σ π ρ) :
    p.step t clock s = (p, s) ∨
      ∃ step, s.Moves t clock step (p.step t clock s).2 ∧
        ∀ steps a, (p.step t clock s).1.Makes steps a → p.Makes (step :: steps) a := by
  cases p with
  | finish a => exact .inl rfl
  | connect next => exact .inr ⟨_, .connect rfl, fun _ _ h => .connect h⟩
  | probe next => exact .inr ⟨_, .probe rfl, fun _ _ h => .probe h⟩
  | call conn request next => exact .inr ⟨_, .call rfl, fun _ _ h => .call h⟩
  | readClock next => exact .inr ⟨_, .readClock s, fun _ _ h => .readClock h⟩
  | countError next => exact .inr ⟨_, .countError s, fun _ _ h => .countError h⟩
  | warn message next => exact .inr ⟨_, .warn s message, fun _ _ h => .warn h⟩
  | deposit samples next => exact .inr ⟨_, .deposit s samples, fun _ _ h => .deposit h⟩

end Procedure

lemma Arena.Course.append (first : s.Course t clock steps s')
    (rest : s'.Course t clock steps' s'') : s.Course t clock (steps ++ steps') s'' := by
  induction first with
  | nil s => exact rest
  | cons move _ ih => exact .cons move (ih rest)

lemma Arena.Course.split (h : s.Course t clock (steps ++ steps') s'') :
    ∃ s', s.Course t clock steps s' ∧ s'.Course t clock steps' s'' := by
  induction steps generalizing s with
  | nil => exact ⟨s, .nil s, h⟩
  | cons step steps ih =>
    cases h with
    | cons move h =>
      obtain ⟨s', first, rest⟩ := ih h
      exact ⟨s', .cons move first, rest⟩

/-- Every worker makes the steps of its trace, to its end. -/
def MakeAll (workers : List (Procedure π ρ Unit)) (traces : List (List (Step π ρ))) : Prop :=
  List.Forall₂ (fun worker trace => worker.Makes trace ()) workers traces

namespace Procedure

/-- Workers that are performed one after the other leave one trace after the other. -/
lemma foldl_run_trace (t : Target σ π ρ) (clock : Clock) (workers : List (Procedure π ρ Unit))
    (s : Arena σ π ρ) :
    ∃ traces, MakeAll workers traces ∧
      s.Course t clock traces.flatten (workers.foldl (fun s w => (w.run t clock s).2) s) := by
  induction workers generalizing s with
  | nil => exact ⟨[], .nil, .nil s⟩
  | cons worker workers ih =>
    obtain ⟨trace, makes, course⟩ := run_trace t clock worker s
    obtain ⟨traces, all, rest⟩ := ih (worker.run t clock s).2
    exact ⟨trace :: traces, .cons makes all, course.append rest⟩

/-- A step that one worker makes first goes in front of its trace, and of the merged trace. -/
lemma makeAll_set {workers : List (Procedure π ρ Unit)} {i : Nat}
    {worker worker' : Procedure π ρ Unit} {traces : List (List (Step π ρ))}
    (hi : workers[i]? = some worker)
    (first : ∀ steps a, worker'.Makes steps a → worker.Makes (step :: steps) a)
    (h : MakeAll (workers.set i worker') traces) :
    ∃ traces', MakeAll workers traces' ∧ traces'.flatten.Perm (step :: traces.flatten) := by
  induction workers generalizing i traces with
  | nil => cases hi
  | cons w workers ih =>
    cases i with
    | zero =>
      cases hi
      cases h with
      | cons makes all => exact ⟨_, .cons (first _ _ makes) all, .refl _⟩
    | succ i =>
      cases h with
      | @cons _ trace _ traces makes all =>
        obtain ⟨traces', all', merged⟩ := ih hi all
        exact ⟨trace :: traces', .cons makes all',
          (merged.append_left trace).trans List.perm_middle⟩

/-- Workers that are performed side by side leave their traces merged in some order. -/
theorem interleave_trace (t : Target σ π ρ) (clock : Clock) (schedule : Schedule)
    (workers : List (Procedure π ρ Unit)) (s : Arena σ π ρ) :
    ∃ traces steps, MakeAll workers traces ∧ steps.Perm traces.flatten ∧
      s.Course t clock steps (interleave t clock schedule workers s) := by
  induction schedule generalizing workers s with
  | nil =>
    -- when the schedule ends, the workers are performed to their ends, one after the other
    obtain ⟨traces, all, course⟩ := foldl_run_trace t clock workers s
    exact ⟨traces, _, all, .refl _, course⟩
  | cons i schedule ih =>
    rw [interleave]
    split
    · rename_i worker hi
      obtain ⟨traces, steps, all, merged, course⟩ :=
        ih (workers.set i (worker.step t clock s).1) (worker.step t clock s).2
      rcases step_trace t clock worker s with finished | ⟨step, move, first⟩
      · -- a worker at its end makes no step, and takes no place in the merged trace
        rw [finished] at all course ⊢
        obtain ⟨_, rfl⟩ := List.getElem?_eq_some_iff.1 hi
        rw [List.set_getElem_self] at all
        exact ⟨traces, steps, all, merged, course⟩
      · obtain ⟨traces', all', merged'⟩ := makeAll_set hi first all
        exact ⟨traces', step :: steps, all', (merged.cons step).trans merged'.symm,
          .cons move course⟩
    · exact ih workers s

end Procedure

/-! ## What is left in the arena -/

namespace Step

/-- The count that was the answer, if the step counted an error. -/
def count? : Step π ρ → Option Nat
  | countError count => some count
  | _ => none

/-- The samples that the step handed in. -/
def deposited : Step π ρ → List Nat
  | deposit samples => samples
  | _ => []

/-- The warning that the step gave, if it gave one. -/
def warning? : Step π ρ → Option String
  | warn message => some message
  | _ => none

/-- What the step asked of the target. What a probe asks depends on the target. -/
def event? : Step π ρ → Option (Event π ρ)
  | connect opened => some (.connected opened)
  | call conn request result => some (.called conn request result)
  | _ => none

/-- The step looked whether the target can be reached. -/
def isProbe : Step π ρ → Bool
  | probe _ => true
  | _ => false

/-- A step that is known to ask the target does nothing else. -/
lemma quiet_of_asks {step : Step π ρ} (h : step.event?.isSome) : step.count? = none ∧
    step.deposited = [] ∧ step.warning? = none ∧ step.isProbe = false := by
  cases step with
  | connect | call => exact ⟨rfl, rfl, rfl, rfl⟩
  | _ => cases h

end Step

namespace Arena

lemma connect_error {e : CallError} (h : s.connect t = (.error e, s')) :
    s' = { s with target := s'.target, history := .connected (.error e) :: s.history } := by
  unfold connect at h
  split at h
  rename_i answer target asked
  cases answer <;> cases h
  rfl

lemma connect_ok {conn : Nat} (h : s.connect t = (.ok conn, s')) : conn = s.opened ∧
    s' = { s with
      target := s'.target, opened := conn + 1, history := .connected (.ok conn) :: s.history } := by
  unfold connect at h
  split at h
  rename_i answer target asked
  cases answer <;> cases h
  exact ⟨rfl, rfl⟩

/-- What asking the target leaves as it was. -/
structure Kept (s s' : Arena σ π ρ) : Prop where
  errors : s'.errors = s.errors
  samples : s'.samples = s.samples
  warnings : s'.warnings = s.warnings

lemma kept_of_connect {r : Except CallError Nat} (h : s.connect t = (r, s')) : s.Kept s' := by
  cases r with
  | error e =>
    rw [connect_error h]
    exact ⟨rfl, rfl, rfl⟩
  | ok conn =>
    obtain ⟨rfl, e⟩ := connect_ok h
    rw [e]
    exact ⟨rfl, rfl, rfl⟩

lemma kept_of_probe {r : Except CallError Unit} (h : s.probe t = (r, s')) : s.Kept s' := by
  unfold probe at h
  split at h
  · cases h
    exact ⟨rfl, rfl, rfl⟩
  · cases h
    exact kept_of_connect rfl

lemma kept_of_call {conn : Nat} {request : Request π} {r : Except CallError ρ}
    (h : s.call t conn request = (r, s')) : s.Kept s' := by
  cases h
  exact ⟨rfl, rfl, rfl⟩

lemma opened_of_connect_error {e : CallError} (h : s.connect t = (.error e, s')) :
    s'.opened = s.opened := by
  rw [connect_error h]

lemma opened_of_connect_ok {conn : Nat} (h : s.connect t = (.ok conn, s')) :
    conn = s.opened ∧ s'.opened = s.opened + 1 := by
  obtain ⟨rfl, e⟩ := connect_ok h
  rw [e]
  exact ⟨rfl, rfl⟩

lemma opened_of_call {conn : Nat} {request : Request π} {r : Except CallError ρ}
    (h : s.call t conn request = (r, s')) : s'.opened = s.opened := by
  cases h
  rfl

lemma Moves.history (h : s.Moves t clock step s') (known : step.isProbe = false) :
    s'.history = step.event?.toList ++ s.history := by
  cases h with
  | @connect _ r h =>
    cases r with
    | error e =>
      rw [connect_error h]
      rfl
    | ok conn =>
      rw [(connect_ok h).2]
      rfl
  | probe h => cases known
  | call h =>
    cases h
    rfl
  | _ => rfl

lemma Moves.samples (h : s.Moves t clock step s') : s'.samples = s.samples ++ step.deposited := by
  cases h with
  | connect h => simp [(kept_of_connect h).samples, Step.deposited]
  | probe h => simp [(kept_of_probe h).samples, Step.deposited]
  | call h => simp [(kept_of_call h).samples, Step.deposited]
  | deposit => rfl
  | _ => exact (List.append_nil _).symm

lemma Moves.warnings (h : s.Moves t clock step s') :
    s'.warnings = s.warnings ++ step.warning?.toList := by
  cases h with
  | connect h => simp [(kept_of_connect h).warnings, Step.warning?]
  | probe h => simp [(kept_of_probe h).warnings, Step.warning?]
  | call h => simp [(kept_of_call h).warnings, Step.warning?]
  | warn => rfl
  | _ => exact (List.append_nil _).symm

/-- An error is counted as one more than before; no other step counts. -/
lemma Moves.errors (h : s.Moves t clock step s') :
    step.count? = none ∧ s'.errors = s.errors ∨
      step.count? = some (s.errors + 1) ∧ s'.errors = s.errors + 1 := by
  cases h with
  | connect h => exact .inl ⟨rfl, (kept_of_connect h).errors⟩
  | probe h => exact .inl ⟨rfl, (kept_of_probe h).errors⟩
  | call h => exact .inl ⟨rfl, (kept_of_call h).errors⟩
  | countError => exact .inr ⟨rfl, rfl⟩
  | _ => exact .inl ⟨rfl, rfl⟩

namespace Course

lemma history (h : s.Course t clock steps s') (known : ∀ step ∈ steps, step.isProbe = false) :
    s'.history = (steps.filterMap Step.event?).reverse ++ s.history := by
  induction h with
  | nil s => rfl
  | @cons s s₁ _ step steps move _ ih =>
    obtain ⟨first, rest⟩ := List.forall_mem_cons.1 known
    rw [ih rest, move.history first]
    cases h : step.event? <;> simp [h]

lemma samples (h : s.Course t clock steps s') :
    s'.samples = s.samples ++ steps.flatMap Step.deposited := by
  induction h with
  | nil s => simp
  | cons move _ ih => rw [ih, move.samples, List.flatMap_cons, List.append_assoc]

lemma warnings (h : s.Course t clock steps s') :
    s'.warnings = s.warnings ++ steps.filterMap Step.warning? := by
  induction h with
  | nil s => simp
  | @cons s s₁ _ step steps move _ ih =>
    rw [ih, move.warnings]
    cases h : step.warning? <;> simp [h]

/-- What is numbered from a total on that grows by one each time is numbered one by one. -/
lemma numbered {number? : Step π ρ → Option Nat} {total : Arena σ π ρ → Nat} {offset : Nat}
    (each : ∀ {s s' : Arena σ π ρ}, ∀ step ∈ steps, s.Moves t clock step s' →
      number? step = none ∧ total s' = total s ∨
        number? step = some (total s + offset) ∧ total s' = total s + 1)
    (h : s.Course t clock steps s') :
    steps.filterMap number? = List.range' (total s + offset) (total s' - total s) ∧
      total s ≤ total s' := by
  induction h with
  | nil s => simp
  | @cons s s₁ s' step steps move _ ih =>
    obtain ⟨ih, le⟩ := ih fun step mem => each step (List.mem_cons_of_mem _ mem)
    rcases each step List.mem_cons_self move with ⟨none, e⟩ | ⟨one, e⟩
    · rw [e] at ih le
      exact ⟨by rw [List.filterMap_cons_none none, ih], le⟩
    · rw [e, Nat.add_right_comm] at ih
      have more : total s' - total s = total s' - (total s + 1) + 1 := by omega
      refine ⟨?_, by omega⟩
      rw [List.filterMap_cons_some one, ih, more, List.range'_succ]

/-- Errors are counted one by one. -/
lemma counts (h : s.Course t clock steps s') :
    steps.filterMap Step.count? = List.range' (s.errors + 1) (s'.errors - s.errors) ∧
      s.errors ≤ s'.errors :=
  h.numbered fun _ _ move => move.errors

end Course

end Arena

end PerfGate.Load
