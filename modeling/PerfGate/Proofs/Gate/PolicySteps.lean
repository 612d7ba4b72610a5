import PerfGate.Proofs.Gate.ValidPolicy

/-!
# Building a policy step by step

A policy starts with a default and goes through overrides and relaxed tiers in any order. A step
that is refused leaves the policy as it was (`after`), so a sequence of steps always ends with a
policy (`run`). What a step that succeeds does is said once, for the thresholds of all names in
`Step.effective_of_perform`, for the default in `Step.default_of_perform`. By induction over the
steps the threshold of a name is then the percentage of the last step that succeeded and named it
(`effective_run`).
-/

namespace PerfGate.Policy

open Std

/-- A step of building a policy: the override of a name, or the relaxed tier. -/
inductive Step
  | override (name : String) (pct : Float)
  | relax (pct : Option Float) (names : Option (List String))

namespace Step

/-- The policy with the step done. What a step logs is of no interest here. -/
def perform (p : Policy) : Step → Except Failure Policy
  | override name pct => p.override name pct
  | relax pct names => (p.relax pct names).value

/-- The names that the step mentions. -/
def names : Step → List String
  | override name _ => [name]
  | relax _ names => names.getD []

/-- The percentage that the step mentions. -/
def percentage : Step → Option Float
  | override _ pct => some pct
  | relax pct _ => pct

end Step

/-- The policy after a step, which is the policy before it if the step is refused. -/
def after (p : Policy) (step : Step) : Policy :=
  match step.perform p with
  | .ok q => q
  | .error _ => p

/-- The policy after one step after the other. -/
def run (p : Policy) (steps : List Step) : Policy :=
  steps.foldl after p

/-- The steps that succeed, each on the policy that it meets. -/
def succeeding (p : Policy) : List Step → List Step
  | [] => []
  | step :: steps =>
    match step.perform p with
    | .ok q => step :: succeeding q steps
    | .error _ => succeeding p steps

/-- The last of the succeeding steps that names the name. -/
def lastNaming (p : Policy) (steps : List Step) (name : String) : Option Step :=
  ((succeeding p steps).filter fun step => name ∈ step.names).getLast?

/-! ## One step -/

variable {p q : Policy} {name : String} {pct : Float}

lemma after_of_ok {step : Step} (h : step.perform p = .ok q) : after p step = q := by
  rw [after, h]

lemma after_of_error {step : Step} {e : Failure} (h : step.perform p = .error e) :
    after p step = p := by
  rw [after, h]

lemma default_of_override (h : p.override name pct = .ok q) : q.default = p.default := by
  obtain ⟨-, rfl⟩ := override_inversion h
  rfl

/-- A relaxed tier acts on all its names or is refused. -/
lemma effective_of_overrides {names : List String}
    (h : names.foldlM (fun policy name => policy.override name pct) p = .ok q) (other : String) :
    q.effective other = if other ∈ names then pct else p.effective other := by
  by_cases valid : isValidPct pct
  · obtain ⟨q', done, effective⟩ := overrides_of_isValidPct p names valid
    rw [done] at h
    cases h
    exact effective other
  · cases names with
    | nil =>
      cases h
      rfl
    | cons name names =>
      obtain ⟨reason, refused⟩ := overrides_of_not_isValidPct p (List.cons_ne_nil name names) valid
      rw [refused] at h
      cases h

lemma Step.default_of_perform {step : Step} (h : step.perform p = .ok q) :
    q.default = p.default := by
  cases step with
  | override name pct => exact default_of_override h
  | relax pct? names? =>
    obtain ⟨pct, names, rfl, rfl, overrides⟩ | ⟨rfl, rfl⟩ := relax_inversion h
    · exact overrides_induction (motive := fun r => r.default = p.default)
        (fun kept step => (default_of_override step).trans kept) rfl overrides
    · rfl

/-- A step that succeeds gives its percentage to the names that it mentions, and to no other. -/
lemma Step.effective_of_perform {step : Step} (h : step.perform p = .ok q) (name : String) :
    some (q.effective name) =
      if name ∈ step.names then step.percentage else some (p.effective name) := by
  cases step with
  | override other pct =>
    rw [effective_override h name]
    by_cases same : other = name
    · simp [Step.names, Step.percentage, same]
    · simp [Step.names, same, Ne.symm same]
  | relax pct? names? =>
    obtain ⟨pct, names, rfl, rfl, overrides⟩ | ⟨rfl, rfl⟩ := relax_inversion h
    · rw [effective_of_overrides overrides name]
      exact apply_ite some _ _ _
    · rfl

lemma IsValid.after (valid : p.IsValid) (step : Step) : (after p step).IsValid := by
  cases done : step.perform p with
  | error e =>
    rw [after_of_error done]
    exact valid
  | ok q =>
    rw [after_of_ok done]
    cases step with
    | override name pct => exact valid.of_override done
    | relax pct names => exact valid.of_relax done

lemma default_after (p : Policy) (step : Step) : (after p step).default = p.default := by
  cases done : step.perform p with
  | error e => rw [after_of_error done]
  | ok q =>
    rw [after_of_ok done]
    exact Step.default_of_perform done

/-- A name that a step does not mention keeps its threshold, whether the step succeeds or not. -/
lemma effective_after_of_not_mem {step : Step} (p : Policy) (other : name ∉ step.names) :
    (after p step).effective name = p.effective name := by
  cases done : step.perform p with
  | error e => rw [after_of_error done]
  | ok q =>
    rw [after_of_ok done]
    have kept := Step.effective_of_perform done name
    rw [if_neg other] at kept
    exact Option.some.inj kept

/-! ## All steps -/

lemma IsValid.run (valid : p.IsValid) (steps : List Step) : (run p steps).IsValid := by
  induction steps generalizing p with
  | nil => exact valid
  | cons step steps ih => exact ih (valid.after step)

lemma default_run (p : Policy) (steps : List Step) : (run p steps).default = p.default := by
  induction steps generalizing p with
  | nil => rfl
  | cons step steps ih => exact (ih (after p step)).trans (default_after p step)

/-- The threshold of a name is the percentage of the last succeeding step that names it, or the one
at the start. -/
lemma effective_run (p : Policy) (steps : List Step) (name : String) :
    some ((run p steps).effective name) =
      (lastNaming p steps name).elim (some (p.effective name)) Step.percentage := by
  induction steps generalizing p with
  | nil => rfl
  | cons step steps ih =>
    have rest := ih (after p step)
    cases done : step.perform p with
    | error e =>
      have skipped : lastNaming p (step :: steps) name = lastNaming p steps name := by
        rw [lastNaming, succeeding, done, lastNaming]
      rw [after_of_error done] at rest
      rw [skipped, ← rest, run, List.foldl_cons, after_of_error done, run]
    | ok q =>
      rw [after_of_ok done, Step.effective_of_perform done] at rest
      rw [run, List.foldl_cons, after_of_ok done, ← run, rest, lastNaming, lastNaming, succeeding,
        done]
      by_cases named : name ∈ step.names
      · -- a later step that names the name wins, and else this one is the last
        rw [if_pos named, List.filter_cons_of_pos (by simpa using named), List.getLast?_cons]
        cases (List.filter (fun step => decide (name ∈ step.names)) (succeeding q steps)).getLast?
          with
        | none => rfl
        | some later => rfl
      · rw [if_neg named, List.filter_cons_of_neg (by simpa using named)]

/-! ## The thresholds of a policy that is built -/

/-- Every percentage of the policy is finite and positive. -/
lemma IsValid.percentages (valid : p.IsValid) :
    (Decimal.isFinite p.default ∧ 0 < p.default) ∧
      ∀ o ∈ p.overrides, Decimal.isFinite o.2 ∧ 0 < o.2 := by
  refine ⟨by simpa [isValidPct] using valid.default, fun o mem => ?_⟩
  have found : p.overrideOf o.1 = some o.2 := ExtTreeMap.mem_toList_iff_getElem?_eq_some.1 mem
  simpa [isValidPct] using valid.override o.1 o.2 found

lemma run_append (p : Policy) (before later : List Step) :
    run p (before ++ later) = run (run p before) later :=
  List.foldl_append

/-- Whatever steps are taken from a policy without overrides, and whichever of them are refused:
the default stays, all percentages are finite and positive at all times, the threshold of a name is
the percentage of the last succeeding step that names it and else the default, and a step changes
the threshold of no name but those that it mentions. -/
theorem run_decided_by_last {start : Policy} (built : new pct = .ok start) (steps : List Step) :
    (∀ before, before <+: steps →
      (run start before).default = pct ∧
        (Decimal.isFinite (run start before).default ∧ 0 < (run start before).default) ∧
          ∀ o ∈ (run start before).overrides, Decimal.isFinite o.2 ∧ 0 < o.2) ∧
    (∀ name, some ((run start steps).effective name) =
      (lastNaming start steps name).elim (some pct) Step.percentage) ∧
    (∀ before step, before ++ [step] <+: steps → ∀ name, name ∉ step.names →
      (run start (before ++ [step])).effective name = (run start before).effective name) := by
  obtain ⟨-, fresh⟩ := new_inversion built
  refine ⟨fun before _ => ⟨?_, ((isValid_of_new built).run before).percentages⟩, fun name => ?_,
    fun before step _ name other => ?_⟩
  · rw [default_run, fresh]
  · have atStart : start.effective name = pct := by simp [fresh, effective, overrideOf]
    rw [effective_run, atStart]
  · rw [run_append]
    exact effective_after_of_not_mem (run start before) other

/-- Six steps of which two are refused: the override by zero, and the names without a percentage. -/
def sixSteps : List Step :=
  [.override "decode" 5, .relax (some 20) (some ["decode", "encode"]), .override "encode" 0,
    .relax none (some ["decode"]), .override "decode" 3, .relax (some 7) none]

/-- From a default of 10 percent the six steps leave the threshold of the name that was overridden
last at 3, the relaxed one at 20 and every other one at 10. -/
theorem run_decided_by_last_sixSteps :
    ∃ start, new 10 = .ok start ∧
      (run start sixSteps).effective "decode" = 3 ∧
        (run start sixSteps).effective "encode" = 20 ∧
          (run start sixSteps).effective "parse" = 10 := by
  have built : new 10 = .ok ⟨10, ∅⟩ := new_of_isValidPct (by decide)
  have decided := (run_decided_by_last built sixSteps).2.1
  refine ⟨_, built, Option.some.inj ((decided "decode").trans ?_),
    Option.some.inj ((decided "encode").trans ?_), Option.some.inj ((decided "parse").trans ?_)⟩
  · rfl
  · rfl
  · rfl

end PerfGate.Policy
