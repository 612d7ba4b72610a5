import Mathlib.Tactic.Lemma
import PerfGate.Gate.Policy

/-!
# Policies that are built

A policy can only be built step by step, and every step checks the percentage that it is given. So
every policy that was built `IsValid`: each percentage in it is finite and positive.
-/

namespace PerfGate.Policy

open Std

variable {p q : Policy} {name : String} {pct : Float}

/-- The default and all overrides are percentages that a policy may hold. -/
structure IsValid (p : Policy) : Prop where
  default : isValidPct p.default
  override : ∀ name pct, p.overrideOf name = some pct → isValidPct pct

/-- The threshold of every name is valid, whether it is an override or the default. -/
lemma IsValid.effective (valid : p.IsValid) (name : String) : isValidPct (p.effective name) := by
  unfold Policy.effective
  cases found : p.overrideOf name with
  | none => exact valid.default
  | some pct => exact valid.override name pct found

lemma validate_of_isValidPct (parameter : String) (h : isValidPct pct) :
    validate parameter pct = .ok pct := by
  rw [validate, if_pos h]

lemma validate_of_not_isValidPct (parameter : String) (h : ¬ isValidPct pct) :
    ∃ reason, validate parameter pct = .error (.invalidConfig parameter reason) := by
  rw [validate, if_neg h]
  exact ⟨_, rfl⟩

/-! ## The steps -/

lemma new_of_isValidPct (h : isValidPct pct) : new pct = .ok ⟨pct, ∅⟩ := by
  rw [new, validate_of_isValidPct _ h]
  rfl

lemma new_of_not_isValidPct (h : ¬ isValidPct pct) :
    ∃ reason, new pct = .error (.invalidConfig "threshold" reason) := by
  obtain ⟨reason, refused⟩ := validate_of_not_isValidPct "threshold" h
  refine ⟨reason, ?_⟩
  rw [new, refused]
  rfl

lemma override_of_isValidPct (p : Policy) (name : String) (h : isValidPct pct) :
    p.override name pct = .ok { p with table := p.table.insert name pct } := by
  rw [Policy.override, validate_of_isValidPct _ h]
  rfl

lemma override_of_not_isValidPct (p : Policy) (name : String) (h : ¬ isValidPct pct) :
    ∃ reason, p.override name pct = .error (.invalidConfig "relaxed-threshold" reason) := by
  obtain ⟨reason, refused⟩ := validate_of_not_isValidPct "relaxed-threshold" h
  refine ⟨reason, ?_⟩
  rw [Policy.override, refused]
  rfl

lemma new_inversion (h : new pct = .ok p) : isValidPct pct ∧ p = ⟨pct, ∅⟩ := by
  by_cases valid : isValidPct pct
  · rw [new_of_isValidPct valid] at h
    exact ⟨valid, (Except.ok.inj h).symm⟩
  · obtain ⟨reason, refused⟩ := new_of_not_isValidPct valid
    rw [refused] at h
    cases h

lemma override_inversion (h : p.override name pct = .ok q) :
    isValidPct pct ∧ q = { p with table := p.table.insert name pct } := by
  by_cases valid : isValidPct pct
  · rw [override_of_isValidPct p name valid] at h
    exact ⟨valid, (Except.ok.inj h).symm⟩
  · obtain ⟨reason, refused⟩ := override_of_not_isValidPct p name valid
    rw [refused] at h
    cases h

lemma overrideOf_insert (p : Policy) (name other : String) (pct : Float) :
    overrideOf { p with table := p.table.insert name pct } other =
      if name = other then some pct else p.overrideOf other := by
  simp [overrideOf, ExtTreeMap.getElem?_insert]

/-- Overriding several names with a valid percentage gives it to these names and to no other. -/
lemma overrides_of_isValidPct (p : Policy) (names : List String) (h : isValidPct pct) :
    ∃ q, names.foldlM (fun policy name => policy.override name pct) p = .ok q ∧
      ∀ other, q.effective other = if other ∈ names then pct else p.effective other := by
  induction names generalizing p with
  | nil => exact ⟨p, rfl, fun other => rfl⟩
  | cons name names ih =>
    have step := override_of_isValidPct p name h
    obtain ⟨q, rest, effective⟩ := ih { p with table := p.table.insert name pct }
    refine ⟨q, ?_, fun other => ?_⟩
    · rw [List.foldlM_cons, step]
      exact rest
    · rw [effective, effective_override step]
      by_cases mem : other ∈ names
      · rw [if_pos mem, if_pos (List.mem_cons_of_mem name mem)]
      · by_cases same : name = other
        · rw [if_neg mem, if_pos same, if_pos (List.mem_cons.2 (.inl same.symm))]
        · rw [if_neg mem, if_neg same, if_neg]
          exact fun h => (List.mem_cons.1 h).elim (fun e => same e.symm) mem

/-- There is no overriding with another percentage, if there is a name at all. -/
lemma overrides_of_not_isValidPct (p : Policy) {names : List String} (some : names ≠ [])
    (h : ¬ isValidPct pct) :
    ∃ reason, names.foldlM (fun policy name => policy.override name pct) p =
      .error (.invalidConfig "relaxed-threshold" reason) := by
  cases names with
  | nil => exact absurd rfl some
  | cons name names =>
    obtain ⟨reason, refused⟩ := override_of_not_isValidPct p name h
    refine ⟨reason, ?_⟩
    rw [List.foldlM_cons, refused]
    rfl

/-- What every single override keeps, overriding one name after the other keeps. -/
lemma overrides_induction {motive : Policy → Prop} {names : List String}
    (step : ∀ {p q name}, motive p → p.override name pct = .ok q → motive q) (start : motive p)
    (h : names.foldlM (fun policy name => policy.override name pct) p = .ok q) : motive q := by
  induction names generalizing p with
  | nil =>
    cases h
    exact start
  | cons name names ih =>
    rw [List.foldlM_cons] at h
    cases first : p.override name pct with
    | error e =>
      rw [first] at h
      cases h
    | ok p' =>
      rw [first] at h
      exact ih (step start first) h

/-- A relaxed tier that is accepted overrides its names, or it has none and changes nothing. -/
lemma relax_inversion {pct? : Option Float} {names? : Option (List String)}
    (h : (p.relax pct? names?).value = .ok q) :
    (∃ pct names, pct? = some pct ∧ names? = some names ∧
      names.foldlM (fun policy name => policy.override name pct) p = .ok q) ∨
    (names? = none ∧ q = p) := by
  cases names? with
  | some names =>
    cases pct? with
    | some pct => exact .inl ⟨pct, names, rfl, rfl, h⟩
    | none => cases h
  | none =>
    refine .inr ⟨rfl, ?_⟩
    cases pct? with
    | none =>
      cases h
      rfl
    | some pct =>
      by_cases valid : isValidPct pct
      · rw [relax, validate_of_isValidPct _ valid] at h
        cases h
        rfl
      · obtain ⟨reason, refused⟩ := validate_of_not_isValidPct "relaxed-threshold" valid
        rw [relax, refused] at h
        cases h

/-! ## What is built is valid -/

lemma isValid_of_new (h : new pct = .ok p) : p.IsValid := by
  obtain ⟨valid, rfl⟩ := new_inversion h
  refine ⟨valid, fun name pct found => ?_⟩
  simp [overrideOf] at found

lemma isValid_standard : standard.IsValid := by
  have built : new standardPct = .ok standard := new_of_isValidPct (by decide)
  exact isValid_of_new built

lemma IsValid.of_override (valid : p.IsValid) (h : p.override name pct = .ok q) : q.IsValid := by
  obtain ⟨validPct, rfl⟩ := override_inversion h
  refine ⟨valid.default, fun other pct' found => ?_⟩
  rw [overrideOf_insert] at found
  split at found
  · cases found
    exact validPct
  · exact valid.override other pct' found

lemma IsValid.of_relax {pct? : Option Float} {names? : Option (List String)} (valid : p.IsValid)
    (h : (p.relax pct? names?).value = .ok q) : q.IsValid := by
  obtain ⟨pct, names, rfl, rfl, overrides⟩ | ⟨rfl, rfl⟩ := relax_inversion h
  · exact overrides_induction IsValid.of_override valid overrides
  · exact valid

end PerfGate.Policy
