import Mathlib.Tactic.Tauto
import PerfGate.Proofs.Gate.ValidPolicy

/-!
# When a relaxed tier is refused

The relaxed percentage is checked for every name that gets it, and also if no names are asked for.
So an invalid one is refused whatever the names are, but for one list: if there is no name in it,
nothing is checked and the tier is accepted (`relax_refuses_iff`).
-/

namespace PerfGate.Policy

variable {p : Policy} {pct : Float} {names : List String} {names? : Option (List String)}
  {parameter : String} {f : Failure}

/-- The relaxed tier is refused as an invalid configuration. -/
def Refuses (p : Policy) (pct : Float) (names? : Option (List String)) : Prop :=
  ∃ parameter reason,
    (p.relax (some pct) names?).value = .error (.invalidConfig parameter reason)

/-- The failure of a check names the parameter and shows the percentage. -/
lemma validate_eq_error_iff : validate parameter pct = .error f ↔ ¬ isValidPct pct ∧
    f = .invalidConfig parameter ("must be a positive percentage, got " ++ Decimal.plain pct) := by
  unfold validate
  split
  · rename_i valid
    exact iff_of_false nofun fun h => h.1 valid
  · rename_i invalid
    rw [Except.error.injEq, eq_comm]
    exact (and_iff_right invalid).symm

/-- The check of the first name decides for all. -/
lemma overrides_eq_error_iff (p : Policy) :
    names.foldlM (fun policy name => policy.override name pct) p = .error f ↔
      names ≠ [] ∧ validate "relaxed-threshold" pct = .error f := by
  cases names with
  | nil => exact iff_of_false nofun fun h => h.1 rfl
  | cons name names =>
    rw [and_iff_right (List.cons_ne_nil name names)]
    by_cases valid : isValidPct pct
    · obtain ⟨q, done, -⟩ := overrides_of_isValidPct p (name :: names) valid
      rw [done, validate_of_isValidPct _ valid]
      exact iff_of_false nofun nofun
    · obtain ⟨reason, refused⟩ := validate_of_not_isValidPct "relaxed-threshold" valid
      rw [List.foldlM_cons, override, refused]
      constructor
      · rintro ⟨⟩
        rfl
      · rintro ⟨⟩
        rfl

/-- A relaxed percentage is refused by its check, which is made unless there is an empty list of
names. -/
lemma relax_eq_error_iff (p : Policy) : (p.relax (some pct) names?).value = .error f ↔
    names? ≠ some [] ∧ validate "relaxed-threshold" pct = .error f := by
  cases names? with
  | none =>
    rw [and_iff_right (Option.some_ne_none []).symm, relax]
    cases validate "relaxed-threshold" pct with
    | ok pct' =>
      constructor
      · rintro ⟨⟩
      · rintro ⟨⟩
    | error f' =>
      constructor
      · rintro ⟨⟩
        rfl
      · rintro ⟨⟩
        rfl
  | some names =>
    rw [ne_eq, Option.some_inj]
    exact overrides_eq_error_iff p

lemma refuses_iff : p.Refuses pct names? ↔ ¬ isValidPct pct ∧ names? ≠ some [] := by
  unfold Refuses
  constructor
  · rintro ⟨parameter, reason, refused⟩
    obtain ⟨named, checked⟩ := (relax_eq_error_iff p).1 refused
    exact ⟨(validate_eq_error_iff.1 checked).1, named⟩
  · rintro ⟨invalid, named⟩
    exact ⟨_, _, (relax_eq_error_iff p).2 ⟨named, validate_eq_error_iff.2 ⟨invalid, rfl⟩⟩⟩

/-- A relaxed percentage is refused if it is not finite and positive, unless the list of names is
empty. So it is refused exactly if it is not finite and positive wherever there is a name, no list
of names or a valid percentage, and between two requests for the same percentage the names make a
difference only if it is invalid and one of them has the empty list. Nothing else leads to a
failure. -/
theorem relax_refuses_iff (p : Policy) (pct : Float) (names? : Option (List String)) :
    (p.Refuses pct names? ↔ ¬ (Decimal.isFinite pct ∧ 0 < pct) ∧ names? ≠ some []) ∧
      ((p.Refuses pct names? ↔ ¬ (Decimal.isFinite pct ∧ 0 < pct)) ↔
        (names? = some [] → Decimal.isFinite pct ∧ 0 < pct)) ∧
      (∀ (p' : Policy) names?', (p.Refuses pct names? ↔ p'.Refuses pct names?') ↔
        (names? = some [] ↔ names?' = some []) ∨ Decimal.isFinite pct ∧ 0 < pct) ∧
      (¬ p.Refuses pct names? → ∃ q, (p.relax (some pct) names?).value = .ok q) := by
  have valid : isValidPct pct = true ↔ Decimal.isFinite pct ∧ 0 < pct := by
    simp [isValidPct]
  have refused (p : Policy) (names? : Option (List String)) :
      p.Refuses pct names? ↔ ¬ (Decimal.isFinite pct ∧ 0 < pct) ∧ names? ≠ some [] := by
    rw [refuses_iff, valid]
  refine ⟨refused p names?, ?always, fun p' names?' => ?names, fun accepted => ?accepts⟩
  case always =>
    rw [refused]
    tauto
  case names =>
    rw [refused, refused]
    tauto
  case accepts =>
    cases result : (p.relax (some pct) names?).value with
    | ok q => exact ⟨q, rfl⟩
    | error f =>
      obtain ⟨named, checked⟩ := (relax_eq_error_iff p).1 result
      exact absurd (refuses_iff.2 ⟨(validate_eq_error_iff.1 checked).1, named⟩) accepted

/-- With an empty list of names a negative percentage is accepted, which is refused without a
list. -/
theorem relax_accepts_for_no_names :
    ¬ (0 : Float) < -1 ∧ (standard.relax (some (-1)) (some [])).value = .ok standard ∧
      ¬ standard.Refuses (-1) (some []) ∧ standard.Refuses (-1) none := by
  have invalid : ¬ isValidPct (-1) := by decide
  refine ⟨by decide, rfl, fun refuses => (refuses_iff.1 refuses).2 rfl, ?_⟩
  exact refuses_iff.2 ⟨invalid, nofun⟩

end PerfGate.Policy
