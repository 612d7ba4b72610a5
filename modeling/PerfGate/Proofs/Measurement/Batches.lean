import PerfGate.Proofs.Measurement.Least

/-!
# Runs in batches

Runs can be reduced in batches, and the batches in turn: the minimum of all runs is the minimum of
the minima, to the sign of a zero (`minimum_flatten`). What the minimum holds for a name is combined
from the runs by `lesser?`, which is associative as long as there is no NaN. It is not commutative,
since of equal values the first is kept: in another order the minimum holds the same names with
equal numbers (`minimum_regroups`).
-/

namespace PerfGate.Store

open Decimal

variable {runs others : List Store} {name : String} {value : Float}

/-! ## The lesser of two values -/

/-- The lesser of two values, where there are any; of equal values the first. -/
def lesser? (x y : Option Float) : Option Float :=
  match y with
  | some y => some (lesser x y)
  | none => x

/-- The value, where there is one, is not NaN. -/
def IsNumber (x : Option Float) : Prop :=
  ∀ value ∈ x, value.isNaN = false

lemma lesser?_self (x : Option Float) : lesser? x x = x := by
  cases x with
  | none => rfl
  | some x => exact congrArg some (ite_self x)

/-- On numbers it does not matter which two are compared first. -/
lemma lesser?_assoc {x y z : Option Float} (hx : IsNumber x) (hy : IsNumber y) (hz : IsNumber z) :
    lesser? (lesser? x y) z = lesser? x (lesser? y z) := by
  cases z with
  | none => rfl
  | some z =>
  cases y with
  | none => rfl
  | some y =>
  cases x with
  | none => rfl
  | some x =>
    have hx := hx x rfl
    have hy := hy y rfl
    have hz := hz z rfl
    simp only [lesser?, lesser]
    by_cases xy : x ≤ y
    · rw [if_pos xy]
      by_cases yz : y ≤ z
      · have xz := number_le_trans hx hy hz xy yz
        rw [if_pos yz, if_pos xz, if_pos xy]
      · rw [if_neg yz]
    · rw [if_neg xy]
      by_cases yz : y ≤ z
      · rw [if_pos yz, if_neg xy]
      · -- the last is less than the second, and this is less than the first
        have zy := number_lt_of_not_le hy hz yz
        have yx := number_lt_of_not_le hx hy xy
        have xz : ¬ x ≤ z := by
          intro xz
          have le := number_le_trans hx hz hy xz (number_le_of_lt hz hy zy)
          exact xy le
        rw [if_neg yz, if_neg xz]

/-! ## Batches -/

lemma IsNumeric.isNumber {s : Store} (h : s.IsNumeric) (name : String) : IsNumber (s.get? name) :=
  h name

lemma IsNumeric.minimum (numbers : ∀ run ∈ runs, run.IsNumeric) : (minimum runs).IsNumeric := by
  intro name value stored
  obtain ⟨run, among, held⟩ := get?_minimum stored
  exact numbers run among name value held

lemma get?_minimum_concat_lesser (runs : List Store) (run : Store) (name : String) :
    (minimum (runs ++ [run])).get? name = lesser? ((minimum runs).get? name) (run.get? name) := by
  rw [get?_minimum_concat]
  cases run.get? name <;> rfl

/-- The runs of two batches can be reduced apart. -/
lemma get?_minimum_append (numbers : ∀ run ∈ runs, run.IsNumeric)
    (numbers' : ∀ run ∈ others, run.IsNumeric) (name : String) :
    (minimum (runs ++ others)).get? name =
      lesser? ((minimum runs).get? name) ((minimum others).get? name) := by
  induction others using List.reverseRecOn with
  | nil =>
    rw [List.append_nil]
    rfl
  | append_singleton others last ih =>
    obtain ⟨before, numeric⟩ := List.forall_mem_append.1 numbers'
    have lastNumber := (numeric last (List.mem_singleton_self last)).isNumber name
    rw [← List.append_assoc, get?_minimum_concat_lesser, ih before, get?_minimum_concat_lesser]
    exact lesser?_assoc ((IsNumeric.minimum numbers).isNumber name)
      ((IsNumeric.minimum before).isNumber name) lastNumber

/-- The minimum of all runs is the minimum of the minima of any batches of them. -/
theorem minimum_flatten {batches : List (List Store)}
    (numbers : ∀ batch ∈ batches, ∀ run ∈ batch, run.IsNumeric) :
    minimum batches.flatten = minimum (batches.map minimum) := by
  apply ext
  intro name
  induction batches using List.reverseRecOn with
  | nil => rfl
  | append_singleton batches last ih =>
    obtain ⟨before, numeric⟩ := List.forall_mem_append.1 numbers
    have numeric' := numeric last (List.mem_singleton_self last)
    have flat : ∀ run ∈ batches.flatten, run.IsNumeric := by
      intro run among
      obtain ⟨batch, listed, mem⟩ := List.mem_flatten.1 among
      exact before batch listed run mem
    rw [List.flatten_append, List.flatten_singleton, get?_minimum_append flat numeric', ih before,
      List.map_append, List.map_singleton, get?_minimum_concat_lesser]

/-- A run that was reduced already adds nothing. -/
lemma minimum_append_self (numbers : ∀ run ∈ runs, run.IsNumeric) :
    minimum (runs ++ runs) = minimum runs := by
  apply ext
  intro name
  rw [get?_minimum_append numbers numbers, lesser?_self]

/-! ## Another order -/

/-- What the minimum holds is at most what it holds with the runs in another order. -/
lemma minimum_le_of_perm (numbers : ∀ run ∈ runs, run.IsNumeric) (perm : others.Perm runs)
    {x y : Float} (stored : (minimum runs).get? name = some x)
    (stored' : (minimum others).get? name = some y) : x ≤ y := by
  obtain ⟨run, among, held⟩ := get?_minimum stored'
  have least := firstLeast_minimum numbers stored
  exact least.le numbers (perm.mem_iff.1 among) held

/-- Runs without NaN can be reduced in two batches, repeatedly and in another order: the first two
change nothing at all, and the last keeps the names and the numbers. -/
theorem minimum_regroups {runs more : List Store} (numbers : ∀ run ∈ runs, run.IsNumeric)
    (numbers' : ∀ run ∈ more, run.IsNumeric) :
    minimum (runs ++ more) = minimum [minimum runs, minimum more] ∧
      minimum (runs ++ runs) = minimum runs ∧
      ∀ others, others.Perm runs → (minimum others).names = (minimum runs).names ∧
        ∀ name x y, (minimum runs).get? name = some x → (minimum others).get? name = some y →
          x == y := by
  refine ⟨?batches, minimum_append_self numbers, fun others perm => ⟨?names, ?values⟩⟩
  case batches =>
    have batches : ∀ batch ∈ [runs, more], ∀ run ∈ batch, run.IsNumeric :=
      List.forall_mem_cons.2 ⟨numbers, List.forall_mem_singleton.2 numbers'⟩
    have flat := minimum_flatten batches
    rwa [List.flatten_cons, List.flatten_singleton] at flat
  case names =>
    apply names_congr
    intro name
    rw [mem_names_minimum, mem_names_minimum]
    exact exists_congr fun run => and_congr_left fun _ => perm.mem_iff
  case values =>
    intro name x y stored stored'
    have reordered : ∀ run ∈ others, run.IsNumeric := fun run among =>
      numbers run (perm.mem_iff.1 among)
    have hx := IsNumeric.minimum numbers name x stored
    have hy := IsNumeric.minimum reordered name y stored'
    apply number_beq_of_le_of_le hx hy
    · exact minimum_le_of_perm numbers perm stored stored'
    · exact minimum_le_of_perm reordered perm.symm stored' stored

/-- In the reverse order the sample keeps the other zero. -/
theorem minimum_regroups_sample :
    (∀ run ∈ sampleRuns, run.IsNumeric) ∧
      minimum (sampleRuns ++ sampleRuns) = minimum [minimum sampleRuns, minimum sampleRuns] ∧
      sampleRuns.reverse.Perm sampleRuns ∧
      (minimum sampleRuns).get? "zero" = some 0 ∧
      (minimum sampleRuns.reverse).get? "zero" = some (-0) ∧ (0 : Float) ≠ -0 ∧
      (0 : Float) == -0 := by
  have numbers := isNumeric_sampleRuns
  have perm : sampleRuns.reverse.Perm sampleRuns := List.reverse_perm sampleRuns
  have stored : (minimum sampleRuns).get? "zero" = some 0 := by
    decide +kernel
  have stored' : (minimum sampleRuns.reverse).get? "zero" = some (-0) := by
    decide +kernel
  obtain ⟨batches, -, reordered⟩ := minimum_regroups numbers numbers
  have equal := (reordered sampleRuns.reverse perm).2 "zero" 0 (-0) stored stored'
  exact ⟨numbers, batches, perm, stored, stored', by decide, equal⟩

end PerfGate.Store
