import PerfGate.Proofs.Decimal.Order
import PerfGate.Proofs.Measurement.Minimum

/-!
# The minimum is the least

Of stores without NaN, the minimum has the names of all of them, and for each name the first of the
least values that they hold for it (`minimum_isLeast`). The induction is on the runs: what was least
before stays least unless the last run beats it, and what beats it is less than all values before.
-/

namespace PerfGate

namespace Store

open Decimal

/-- No value is NaN. -/
def IsNumeric (s : Store) : Prop :=
  ∀ name value, s.get? name = some value → value.isNaN = false

/-- The value is the first of the least values that the runs hold for the name: it is less than
those before it, and at most as large as those behind it. -/
def FirstLeast (runs : List Store) (name : String) (value : Float) : Prop :=
  ∃ before run after, runs = before ++ run :: after ∧ run.get? name = some value ∧
    (∀ other ∈ before, ∀ x, other.get? name = some x → value < x) ∧
    ∀ other ∈ after, ∀ x, other.get? name = some x → value ≤ x

variable {runs : List Store} {run : Store} {name : String} {value other : Float}

namespace FirstLeast

lemma held (h : FirstLeast runs name value) : ∃ run ∈ runs, run.get? name = some value := by
  obtain ⟨before, run, after, rfl, held, -⟩ := h
  exact ⟨run, List.mem_append_right _ List.mem_cons_self, held⟩

lemma le (numbers : ∀ run ∈ runs, run.IsNumeric) (h : FirstLeast runs name value)
    (among : run ∈ runs) (stored : run.get? name = some other) : value ≤ other := by
  obtain ⟨first, mem, held⟩ := h.held
  have number := numbers first mem name value held
  obtain ⟨before, first, after, rfl, held, less, least⟩ := h
  rcases List.mem_append.1 among with earlier | behind
  · have less := less run earlier other stored
    exact number_le_of_lt number (numbers run among name other stored) less
  rcases List.mem_cons.1 behind with rfl | later
  · rw [held] at stored
    cases stored
    exact number_le_refl number
  · exact least run later other stored

/-- A run that does not beat it leaves it what it is. -/
lemma concat_of_le (h : FirstLeast runs name value)
    (le : ∀ x, run.get? name = some x → value ≤ x) : FirstLeast (runs ++ [run]) name value := by
  obtain ⟨before, first, after, rfl, held, less, least⟩ := h
  refine ⟨before, first, after ++ [run], by simp, held, less, ?_⟩
  intro other among
  rcases List.mem_append.1 among with earlier | last
  · exact least other earlier
  · obtain rfl := List.mem_singleton.1 last
    exact le

/-- What beats it is less than all values before. -/
lemma concat_of_lt (numbers : ∀ run ∈ runs, run.IsNumeric) (h : FirstLeast runs name value)
    (number : other.isNaN = false) (stored : run.get? name = some other) (lt : other < value) :
    FirstLeast (runs ++ [run]) name other := by
  obtain ⟨first, mem, held⟩ := h.held
  have numberValue := numbers first mem name value held
  refine ⟨runs, run, [], rfl, stored, ?_, List.forall_mem_nil _⟩
  intro earlier among x found
  have le := h.le numbers among found
  exact number_lt_of_lt_of_le number numberValue (numbers earlier among name x found) lt le

end FirstLeast

/-- The minimum holds the first of the least values. -/
lemma firstLeast_minimum (numbers : ∀ run ∈ runs, run.IsNumeric)
    (h : (minimum runs).get? name = some value) : FirstLeast runs name value := by
  induction runs using List.reverseRecOn generalizing value with
  | nil =>
    rw [minimum_eq, List.flatMap_nil, List.foldl_nil, get?_empty] at h
    cases h
  | append_singleton runs last ih =>
    have numbers' : ∀ run ∈ runs, run.IsNumeric :=
      fun run among => numbers run (List.mem_append_left _ among)
    rw [get?_minimum_concat] at h
    cases stored : last.get? name with
    | none =>
      rw [stored] at h
      refine (ih numbers' h).concat_of_le ?_
      intro x found
      rw [stored] at found
      cases found
    | some x =>
      have number := numbers last (List.mem_append_right _ List.mem_cons_self) name x stored
      rw [stored] at h
      simp only [lesser] at h
      cases before : (minimum runs).get? name with
      | none =>
        -- no run before has the name
        rw [before] at h
        cases h
        refine ⟨runs, last, [], rfl, stored, ?_, List.forall_mem_nil _⟩
        intro run among y held
        obtain ⟨z, found⟩ := exists_get?_minimum run among held
        rw [before] at found
        cases found
      | some current =>
        have least := ih numbers' before
        obtain ⟨run, among, held⟩ := least.held
        have number' := numbers' run among name current held
        rw [before] at h
        simp only at h
        split at h
        · rename_i le
          cases h
          refine least.concat_of_le ?_
          intro y found
          rw [stored] at found
          cases found
          exact le
        · rename_i beaten
          cases h
          have lt := number_lt_of_not_le number' number beaten
          exact least.concat_of_lt numbers' number stored lt

/-- The store is the minimum of the runs: it has their names, and for each of them the first of the
least values, which is a value of one run and at most as large as that of every other. -/
structure IsLeast (least : Store) (runs : List Store) : Prop where
  names : ∀ name, name ∈ least.names ↔ ∃ run ∈ runs, name ∈ run.names
  held : ∀ name value, least.get? name = some value → ∃ run ∈ runs, run.get? name = some value
  le : ∀ name value, least.get? name = some value →
    ∀ run ∈ runs, ∀ other, run.get? name = some other → value ≤ other
  first : ∀ name value, least.get? name = some value → FirstLeast runs name value

/-- The minimum of stores without NaN holds the least value of every name; without a store it is
empty. -/
theorem minimum_isLeast :
    (∀ runs : List Store, (∀ run ∈ runs, run.IsNumeric) → (minimum runs).IsLeast runs) ∧
      minimum [] = empty := by
  refine ⟨fun runs numbers => ⟨fun name => mem_names_minimum, ?held, ?le, ?first⟩, rfl⟩
  case held =>
    exact fun name value stored => get?_minimum stored
  case le =>
    intro name value stored run among other found
    exact (firstLeast_minimum numbers stored).le numbers among found
  case first =>
    exact fun name value stored => firstLeast_minimum numbers stored

/-- Three runs: each lacks a name that others have, and both zeros and an infinity occur. -/
def sampleRuns : List Store :=
  [.ofList [("a", 2), ("zero", 0)], .ofList [("a", -1.5), ("b", 1 / 0)],
    .ofList [("a", 3), ("zero", -0)]]

lemma isNumeric_of_all {s : Store} (h : s.toList.all (fun m => !m.2.isNaN) = true) :
    s.IsNumeric := by
  intro name value stored
  have number := List.all_eq_true.1 h _ (mem_toList.2 stored)
  simpa using number

lemma isNumeric_sampleRuns : ∀ run ∈ sampleRuns, run.IsNumeric := by
  have all : sampleRuns.all (fun s => s.toList.all fun m => !m.2.isNaN) = true := by
    decide +kernel
  exact fun run among => isNumeric_of_all (List.all_eq_true.1 all run among)

theorem minimum_isLeast_sample :
    (∀ run ∈ sampleRuns, run.IsNumeric) ∧ (minimum sampleRuns).IsLeast sampleRuns ∧
      (minimum sampleRuns).toList.map Prod.fst = ["a", "b", "zero"] ∧
      ((minimum sampleRuns).get? "zero").map Float.toBits = some 0 ∧
      ∀ run ∈ sampleRuns, ∀ other, run.get? "a" = some other → -1.5 ≤ other := by
  have numbers := isNumeric_sampleRuns
  have least := minimum_isLeast.1 sampleRuns numbers
  have stored : (minimum sampleRuns).get? "a" = some (-1.5) := by
    decide +kernel
  exact ⟨numbers, least, by decide +kernel, by decide +kernel, least.le "a" (-1.5) stored⟩

end Store

end PerfGate
