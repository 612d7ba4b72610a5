import Mathlib.Data.List.Induction
import PerfGate.Measurement.Aggregation
import PerfGate.Proofs.Measurement.Store

/-!
# The minimum of several stores

The minimum lowers one store by all measurements of all runs, one after the other (`minimum_eq`).
Nothing in it is made up: each of its measurements is one of a run (`get?_minimum`), and each name
of a run is in it (`exists_get?_minimum`). A further run lowers each value once
(`get?_minimum_concat`).
-/

namespace PerfGate.Store

variable {s : Store} {name : String} {value : Float} {m : String × Float}
  {measurements : List (String × Float)} {runs : List Store}

lemma get?_lower (h : (s.lower m.1 m.2).get? name = some value) :
    s.get? name = some value ∨ (name, value) = m := by
  have inserted (h : (s.insert m.1 m.2).get? name = some value) :
      s.get? name = some value ∨ (name, value) = m := by
    rw [get?_insert] at h
    split at h
    · rename_i same
      exact .inr (Prod.ext same.symm (Option.some_inj.1 h).symm)
    · exact .inl h
  unfold lower at h
  split at h
  · split at h
    · exact .inl h
    · exact inserted h
  · exact inserted h

lemma get?_foldl_lower
    (h : (measurements.foldl (fun s m => s.lower m.1 m.2) s).get? name = some value) :
    s.get? name = some value ∨ (name, value) ∈ measurements := by
  induction measurements generalizing s with
  | nil => exact .inl h
  | cons m measurements ih =>
    rcases ih h with before | later
    · rcases get?_lower before with before | rfl
      · exact .inl before
      · exact .inr List.mem_cons_self
    · exact .inr (List.mem_cons_of_mem m later)

lemma minimum_eq (runs : List Store) :
    minimum runs = (runs.flatMap toList).foldl (fun s m => s.lower m.1 m.2) empty :=
  List.foldl_flatMap.symm

/-- Each measurement of the minimum is one of a run. -/
lemma get?_minimum (h : (minimum runs).get? name = some value) :
    ∃ run ∈ runs, run.get? name = some value := by
  rw [minimum_eq] at h
  rcases get?_foldl_lower h with none | mem
  · rw [get?_empty] at none
    cases none
  · obtain ⟨run, among, listed⟩ := List.mem_flatMap.1 mem
    exact ⟨run, among, mem_toList.1 listed⟩

/-! ## One more run -/

/-- The lesser of a value, if there is one, and another one; of equal values the first. -/
def lesser (current : Option Float) (value : Float) : Float :=
  match current with
  | some current => if current ≤ value then current else value
  | none => value

variable {other : String}

lemma get?_lower_self (s : Store) (name : String) (value : Float) :
    (s.lower name value).get? name = some (lesser (s.get? name) value) := by
  unfold lower lesser
  cases stored : s.get? name with
  | none => exact (get?_insert s name name value).trans (if_pos rfl)
  | some current =>
    simp only
    split
    · exact stored
    · exact (get?_insert s name name value).trans (if_pos rfl)

lemma get?_lower_of_ne (s : Store) (value : Float) (ne : other ≠ name) :
    (s.lower other value).get? name = s.get? name := by
  have apart : (s.insert other value).get? name = s.get? name :=
    (get?_insert s other name value).trans (if_neg ne)
  unfold lower
  cases s.get? other with
  | none => exact apart
  | some current =>
    simp only
    split
    · rfl
    · exact apart

/-- Measurements of other names do not matter for a name. -/
lemma get?_foldl_lower_of_fresh (s : Store) (fresh : name ∉ measurements.map Prod.fst) :
    (measurements.foldl (fun s m => s.lower m.1 m.2) s).get? name = s.get? name := by
  induction measurements generalizing s with
  | nil => rfl
  | cons m measurements ih =>
    obtain ⟨ne, fresh⟩ := List.ne_and_not_mem_of_not_mem_cons fresh
    rw [List.foldl_cons, ih _ fresh]
    exact get?_lower_of_ne s m.2 ne.symm

/-- Of measurements with different names, the one of a name lowers its value, and no other does. -/
lemma get?_foldl_lower_of_mem (s : Store) (distinct : (measurements.map Prod.fst).Nodup)
    (mem : (name, value) ∈ measurements) :
    (measurements.foldl (fun s m => s.lower m.1 m.2) s).get? name =
      some (lesser (s.get? name) value) := by
  induction measurements generalizing s with
  | nil => cases mem
  | cons m measurements ih =>
    obtain ⟨fresh, distinct⟩ := List.nodup_cons.1 distinct
    rw [List.foldl_cons]
    rcases List.mem_cons.1 mem with rfl | later
    · rw [get?_foldl_lower_of_fresh _ fresh]
      exact get?_lower_self s name value
    · have ne : m.1 ≠ name := by
        intro same
        apply fresh
        rw [same]
        exact List.mem_map_of_mem (f := Prod.fst) later
      rw [ih _ distinct later, get?_lower_of_ne s m.2 ne]

/-- A further run lowers the value of each name that it holds, and leaves the other names alone. -/
lemma get?_minimum_concat (runs : List Store) (run : Store) (name : String) :
    (minimum (runs ++ [run])).get? name =
      match run.get? name with
      | some value => some (lesser ((minimum runs).get? name) value)
      | none => (minimum runs).get? name := by
  have lowered : minimum (runs ++ [run]) =
      run.toList.foldl (fun s m => s.lower m.1 m.2) (minimum runs) := List.foldl_concat ..
  have names := map_fst_toList run
  rw [lowered]
  cases stored : run.get? name with
  | none =>
    apply get?_foldl_lower_of_fresh
    rw [names, mem_names_iff]
    intro ⟨x, stored'⟩
    rw [stored] at stored'
    cases stored'
  | some value =>
    apply get?_foldl_lower_of_mem
    · rw [names]
      exact nodup_names run
    · exact mem_toList.2 stored

/-- A single run is its own minimum. -/
lemma minimum_singleton (run : Store) : minimum [run] = run := by
  refine Store.ext fun name => ?_
  have alone := get?_minimum_concat [] run name
  rw [List.nil_append] at alone
  rw [alone]
  cases run.get? name <;> rfl

/-- No name gets lost by a further run. -/
lemma exists_get?_minimum_concat (run : Store) (h : ∃ x, (minimum runs).get? name = some x) :
    ∃ x, (minimum (runs ++ [run])).get? name = some x := by
  rw [get?_minimum_concat]
  cases run.get? name with
  | none => exact h
  | some value => exact ⟨_, rfl⟩

/-- Each name of a run is in the minimum. -/
lemma exists_get?_minimum (run : Store) (among : run ∈ runs) (h : run.get? name = some value) :
    ∃ x, (minimum runs).get? name = some x := by
  induction runs using List.reverseRecOn with
  | nil => cases among
  | append_singleton runs last ih =>
    rcases List.mem_append.1 among with before | here
    · exact exists_get?_minimum_concat last (ih before)
    · obtain rfl := List.mem_singleton.1 here
      rw [get?_minimum_concat, h]
      exact ⟨_, rfl⟩

/-- The minimum has the names of all runs. -/
lemma mem_names_minimum : name ∈ (minimum runs).names ↔ ∃ run ∈ runs, name ∈ run.names := by
  simp only [mem_names_iff]
  constructor
  · rintro ⟨value, stored⟩
    obtain ⟨run, among, held⟩ := get?_minimum stored
    exact ⟨run, among, value, held⟩
  · rintro ⟨run, among, value, held⟩
    exact exists_get?_minimum run among held

end PerfGate.Store
