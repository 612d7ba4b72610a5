import Mathlib.Data.List.Sort
import Mathlib.Tactic.Lemma
import PerfGate.Measurement.Store

/-!
# The names of a store

A store lists its names in order, each once (`pairwise_toList`), and a list of this form is what the
store of it lists (`toList_ofList`).
-/

namespace PerfGate.Store

open Std

variable {s : Store} {name : String} {value : Float} {measurements : List (String × Float)}

lemma mem_names_iff : name ∈ s.names ↔ ∃ x, s.get? name = some x := by
  rw [names, ExtTreeMap.mem_keys, ExtTreeMap.mem_iff_isSome_getElem?, Option.isSome_iff_exists]
  rfl

lemma nodup_names (s : Store) : s.names.Nodup :=
  ExtTreeMap.nodup_keys

lemma map_fst_toList (s : Store) : s.toList.map Prod.fst = s.names :=
  ExtTreeMap.map_fst_toList_eq_keys

lemma length_toList (s : Store) : s.toList.length = s.size :=
  ExtTreeMap.length_toList

lemma length_names (s : Store) : s.names.length = s.size :=
  ExtTreeMap.length_keys

lemma isEmpty_names (s : Store) : s.names.isEmpty = s.isEmpty :=
  ExtTreeMap.isEmpty_keys

lemma not_contains_iff : (!s.contains name) = true ↔ s.get? name = none := by
  rw [contains, ExtTreeMap.contains_eq_isSome_getElem?, Bool.not_eq_true',
    Option.isSome_eq_false_iff, Option.isNone_iff_eq_none]
  rfl

lemma contains_iff : s.contains name ↔ ∃ x, s.get? name = some x := by
  rw [contains, ExtTreeMap.contains_eq_isSome_getElem?, Option.isSome_iff_exists]
  rfl

/-- A store gets larger by a new name only. -/
lemma size_insert (s : Store) (name : String) (value : Float) :
    (s.insert name value).size = if s.contains name then s.size else s.size + 1 :=
  ExtTreeMap.size_insert

/-- The measurement stands before the other one in a store. -/
def Before (m n : String × Float) : Prop :=
  m.1 < n.1

lemma pairwise_toList (s : Store) : s.toList.Pairwise Before := by
  have listed : s.toList.Pairwise fun m n => compare m.1 n.1 = .lt := ExtTreeMap.ordered_keys_toList
  exact listed.imp fun before => compareOfLessAndEq_eq_lt.1 before

lemma pairwise_names (s : Store) : s.names.Pairwise (· < ·) := by
  rw [← map_fst_toList]
  exact List.pairwise_map.2 s.pairwise_toList

/-- Stores that have the same names list them alike. -/
lemma names_congr {s t : Store} (h : ∀ name, name ∈ s.names ↔ name ∈ t.names) :
    s.names = t.names := by
  have perm := (List.perm_ext_iff_of_nodup s.nodup_names t.nodup_names).2 h
  refine perm.eq_of_pairwise (fun name other _ _ before after => ?_) s.pairwise_names
    t.pairwise_names
  exact absurd after (String.lt_asymm before)

lemma nodup_fst_of_pairwise (h : measurements.Pairwise Before) :
    (measurements.map Prod.fst).Nodup :=
  List.pairwise_map.2 (h.imp fun before => String.ne_of_lt before)

/-- What a list of measurements with different names adds to a store. -/
lemma get?_foldl_insert (distinct : (measurements.map Prod.fst).Nodup) (s : Store) :
    (measurements.foldl (fun s m => s.insert m.1 m.2) s).get? name = some value ↔
      (name, value) ∈ measurements ∨
        name ∉ measurements.map Prod.fst ∧ s.get? name = some value := by
  induction measurements generalizing s with
  | nil => simp
  | cons m measurements ih =>
    obtain ⟨other, x⟩ := m
    obtain ⟨fresh, distinct⟩ := List.nodup_cons.1 distinct
    rw [List.foldl_cons, ih distinct, get?_insert, List.map_cons, List.mem_cons, List.mem_cons]
    by_cases same : other = name
    · subst same
      have once : (other, value) ∉ measurements := by
        intro mem
        have again := List.mem_map_of_mem (f := Prod.fst) mem
        exact fresh again
      simp [fresh, once, eq_comm]
    · have differs : name ≠ other := fun e => same e.symm
      simp [same, differs]

lemma get?_ofList (distinct : (measurements.map Prod.fst).Nodup) :
    (ofList measurements).get? name = some value ↔ (name, value) ∈ measurements := by
  rw [ofList, get?_foldl_insert distinct, get?_empty]
  simp

lemma toList_ofList (h : measurements.Pairwise Before) : (ofList measurements).toList =
    measurements := by
  have nodup {l : List (String × Float)} (h : l.Pairwise Before) : l.Nodup :=
    (nodup_fst_of_pairwise h).of_map
  have same : ∀ m, m ∈ (ofList measurements).toList ↔ m ∈ measurements := fun m =>
    mem_toList.trans (get?_ofList (nodup_fst_of_pairwise h))
  have listed := pairwise_toList (ofList measurements)
  refine List.Perm.eq_of_pairwise (fun m n _ _ before after => ?_) listed h
    ((List.perm_ext_iff_of_nodup (nodup listed) (nodup h)).2 same)
  exact absurd after (String.lt_asymm before)

end PerfGate.Store
