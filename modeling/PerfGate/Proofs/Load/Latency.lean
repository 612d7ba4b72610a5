import Mathlib.Data.List.Sort
import Mathlib.Order.Bounds.Basic
import PerfGate.Load.Latency
import PerfGate.Proofs.Decimal.Truncation

/-!
# Ranks of latencies

A summary is read off the ascending samples, at indices that are computed in doubles. Up to `2 ^ 40`
samples the indices are the exact ones, so each percentile is the sample of its nearest rank
(`ofSamples_nearestRank`). Whatever the percentage is, the index is that of some sample, and the
order in which the samples were taken does not matter (`ofSamples_unordered`).
-/

namespace PerfGate.Latency

open Decimal

/-! ## Ascending samples -/

lemma pairwise_mergeSort (samples : List Nat) : samples.mergeSort.Pairwise (· ≤ ·) := by
  refine (List.pairwise_mergeSort (fun a b c => ?_) (fun a b => ?_) samples).imp of_decide_eq_true
  · simpa using Nat.le_trans
  · simpa using Nat.le_total a b

variable {samples sorted : List Nat} {i v : Nat}

/-- There is one ascending order of the samples. -/
lemma mergeSort_eq (ascending : sorted.Pairwise (· ≤ ·)) (perm : sorted.Perm samples) :
    samples.mergeSort = sorted :=
  List.Perm.eq_of_pairwise (fun _ _ _ _ => Nat.le_antisymm) (pairwise_mergeSort samples) ascending
    ((List.mergeSort_perm samples _).trans perm.symm)

namespace Summary

lemma ofSamples_eq (ascending : sorted.Pairwise (· ≤ ·)) (perm : sorted.Perm samples) :
    ofSamples samples = ofSorted sorted := by
  rw [ofSamples, mergeSort_eq ascending perm]

/-- A summary does not depend on the order of the samples. -/
lemma ofSamples_of_perm {xs ys : List Nat} (h : xs.Perm ys) : ofSamples xs = ofSamples ys :=
  ofSamples_eq (pairwise_mergeSort ys) ((List.mergeSort_perm ys _).trans h.symm)

end Summary

/-- A list is taken apart at an index. -/
lemma exists_split (h : sorted[i]? = some v) :
    ∃ front back, sorted = front ++ v :: back ∧ front.length = i := by
  obtain ⟨inside, rfl⟩ := List.getElem?_eq_some_iff.1 h
  refine ⟨sorted.take i, sorted.drop (i + 1), ?_, List.length_take_of_le inside.le⟩
  rw [← List.drop_eq_getElem_cons inside, List.take_append_drop]

/-- Only what comes before it is less than an element. -/
lemma countP_lt_le (ascending : sorted.Pairwise (· ≤ ·)) (h : sorted[i]? = some v) :
    sorted.countP (· < v) ≤ i := by
  obtain ⟨front, back, rfl, rfl⟩ := exists_split h
  obtain ⟨-, behind, -⟩ := List.pairwise_append.1 ascending
  have none : (v :: back).countP (· < v) = 0 := by
    rw [List.countP_eq_zero]
    intro x mem
    rcases List.mem_cons.1 mem with rfl | mem
    · simp
    · simpa using (List.pairwise_cons.1 behind).1 x mem
  rw [List.countP_append, none]
  exact List.countP_le_length

/-- What comes before an element is no greater, and neither is the element. -/
lemma lt_countP_le (ascending : sorted.Pairwise (· ≤ ·)) (h : sorted[i]? = some v) :
    i < sorted.countP (· ≤ v) := by
  obtain ⟨front, back, rfl, rfl⟩ := exists_split h
  obtain ⟨-, -, before⟩ := List.pairwise_append.1 ascending
  have all : front.countP (· ≤ v) = front.length := by
    rw [List.countP_eq_length]
    intro x mem
    simpa using before x mem v List.mem_cons_self
  rw [List.countP_append, all, List.countP_cons_of_pos (by simp)]
  omega

/-! ## Indices -/

/-- The index is that of a sample, whatever the percentage is. -/
lemma getElem?_rank (some : sorted ≠ []) (p : Float) :
    sorted[rank sorted.length p]? = Option.some (percentile sorted p) := by
  have inside : rank sorted.length p < sorted.length := by
    have length := List.length_pos_of_ne_nil some
    unfold rank
    omega
  rw [percentile, List.getElem?_eq_getElem inside]
  rfl

/-- The index is computed exactly, as long as the product of its factors is short. -/
lemma toNat_rank {k p : Nat} (short : k ≤ 2 ^ 53) (short' : p ≤ 2 ^ 53) (product : k * p < 2 ^ 53) :
    (ofNat k * ofNat p / 100).toUInt64.toNat = k * p / 100 := by
  have hundred : IsNearest 100 (100 : ℕ) := isNearest_ofNat 100
  exact toNat_toUInt64_div (isNearest_ofNat k) (isNearest_ofNat p) hundred short short' product
    (by decide) (by decide)

lemma rank_ofNat {k p : Nat} (few : k ≤ 2 ^ 40) (percentage : p ≤ 100) :
    rank k (ofNat p) = min (k * p / 100) (k - 1) := by
  have product : k * p ≤ 2 ^ 40 * 100 := Nat.mul_le_mul few percentage
  rw [rank, toNat_rank (by omega) (by omega) (by omega)]

/-! ## Figures of a summary -/

namespace Summary

/-- The percentages of a summary, each with its sample. -/
def percentiles (s : Summary) : List (Nat × Nat) :=
  [(50, s.p50), (90, s.p90), (95, s.p95), (99, s.p99)]

/-- The figures of a summary, the least first. -/
def figures (s : Summary) : List Nat :=
  [s.least, s.p50, s.p90, s.p95, s.p99, s.greatest]

/-- The indices at which the figures are found. -/
def indices (k : Nat) : List Nat :=
  [0, rank k (ofNat 50), rank k (ofNat 90), rank k (ofNat 95), rank k (ofNat 99), k - 1]

lemma percentiles_ofSorted (sorted : List Nat) : (ofSorted sorted).percentiles =
    [50, 90, 95, 99].map fun p => (p, percentile sorted (ofNat p)) := rfl

lemma figures_ofSorted (sorted : List Nat) : (ofSorted sorted).figures =
    (indices sorted.length).map fun i => (sorted[i]?).getD 0 := by
  have first : (ofSorted sorted).least = (sorted[0]?).getD 0 := by
    rw [ofSorted, List.head?_eq_getElem?]
  have last : (ofSorted sorted).greatest = (sorted[sorted.length - 1]?).getD 0 := by
    rw [ofSorted, List.getLast?_eq_getElem?]
  rw [figures, first, last]
  rfl

lemma lt_of_mem_indices {k : Nat} (pos : 0 < k) (mem : i ∈ indices k) : i < k := by
  simp only [indices, rank, List.mem_cons, List.not_mem_nil, or_false] at mem
  omega

lemma pairwise_indices {k : Nat} (few : k ≤ 2 ^ 40) : (indices k).Pairwise (· ≤ ·) := by
  unfold indices
  rw [rank_ofNat few (by decide), rank_ofNat few (by decide), rank_ofNat few (by decide),
    rank_ofNat few (by decide), ← List.isChain_iff_pairwise]
  simp only [List.isChain_cons_cons, List.isChain_singleton, and_true]
  omega

/-- A figure is the sample at one of the indices. -/
lemma getElem?_of_mem_figures (some : sorted ≠ []) (mem : v ∈ (ofSorted sorted).figures) :
    ∃ i ∈ indices sorted.length, sorted[i]? = Option.some v := by
  rw [figures_ofSorted] at mem
  obtain ⟨i, among, rfl⟩ := List.mem_map.1 mem
  have inside := lt_of_mem_indices (List.length_pos_of_ne_nil some) among
  refine ⟨i, among, ?_⟩
  rw [List.getElem?_eq_getElem inside]
  rfl

/-- The figures are ascending, since their indices are. -/
lemma pairwise_figures (ascending : sorted.Pairwise (· ≤ ·)) (some : sorted ≠ [])
    (few : sorted.length ≤ 2 ^ 40) : (ofSorted sorted).figures.Pairwise (· ≤ ·) := by
  rw [figures_ofSorted, List.pairwise_map]
  refine (pairwise_indices few).imp_of_mem fun {i j} hi hj le => ?_
  have length := List.length_pos_of_ne_nil some
  rw [List.getElem?_eq_getElem (lt_of_mem_indices length hi),
    List.getElem?_eq_getElem (lt_of_mem_indices length hj)]
  exact ascending.rel_get_of_le le

end Summary

/-- Of the samples, in ascending order, `v` has the nearest rank for `p` percent. -/
structure NearestRank (samples sorted : List Nat) (p v : Nat) : Prop where
  /-- The index in doubles is the exact one. -/
  exact : (ofNat samples.length * ofNat p / 100).toUInt64.toNat = samples.length * p / 100
  sample : sorted[min (samples.length * p / 100) (samples.length - 1)]? = some v
  /-- At most `p` percent of the samples are less. -/
  below : 100 * samples.countP (· < v) ≤ p * samples.length
  /-- At least `p` percent of the samples are no greater. -/
  reached : p * samples.length ≤ 100 * samples.countP (· ≤ v)

/-- The counts on both sides of a sample follow from its index. -/
lemma nearestRank_percentile (ascending : sorted.Pairwise (· ≤ ·)) (perm : sorted.Perm samples)
    (nonempty : 0 < samples.length) (few : samples.length ≤ 2 ^ 40) {p : Nat}
    (percentage : p ≤ 100) : NearestRank samples sorted p (percentile sorted (ofNat p)) := by
  have some : sorted ≠ [] := List.ne_nil_of_length_pos (perm.length_eq ▸ nonempty)
  have product : samples.length * p ≤ 2 ^ 40 * 100 := Nat.mul_le_mul few percentage
  have sample := getElem?_rank some (ofNat p)
  rw [perm.length_eq, rank_ofNat few percentage] at sample
  have below := countP_lt_le ascending sample
  have reached := lt_countP_le ascending sample
  have most := sorted.countP_le_length (p := (· ≤ percentile sorted (ofNat p)))
  rw [perm.countP_eq] at below reached
  refine ⟨toNat_rank (by omega) (by omega) (by omega), sample, ?_, ?_⟩
  · rw [Nat.mul_comm p]
    omega
  · rw [Nat.mul_comm p]
    have all := Nat.mul_le_mul_left samples.length percentage
    omega

/-- Up to `2 ^ 40` samples the percentiles of a summary are those of the nearest ranks, and all its
figures are in order. -/
theorem ofSamples_nearestRank (ascending : sorted.Pairwise (· ≤ ·)) (perm : sorted.Perm samples)
    (nonempty : 0 < samples.length) (few : samples.length ≤ 2 ^ 40) :
    (Summary.ofSamples samples).percentiles.map Prod.fst = [50, 90, 95, 99] ∧
      (∀ p v, (p, v) ∈ (Summary.ofSamples samples).percentiles →
        NearestRank samples sorted p v) ∧
      (Summary.ofSamples samples).figures.Pairwise (· ≤ ·) := by
  refine ⟨rfl, fun p v mem => ?_, ?_⟩
  · rw [Summary.ofSamples_eq ascending perm, Summary.percentiles_ofSorted] at mem
    obtain ⟨percentage, among, equation⟩ := List.mem_map.1 mem
    cases equation
    have bound : ∀ q ∈ [50, 90, 95, 99], q ≤ 100 := by decide
    exact nearestRank_percentile ascending perm nonempty few (bound _ among)
  · have length := perm.length_eq
    rw [Summary.ofSamples_eq ascending perm]
    apply Summary.pairwise_figures ascending
    · exact List.ne_nil_of_length_pos (length ▸ nonempty)
    · rwa [length]

/-- Ten samples out of order; 90 percent of them is the index of the greatest one already. -/
theorem ofSamples_nearestRank_ten :
    (Summary.ofSamples [7, 3, 10, 1, 5, 9, 2, 8, 4, 6]).percentiles =
        [(50, 6), (90, 10), (95, 10), (99, 10)] ∧
      (∀ p v, (p, v) ∈ (Summary.ofSamples [7, 3, 10, 1, 5, 9, 2, 8, 4, 6]).percentiles →
        NearestRank [7, 3, 10, 1, 5, 9, 2, 8, 4, 6] [1, 2, 3, 4, 5, 6, 7, 8, 9, 10] p v) ∧
      (Summary.ofSamples [7, 3, 10, 1, 5, 9, 2, 8, 4, 6]).figures.Pairwise (· ≤ ·) := by
  have ascending : [1, 2, 3, 4, 5, 6, 7, 8, 9, 10].Pairwise (· ≤ ·) := by decide
  have perm : [1, 2, 3, 4, 5, 6, 7, 8, 9, 10].Perm [7, 3, 10, 1, 5, 9, 2, 8, 4, 6] := by decide
  obtain ⟨-, ranks, ordered⟩ := ofSamples_nearestRank ascending perm (by decide) (by decide)
  refine ⟨?_, ranks, ordered⟩
  rw [Summary.ofSamples_eq ascending perm]
  rfl

/-! ## Bounds -/

lemma isLeast_ofSorted (ascending : sorted.Pairwise (· ≤ ·)) (some : sorted ≠ []) :
    IsLeast {x | x ∈ sorted} (Summary.ofSorted sorted).least := by
  obtain ⟨first, rest, rfl⟩ := List.exists_cons_of_ne_nil some
  refine ⟨List.mem_cons_self, fun x mem => ?_⟩
  rcases List.mem_cons.1 mem with rfl | mem
  · exact le_rfl
  · exact (List.pairwise_cons.1 ascending).1 x mem

lemma isGreatest_ofSorted (ascending : sorted.Pairwise (· ≤ ·)) (some : sorted ≠ []) :
    IsGreatest {x | x ∈ sorted} (Summary.ofSorted sorted).greatest := by
  obtain ⟨front, last, rfl⟩ := (List.eq_nil_or_concat' sorted).resolve_left some
  have found : (Summary.ofSorted (front ++ [last])).greatest = last := by
    rw [Summary.ofSorted, List.getLast?_concat]
    rfl
  rw [found]
  refine ⟨List.mem_append_right front List.mem_cons_self, fun x mem => ?_⟩
  rcases List.mem_append.1 mem with before | same
  · exact (List.pairwise_append.1 ascending).2.2 x before last List.mem_cons_self
  · exact (List.mem_singleton.1 same).le

/-- The figures of a summary and all percentiles are samples, and two of the figures bound them. -/
structure Spans (samples sorted : List Nat) (s : Summary) : Prop where
  least : IsLeast {x | x ∈ samples} s.least
  greatest : IsGreatest {x | x ∈ samples} s.greatest
  figures : ∀ v ∈ s.figures, v ∈ samples
  /-- The index is that of a sample, whatever the percentage is. -/
  index : ∀ p : Float, sorted[rank sorted.length p]? = some (percentile sorted p)
  mem : ∀ p : Float, percentile sorted p ∈ samples
  between : ∀ p : Float, s.least ≤ percentile sorted p ∧ percentile sorted p ≤ s.greatest

lemma spans_ofSorted (ascending : sorted.Pairwise (· ≤ ·)) (some : sorted ≠ []) :
    Spans sorted sorted (.ofSorted sorted) := by
  have least := isLeast_ofSorted ascending some
  have greatest := isGreatest_ofSorted ascending some
  have mem (p : Float) : percentile sorted p ∈ sorted :=
    List.mem_of_getElem? (getElem?_rank some p)
  refine ⟨least, greatest, fun v among => ?_, getElem?_rank some, mem, fun p => ?_⟩
  · obtain ⟨i, -, found⟩ := Summary.getElem?_of_mem_figures some among
    exact List.mem_of_getElem? found
  · exact ⟨least.2 (mem p), greatest.2 (mem p)⟩

lemma Spans.of_perm {s : Summary} (h : Spans sorted sorted s) (perm : sorted.Perm samples) :
    Spans samples sorted s := by
  have same : {x | x ∈ samples} = {x | x ∈ sorted} := Set.ext fun x => perm.mem_iff.symm
  refine ⟨?_, ?_, fun v mem => perm.mem_iff.1 (h.figures v mem), h.index,
    fun p => perm.mem_iff.1 (h.mem p), h.between⟩
  · rw [same]
    exact h.least
  · rw [same]
    exact h.greatest

/-- A summary depends on the samples alone and not on their order, and spans them. Without samples
it is all zero. -/
theorem ofSamples_unordered (ascending : sorted.Pairwise (· ≤ ·)) (perm : sorted.Perm samples) :
    (∀ other : List Nat, other.Perm samples →
        Summary.ofSamples other = Summary.ofSamples samples) ∧
      (samples ≠ [] → Spans samples sorted (.ofSamples samples)) ∧
      (samples = [] → Summary.ofSamples samples = ⟨0, 0, 0, 0, 0, 0⟩ ∧
        ∀ p : Float, percentile sorted p = 0) := by
  refine ⟨fun other same => Summary.ofSamples_of_perm same, fun some => ?_, ?_⟩
  · have some' : sorted ≠ [] := by
      rintro rfl
      exact some perm.nil_eq.symm
    rw [Summary.ofSamples_eq ascending perm]
    exact (spans_ofSorted ascending some').of_perm perm
  · rintro rfl
    obtain rfl := perm.eq_nil
    rw [Summary.ofSamples_eq ascending perm]
    exact ⟨rfl, fun p => rfl⟩

/-- A repeated sample; NaN selects the least sample, and infinity the greatest. -/
theorem ofSamples_unordered_repeated :
    Summary.ofSamples [1, 4, 4] = Summary.ofSamples [4, 1, 4] ∧
      Spans [4, 1, 4] [1, 4, 4] (.ofSamples [4, 1, 4]) ∧
      percentile [1, 4, 4] (0 / 0) = 1 ∧ percentile [1, 4, 4] (1 / 0) = 4 ∧
      percentile [1, 4, 4] (-1) = 1 := by
  have ascending : [1, 4, 4].Pairwise (· ≤ ·) := by decide
  have perm : [1, 4, 4].Perm [4, 1, 4] := by decide
  obtain ⟨same, spans, -⟩ := ofSamples_unordered ascending perm
  exact ⟨same _ perm, spans (by decide), rfl, by decide +kernel, by decide +kernel⟩

end PerfGate.Latency
