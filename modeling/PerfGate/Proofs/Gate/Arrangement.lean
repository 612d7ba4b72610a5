import Mathlib.Data.Prod.Lex
import Mathlib.Data.String.Basic
import PerfGate.Proofs.Decimal.TotalOrder
import PerfGate.Proofs.Gate.Partition

/-!
# The order of a report

Every list of a comparison is in an order in which its elements can stand in one way only
(`compareStores_arranged`). Regressions and improvements are sorted by a rank of two parts, the
place of the change among all doubles and the name. Names are different, so ranks are, and a list
sorted by different ranks is strictly sorted (`isCanonical_mergeSort`). The other lists keep the
order of the names in a store.
-/

namespace PerfGate

open Decimal (Precedes totalKey totalKey_lt_iff totalKey_injective)

/-! ## Lists in strict order -/

/-- The list is in strict order, and no other arrangement of its elements is. -/
structure IsCanonical {α : Type} (before : α → α → Prop) (list : List α) : Prop where
  ordered : list.Pairwise before
  only : ∀ other : List α, other.Perm list → other.Pairwise before → other = list

section

variable {α κ : Type} {list : List α}

lemma IsCanonical.of_pairwise {before : α → α → Prop} (asymm : ∀ a b, before a b → ¬ before b a)
    (ordered : list.Pairwise before) : IsCanonical before list where
  ordered := ordered
  only _ perm ordered' :=
    perm.eq_of_pairwise (fun a b _ _ lt gt => absurd gt (asymm a b lt)) ordered' ordered

variable [LinearOrder κ]

lemma isCanonical_of_key (key : α → κ) (ordered : list.Pairwise fun a b => key a < key b) :
    IsCanonical (fun a b => key a < key b) list :=
  .of_pairwise (fun _ _ => lt_asymm) ordered

/-- Elements with different keys are sorted strictly. -/
lemma isCanonical_mergeSort {key : α → κ} {le : α → α → Bool}
    (byKey : ∀ a b, le a b = true ↔ key a ≤ key b)
    (distinct : (list.map key).Nodup) :
    IsCanonical (fun a b => key a < key b) (list.mergeSort le) := by
  have sorted : (list.mergeSort le).Pairwise fun a b => le a b = true := by
    apply List.pairwise_mergeSort
    · intro a b c before before'
      rw [byKey] at *
      exact before.trans before'
    · intro a b
      rw [Bool.or_eq_true, byKey, byKey]
      exact le_total (key a) (key b)
  have apart : (list.mergeSort le).Pairwise fun a b => key a ≠ key b := by
    have perm := (List.mergeSort_perm list le).map key
    exact List.pairwise_map.1 (perm.nodup_iff.2 distinct)
  apply isCanonical_of_key key
  refine sorted.imp₂ (fun a b before ne => ?_) apart
  exact lt_of_le_of_ne ((byKey a b).1 before) ne

end

/-! ## The orders of entries -/

namespace Entry

/-- The entry belongs before the other one in a list that starts with the greatest change; of equal
changes the names decide. -/
def WorseThan (a b : Entry) : Prop :=
  Precedes b.delta a.delta ∨ a.delta = b.delta ∧ a.name < b.name

/-- The entry belongs before the other one in a list that starts with the least change; of equal
changes the names decide. -/
def BetterThan (a b : Entry) : Prop :=
  Precedes a.delta b.delta ∨ a.delta = b.delta ∧ a.name < b.name

/-- What entries are sorted by: a place for the change, and the name. -/
def rank (place : Float → ℤ) (e : Entry) : ℤ ×ₗ String :=
  toLex (place e.delta, e.name)

deriving instance DecidableEq for Entry

instance : DecidableRel WorseThan := fun a b =>
  inferInstanceAs (Decidable (Precedes b.delta a.delta ∨ a.delta = b.delta ∧ a.name < b.name))

variable {place : Float → ℤ} {a b : Entry}

lemma rank_lt_iff (injective : place.Injective) : a.rank place < b.rank place ↔
    place a.delta < place b.delta ∨ a.delta = b.delta ∧ a.name < b.name := by
  rw [rank, rank, Prod.Lex.toLex_lt_toLex, injective.eq_iff]

lemma worstFirst_iff (a b : Entry) :
    worstFirst a b = true ↔ a.rank (Neg.neg ∘ totalKey) ≤ b.rank (Neg.neg ∘ totalKey) := by
  rw [rank, rank, Prod.Lex.toLex_le_toLex]
  simp [worstFirst]

lemma bestFirst_iff (a b : Entry) : bestFirst a b = true ↔ a.rank totalKey ≤ b.rank totalKey := by
  rw [rank, rank, Prod.Lex.toLex_le_toLex]
  simp [bestFirst]

lemma worseThan_iff :
    a.WorseThan b ↔ a.rank (Neg.neg ∘ totalKey) < b.rank (Neg.neg ∘ totalKey) := by
  rw [rank_lt_iff (neg_injective.comp totalKey_injective), Function.comp_apply,
    Function.comp_apply, neg_lt_neg_iff, totalKey_lt_iff]
  rfl

lemma betterThan_iff : a.BetterThan b ↔ a.rank totalKey < b.rank totalKey := by
  rw [rank_lt_iff totalKey_injective, totalKey_lt_iff]
  rfl

/-- Entries of different names have different ranks. -/
lemma nodup_rank (place : Float → ℤ) {es : List Entry} (distinct : (es.map Entry.name).Nodup) :
    (es.map (rank place)).Nodup := by
  apply List.Nodup.of_map fun r : ℤ ×ₗ String => (ofLex r).2
  rw [List.map_map]
  exact distinct

end Entry

open Comparison

variable {baseline current : Store} {policy : Policy}

/-! ## The lists of a report -/

lemma nodup_names_filter (baseline current : Store) (policy : Policy) (p : Entry → Bool) :
    (((entries baseline current policy).filter p).map Entry.name).Nodup := by
  have sub := (List.filter_sublist (p := p) (l := entries baseline current policy)).map Entry.name
  exact sub.nodup (nodup_names_entries baseline current policy)

lemma pairwise_entries (baseline current : Store) (policy : Policy) :
    (entries baseline current policy).Pairwise fun a b => a.name < b.name := by
  have sub := names_entries_sublist baseline current policy
  exact List.pairwise_map.1 (current.pairwise_names.sublist sub)

lemma isCanonical_regressions (baseline current : Store) (policy : Policy) :
    IsCanonical Entry.WorseThan (compareStores baseline current policy).regressions := by
  have same : Entry.WorseThan = fun a b =>
      a.rank (Neg.neg ∘ totalKey) < b.rank (Neg.neg ∘ totalKey) := by
    funext a b
    exact propext Entry.worseThan_iff
  rw [same]
  exact isCanonical_mergeSort Entry.worstFirst_iff
    (Entry.nodup_rank _ (nodup_names_filter baseline current policy _))

lemma isCanonical_improvements (baseline current : Store) (policy : Policy) :
    IsCanonical Entry.BetterThan (compareStores baseline current policy).improvements := by
  have same : Entry.BetterThan = fun a b => a.rank totalKey < b.rank totalKey := by
    funext a b
    exact propext Entry.betterThan_iff
  rw [same]
  exact isCanonical_mergeSort Entry.bestFirst_iff
    (Entry.nodup_rank _ (nodup_names_filter baseline current policy _))

lemma isCanonical_names (s : Store) (p : String → Bool) :
    IsCanonical (· < ·) (s.names.filter p) :=
  isCanonical_of_key id (s.pairwise_names.filter p)

/-- The entries with a verdict, by a condition that decides the verdict. -/
lemma entriesOf_perm_filter (v : Verdict) {p : Entry → Bool}
    (h : ∀ e, IsEntry baseline current policy e → (e.verdict = v ↔ p e = true)) :
    ((compareStores baseline current policy).entriesOf v).Perm
      ((entries baseline current policy).filter p) := by
  have same : (entries baseline current policy).filter (·.verdict == v) =
      (entries baseline current policy).filter p := by
    apply List.filter_congr
    intro e listed
    rw [Bool.eq_iff_iff, beq_iff_eq]
    exact h e (mem_entries.1 listed)
  rw [← same]
  exact entriesOf_perm baseline current policy v

/-- In which order the lists of a report are, and which entries they have: there is one entry for
each name that can be compared, and it is in one of the first three lists. -/
structure Comparison.Arranged (report : Comparison) (baseline current : Store) (policy : Policy) :
    Prop where
  entries : ∀ e, e ∈ entries baseline current policy ↔ IsEntry baseline current policy e
  distinct : ((Comparison.entries baseline current policy).map Entry.name).Nodup
  regressions : report.regressions.Perm
    ((Comparison.entries baseline current policy).filter fun e => e.threshold < e.delta)
  worstFirst : IsCanonical Entry.WorseThan report.regressions
  improvements : report.improvements.Perm
    ((Comparison.entries baseline current policy).filter fun e =>
      ¬ e.threshold < e.delta ∧ e.delta < -e.threshold)
  /-- Only a threshold that is not valid can be exceeded on both sides. -/
  improvements_of_isValid : policy.IsValid → report.improvements.Perm
    ((Comparison.entries baseline current policy).filter fun e => e.delta < -e.threshold)
  bestFirst : IsCanonical Entry.BetterThan report.improvements
  unchanged : report.unchanged.Perm
    ((Comparison.entries baseline current policy).filter fun e =>
      ¬ e.threshold < e.delta ∧ ¬ e.delta < -e.threshold)
  byName : IsCanonical (fun a b => a.name < b.name) report.unchanged
  new : IsCanonical (· < ·) report.new
  missing : IsCanonical (· < ·) report.missing

/-- The lists of a report are in an order that leaves no choice. -/
theorem compareStores_arranged (baseline current : Store) (policy : Policy) :
    (compareStores baseline current policy).Arranged baseline current policy where
  entries _ := mem_entries
  distinct := nodup_names_entries baseline current policy
  regressions := by
    apply entriesOf_perm_filter .regression
    intro e _
    rw [decide_eq_true_iff]
    exact Entry.verdict_eq_regression
  worstFirst := isCanonical_regressions baseline current policy
  improvements := by
    apply entriesOf_perm_filter .improvement
    intro e _
    rw [decide_eq_true_iff]
    exact Entry.verdict_eq_improvement
  improvements_of_isValid valid := by
    apply entriesOf_perm_filter .improvement
    intro e entry
    rw [decide_eq_true_iff, Entry.verdict_eq_improvement, and_iff_right_iff_imp]
    exact Policy.not_both_beyond (entry.isValidPct_threshold valid)
  bestFirst := isCanonical_improvements baseline current policy
  unchanged := by
    apply entriesOf_perm_filter .unchanged
    intro e _
    rw [decide_eq_true_iff]
    exact Entry.verdict_eq_unchanged
  byName := isCanonical_of_key Entry.name ((pairwise_entries baseline current policy).filter _)
  new := isCanonical_names current _
  missing := isCanonical_names baseline _

/-- Benchmarks of which two have changed alike. -/
def tiedBaseline : Store :=
  .ofList [("a", 100), ("b", 100), ("c", 100), ("d", 100)]

def tiedCurrent : Store :=
  .ofList [("a", 130), ("b", 150), ("c", 130), ("d", 70)]

/-- Their regressions, in the order of a report. -/
def tiedRegressions : List Entry :=
  [.new "b" 100 150 10, .new "a" 100 130 10, .new "c" 100 130 10]

theorem compareStores_arranged_tied :
    tiedRegressions.Perm (compareStores tiedBaseline tiedCurrent .standard).regressions ∧
      tiedRegressions.Pairwise Entry.WorseThan ∧
      (compareStores tiedBaseline tiedCurrent .standard).regressions = tiedRegressions ∧
      Policy.standard.IsValid ∧
      (compareStores tiedBaseline tiedCurrent .standard).improvements.Perm
        ((entries tiedBaseline tiedCurrent .standard).filter fun e => e.delta < -e.threshold) := by
  have arranged := compareStores_arranged tiedBaseline tiedCurrent .standard
  have perm : tiedRegressions.Perm
      ((entries tiedBaseline tiedCurrent .standard).filter fun e => e.threshold < e.delta) := by
    decide +kernel
  have perm' := perm.trans arranged.regressions.symm
  have ordered : tiedRegressions.Pairwise Entry.WorseThan := by
    decide +kernel
  exact ⟨perm', ordered, (arranged.worstFirst.only tiedRegressions perm' ordered).symm,
    Policy.isValid_standard, arranged.improvements_of_isValid Policy.isValid_standard⟩

end PerfGate
