import Mathlib.Data.Finset.Card
import PerfGate.Proofs.Gate.Boundary
import PerfGate.Proofs.Gate.ValidPolicy
import PerfGate.Proofs.Measurement.Store

/-!
# The five lists of a comparison

A comparison lists every name of the two stores at most once: a name that is in one store only is
new or missing, a name whose two values are positive has an entry in one of the other lists, and a
name with a value of zero or below is in none. So the lists together with the names of the last kind
account for all names (`Comparison.Partitions`, `compareStores_partitions`).
-/

namespace PerfGate

open Decimal

/-! ## NaN -/

lemma Decimal.not_nan_of_number {x : Float} (h : magnitudeBits x ≤ infinityBits) :
    Binary.ofFloat x ≠ .nan := fun nan => absurd (parts_of_nan nan) (not_lt.2 h)

/-- No change is beyond a valid threshold on both sides. -/
lemma Policy.not_both_beyond {t d : Float} (valid : isValidPct t) (below : d < -t) : ¬ t < d := by
  have finite := lt_infinityBits_of_isFinite (Bool.and_eq_true_iff.1 valid).1
  have number := number_of_lt below
  have negated : magnitudeBits (-t) ≤ infinityBits := by
    rw [(parts_neg finite.le).2]
    exact finite.le
  have positive := value_pos_of_isValidPct valid
  rw [lt_iff_value number negated, value_neg finite.le] at below
  rw [lt_iff_value finite.le number]
  linarith

/-! ## Names of a store -/

namespace Store

variable {s : Store} {name : String}

/-- The names in at least one of two stores. -/
def allNames (s t : Store) : Finset String :=
  s.names.toFinset ∪ t.names.toFinset

lemma mem_allNames {s t : Store} :
    name ∈ s.allNames t ↔ (∃ x, s.get? name = some x) ∨ ∃ x, t.get? name = some x := by
  rw [allNames, Finset.mem_union, List.mem_toFinset, List.mem_toFinset, mem_names_iff,
    mem_names_iff]

end Store

namespace Comparison

/-! ## Entries -/

/-- The entry is the one of a name that both stores hold with values that are not zero or below: it
has these values, the change between them, and the override of the name or else the default. -/
structure IsEntry (baseline current : Store) (policy : Policy) (e : Entry) : Prop where
  stored : baseline.get? e.name = some e.baseline
  stored' : current.get? e.name = some e.current
  baseline_pos : ¬ e.baseline ≤ 0
  current_pos : ¬ e.current ≤ 0
  delta : e.delta = (e.current - e.baseline) / e.baseline * 100
  threshold : e.threshold = (policy.overrideOf e.name).getD policy.default

/-- Both stores hold the name, and one of the values is zero or below. -/
def isExcluded (baseline current : Store) (name : String) : Bool :=
  match baseline.get? name, current.get? name with
  | some b, some c => b ≤ 0 || c ≤ 0
  | _, _ => false

variable {baseline current : Store} {policy : Policy} {name : String} {e : Entry}

lemma isExcluded_iff : isExcluded baseline current name ↔
    ∃ b c, baseline.get? name = some b ∧ current.get? name = some c ∧ (b ≤ 0 ∨ c ≤ 0) := by
  unfold isExcluded
  split
  · rename_i b c stored stored'
    rw [stored, stored']
    simp
  · rename_i none
    constructor
    · nofun
    · rintro ⟨b, c, stored, stored', -⟩
      exact absurd stored' (none b c stored)

lemma isEntry_new {b c : Float} (stored : baseline.get? name = some b)
    (stored' : current.get? name = some c) (hb : ¬ b ≤ 0) (hc : ¬ c ≤ 0) :
    IsEntry baseline current policy (.new name b c (policy.effective name)) :=
  ⟨stored, stored', hb, hc, rfl, rfl⟩

lemma IsEntry.eq_new (h : IsEntry baseline current policy e) :
    e = .new e.name e.baseline e.current (policy.effective e.name) := by
  have delta := h.delta
  have threshold := h.threshold
  obtain ⟨name, b, c, d, t⟩ := e
  simp only at delta threshold
  rw [delta, threshold]
  rfl

lemma mem_entries : e ∈ entries baseline current policy ↔ IsEntry baseline current policy e := by
  constructor
  · intro listed
    obtain ⟨⟨name, c⟩, stored', made⟩ := List.mem_filterMap.1 listed
    rw [Store.mem_toList] at stored'
    unfold entry? at made
    split at made
    · rename_i b stored
      split at made
      · cases made
      · rename_i positive
        cases made
        rw [Bool.or_eq_true, decide_eq_true_iff, decide_eq_true_iff, not_or] at positive
        exact isEntry_new stored stored' positive.1 positive.2
    · cases made
  · intro h
    have found := (mem_entries_iff policy h.stored h.stored' h.baseline_pos h.current_pos).2
      h.eq_new
    exact found.1

/-- The names of the entries are among the names of the current store, in the same order. -/
lemma names_entries_sublist (baseline current : Store) (policy : Policy) :
    ((entries baseline current policy).map Entry.name).Sublist current.names := by
  rw [← Store.map_fst_toList, entries]
  induction current.toList with
  | nil => exact .slnil
  | cons m ms ih =>
    rw [List.filterMap_cons]
    split
    · exact ih.cons m.1
    · rename_i e made
      rw [List.map_cons, List.map_cons, name_of_entry made]
      exact ih.cons_cons m.1

lemma nodup_names_entries (baseline current : Store) (policy : Policy) :
    ((entries baseline current policy).map Entry.name).Nodup :=
  (names_entries_sublist baseline current policy).nodup (Store.nodup_names current)

lemma mem_names_entries : name ∈ (entries baseline current policy).map Entry.name ↔
    ∃ b c, baseline.get? name = some b ∧ current.get? name = some c ∧ ¬ b ≤ 0 ∧ ¬ c ≤ 0 := by
  rw [List.mem_map]
  constructor
  · rintro ⟨e, listed, rfl⟩
    obtain ⟨stored, stored', hb, hc, -, -⟩ := mem_entries.1 listed
    exact ⟨_, _, stored, stored', hb, hc⟩
  · rintro ⟨b, c, stored, stored', hb, hc⟩
    exact ⟨_, mem_entries.2 (isEntry_new stored stored' hb hc), rfl⟩

/-! ## Lists -/

/-- The entries with a verdict. -/
def entriesOf (report : Comparison) : Verdict → List Entry
  | .regression => report.regressions
  | .improvement => report.improvements
  | .unchanged => report.unchanged

/-- All names that are listed, list by list. -/
def listedNames (report : Comparison) : List String :=
  (report.regressions ++ (report.improvements ++ report.unchanged)).map Entry.name ++
    (report.new ++ report.missing)

lemma length_listedNames (report : Comparison) : report.listedNames.length =
    report.comparedCount + report.new.length + report.missing.length := by
  simp only [listedNames, comparedCount, List.length_append, List.length_map]
  omega

/-- Every entry has one of the three verdicts. -/
lemma filter_verdict_perm (es : List Entry) :
    (es.filter (·.verdict == .regression) ++ (es.filter (·.verdict == .improvement) ++
      es.filter (·.verdict == .unchanged))).Perm es := by
  induction es with
  | nil => exact .nil
  | cons e es ih =>
    simp only [List.filter_cons]
    cases e.verdict with
    | regression => exact ih.cons e
    | improvement => exact List.perm_middle.trans (ih.cons e)
    | unchanged =>
      refine .trans ?_ (ih.cons e)
      rw [← List.append_assoc, ← List.append_assoc]
      exact List.perm_middle

end Comparison

open Comparison

variable {baseline current : Store} {policy : Policy} {name : String} {e : Entry}

lemma entriesOf_perm (baseline current : Store) (policy : Policy) (v : Verdict) :
    ((compareStores baseline current policy).entriesOf v).Perm
      ((entries baseline current policy).filter (·.verdict == v)) := by
  cases v with
  | regression => exact List.mergeSort_perm _ _
  | improvement => exact List.mergeSort_perm _ _
  | unchanged => exact .rfl

lemma mem_entriesOf (v : Verdict) : e ∈ (compareStores baseline current policy).entriesOf v ↔
    IsEntry baseline current policy e ∧ e.verdict = v := by
  rw [(entriesOf_perm baseline current policy v).mem_iff, List.mem_filter, mem_entries, beq_iff_eq]

/-- The lists of entries hold all entries between them. -/
lemma listedNames_perm (baseline current : Store) (policy : Policy) :
    (compareStores baseline current policy).listedNames.Perm
      ((entries baseline current policy).map Entry.name ++
        ((compareStores baseline current policy).new ++
          (compareStores baseline current policy).missing)) := by
  have perm := entriesOf_perm baseline current policy
  have all := (perm .regression).append ((perm .improvement).append (perm .unchanged))
  exact ((all.trans (filter_verdict_perm _)).map _).append_right _

lemma mem_new : name ∈ (compareStores baseline current policy).new ↔
    baseline.get? name = none ∧ ∃ c, current.get? name = some c := by
  change name ∈ current.names.filter _ ↔ _
  rw [List.mem_filter, Store.mem_names_iff, Store.not_contains_iff, and_comm]

lemma mem_missing : name ∈ (compareStores baseline current policy).missing ↔
    current.get? name = none ∧ ∃ b, baseline.get? name = some b := by
  change name ∈ baseline.names.filter _ ↔ _
  rw [List.mem_filter, Store.mem_names_iff, Store.not_contains_iff, and_comm]

lemma nodup_listedNames (baseline current : Store) (policy : Policy) :
    (compareStores baseline current policy).listedNames.Nodup := by
  rw [(listedNames_perm baseline current policy).nodup_iff]
  refine (nodup_names_entries baseline current policy).append (.append ?_ ?_ ?_) ?_
  · exact (Store.nodup_names current).filter _
  · exact (Store.nodup_names baseline).filter _
  · intro name isNew isMissing
    obtain ⟨-, c, stored'⟩ := mem_new.1 isNew
    rw [(mem_missing.1 isMissing).1] at stored'
    cases stored'
  · intro name compared apart
    obtain ⟨b, c, stored, stored', -⟩ := mem_names_entries.1 compared
    rcases List.mem_append.1 apart with isNew | isMissing
    · rw [(mem_new.1 isNew).1] at stored
      cases stored
    · rw [(mem_missing.1 isMissing).1] at stored'
      cases stored'

/-- The names that are listed are those of the two stores that are not excluded. -/
lemma mem_listedNames : name ∈ (compareStores baseline current policy).listedNames ↔
    name ∈ baseline.allNames current ∧ ¬ isExcluded baseline current name := by
  rw [(listedNames_perm baseline current policy).mem_iff, List.mem_append, List.mem_append,
    mem_names_entries, mem_new, mem_missing, Store.mem_allNames, isExcluded_iff]
  cases stored : baseline.get? name with
  | none => simp
  | some b =>
    cases stored' : current.get? name with
    | none => simp
    | some c => simp

/-! ## The account -/

/-- No value of the store is infinite or NaN. -/
def Store.IsFinite (s : Store) : Prop :=
  ∀ name x, s.get? name = some x → isFinite x

/-- What a comparison of two stores lists. -/
structure Comparison.Partitions (report : Comparison) (baseline current : Store)
    (policy : Policy) : Prop where
  once : report.listedNames.Nodup
  known : ∀ name ∈ report.listedNames, name ∈ baseline.allNames current
  new : ∀ name, name ∈ report.new ↔
    baseline.get? name = none ∧ ∃ c, current.get? name = some c
  missing : ∀ name, name ∈ report.missing ↔
    current.get? name = none ∧ ∃ b, baseline.get? name = some b
  excluded : ∀ name b c, baseline.get? name = some b → current.get? name = some c →
    b ≤ 0 ∨ c ≤ 0 → name ∉ report.listedNames
  compared : ∀ name b c, baseline.get? name = some b → current.get? name = some c →
    ¬ b ≤ 0 → ¬ c ≤ 0 → ∃! v, ∃ e ∈ report.entriesOf v, e.name = name
  regressions : ∀ e, e ∈ report.regressions ↔
    IsEntry baseline current policy e ∧ e.threshold < e.delta
  improvements : ∀ e, e ∈ report.improvements ↔
    IsEntry baseline current policy e ∧ ¬ e.threshold < e.delta ∧ e.delta < -e.threshold
  unchanged : ∀ e, e ∈ report.unchanged ↔
    IsEntry baseline current policy e ∧ ¬ e.threshold < e.delta ∧ ¬ e.delta < -e.threshold
  /-- Only a threshold that is not valid can be exceeded on both sides. -/
  improvements_of_isValid : policy.IsValid → ∀ e, e ∈ report.improvements ↔
    IsEntry baseline current policy e ∧ e.delta < -e.threshold
  count : (baseline.allNames current).card =
    report.comparedCount + report.new.length + report.missing.length +
      ((baseline.allNames current).filter (isExcluded baseline current ·)).card
  number : baseline.IsFinite → current.IsFinite → ∀ v, ∀ e ∈ report.entriesOf v,
    Binary.ofFloat e.delta ≠ .nan
  within : baseline.IsFinite → current.IsFinite → policy.IsValid → ∀ e ∈ report.unchanged,
    -e.threshold ≤ e.delta ∧ e.delta ≤ e.threshold

lemma Entry.verdict_eq_regression : e.verdict = .regression ↔ e.threshold < e.delta := by
  unfold verdict
  split
  · rename_i above
    exact iff_of_true rfl above
  · rename_i above
    refine iff_of_false ?_ above
    split <;> exact Verdict.noConfusion

lemma Entry.verdict_eq_improvement :
    e.verdict = .improvement ↔ ¬ e.threshold < e.delta ∧ e.delta < -e.threshold := by
  unfold verdict
  split
  · rename_i above
    exact iff_of_false Verdict.noConfusion fun h => h.1 above
  split
  · rename_i above below
    exact iff_of_true rfl ⟨above, below⟩
  · rename_i above below
    exact iff_of_false Verdict.noConfusion fun h => below h.2

lemma Entry.verdict_eq_unchanged :
    e.verdict = .unchanged ↔ ¬ e.threshold < e.delta ∧ ¬ e.delta < -e.threshold := by
  unfold verdict
  split
  · rename_i above
    exact iff_of_false Verdict.noConfusion fun h => h.1 above
  split
  · rename_i above below
    exact iff_of_false Verdict.noConfusion fun h => h.2 below
  · rename_i above below
    exact iff_of_true rfl ⟨above, below⟩

lemma Comparison.mem_regressions : e ∈ (compareStores baseline current policy).regressions ↔
    IsEntry baseline current policy e ∧ e.threshold < e.delta :=
  (mem_entriesOf .regression).trans (and_congr_right' Entry.verdict_eq_regression)

/-- A name regresses if both stores hold it with positive values and its change is beyond its
threshold. -/
lemma mem_namesOf_regression :
    name ∈ (compareStores baseline current policy).namesOf .regression ↔
      ∃ b c, (baseline.get? name = some b ∧ current.get? name = some c) ∧ (¬ b ≤ 0 ∧ ¬ c ≤ 0) ∧
        policy.effective name < (Entry.new name b c (policy.effective name)).delta := by
  constructor
  · intro listed
    obtain ⟨e, regression, rfl⟩ := List.mem_map.1 listed
    obtain ⟨entry, beyond⟩ := Comparison.mem_regressions.1 regression
    refine ⟨_, _, ⟨entry.stored, entry.stored'⟩, ⟨entry.baseline_pos, entry.current_pos⟩, ?_⟩
    rw [entry.eq_new] at beyond
    exact beyond
  · intro ⟨b, c, ⟨stored, stored'⟩, ⟨hb, hc⟩, beyond⟩
    rw [mem_namesOf_iff policy stored stored' hb hc]
    exact Entry.verdict_eq_regression.2 beyond

namespace Comparison.IsEntry

variable (h : IsEntry baseline current policy e)
include h

lemma isValidPct_threshold (valid : policy.IsValid) : Policy.isValidPct e.threshold := by
  rw [h.threshold]
  exact valid.effective e.name

/-- The values of an entry of finite stores, as numbers. -/
lemma values (finite : baseline.IsFinite) (finite' : current.IsFinite) :
    magnitudeBits e.baseline < infinityBits ∧ magnitudeBits e.current < infinityBits ∧
      0 < value e.baseline ∧ 0 < value e.current := by
  have hb := lt_infinityBits_of_isFinite (finite _ _ h.stored)
  have hc := lt_infinityBits_of_isFinite (finite' _ _ h.stored')
  have pos := h.baseline_pos
  have pos' := h.current_pos
  rw [le_zero_iff_value hb.le, not_le] at pos
  rw [le_zero_iff_value hc.le, not_le] at pos'
  exact ⟨hb, hc, pos, pos'⟩

/-- The change of finite values is a number. -/
lemma number_delta (finite : baseline.IsFinite) (finite' : current.IsFinite) :
    magnitudeBits e.delta ≤ infinityBits := by
  obtain ⟨hb, hc, pos, pos'⟩ := h.values finite finite'
  rw [h.eq_new]
  exact (Entry.delta_isNumber e.name _ hb hc pos pos').1

end Comparison.IsEntry

/-- A number that is not beyond a valid threshold on either side lies between both sides. -/
lemma Policy.within_of_not_beyond {t d : Float} (valid : isValidPct t)
    (number : magnitudeBits d ≤ infinityBits) (above : ¬ t < d) (below : ¬ d < -t) :
    -t ≤ d ∧ d ≤ t := by
  have finite := lt_infinityBits_of_isFinite (Bool.and_eq_true_iff.1 valid).1
  have negated : magnitudeBits (-t) ≤ infinityBits := by
    rw [(parts_neg finite.le).2]
    exact finite.le
  rw [lt_iff_value finite.le number, not_lt] at above
  rw [lt_iff_value number negated, not_lt] at below
  rw [le_iff_value negated number, le_iff_value number finite.le]
  exact ⟨below, above⟩

/-- All names are listed but those that are excluded. -/
lemma card_allNames (baseline current : Store) (policy : Policy) :
    (baseline.allNames current).card =
      (compareStores baseline current policy).listedNames.length +
        ((baseline.allNames current).filter (isExcluded baseline current ·)).card := by
  have listed : (compareStores baseline current policy).listedNames.toFinset =
      (baseline.allNames current).filter (¬ isExcluded baseline current ·) := by
    ext name
    rw [List.mem_toFinset, Finset.mem_filter, mem_listedNames]
  rw [← List.toFinset_card_of_nodup (nodup_listedNames baseline current policy), listed, add_comm,
    Finset.card_filter_add_card_filter_not]

/-- A comparison lists every name of the two stores where it belongs, and only there. -/
theorem compareStores_partitions (baseline current : Store) (policy : Policy) :
    (compareStores baseline current policy).Partitions baseline current policy where
  once := nodup_listedNames baseline current policy
  known name listed := (mem_listedNames.1 listed).1
  new _ := mem_new
  missing _ := mem_missing
  excluded name b c stored stored' nonpos listed :=
    (mem_listedNames.1 listed).2 (isExcluded_iff.2 ⟨b, c, stored, stored', nonpos⟩)
  compared name b c stored stored' hb hc := by
    have entry : IsEntry baseline current policy (.new name b c (policy.effective name)) :=
      isEntry_new stored stored' hb hc
    refine ⟨_, ⟨_, (mem_entriesOf _).2 ⟨entry, rfl⟩, rfl⟩, ?_⟩
    -- a name has one entry, and an entry has one verdict
    rintro v ⟨e, listed, rfl⟩
    obtain ⟨entry', rfl⟩ := (mem_entriesOf v).1 listed
    have same := (mem_entries_iff policy stored stored' hb hc).1 ⟨mem_entries.2 entry', rfl⟩
    rw [← same]
  regressions _ := Comparison.mem_regressions
  improvements _ :=
    (mem_entriesOf .improvement).trans (and_congr_right' Entry.verdict_eq_improvement)
  unchanged _ := (mem_entriesOf .unchanged).trans (and_congr_right' Entry.verdict_eq_unchanged)
  improvements_of_isValid valid e := by
    refine (mem_entriesOf .improvement).trans (and_congr_right fun entry => ?_)
    rw [Entry.verdict_eq_improvement, and_iff_right_iff_imp]
    exact Policy.not_both_beyond (entry.isValidPct_threshold valid)
  count := by
    rw [card_allNames baseline current policy, length_listedNames]
  number finite finite' v e listed :=
    not_nan_of_number (((mem_entriesOf v).1 listed).1.number_delta finite finite')
  within finite finite' valid e listed := by
    obtain ⟨entry, verdict⟩ := (mem_entriesOf .unchanged).1 listed
    obtain ⟨above, below⟩ := Entry.verdict_eq_unchanged.1 verdict
    exact Policy.within_of_not_beyond (entry.isValidPct_threshold valid)
      (entry.number_delta finite finite') above below

/-- A baseline, and measurements that differ from it in every way. -/
def sampleBaseline : Store :=
  .ofList [("faster", 100), ("gone", 7), ("similar", 100), ("slower", 100), ("zero", 0)]

def sampleCurrent : Store :=
  .ofList [("added", 5), ("faster", 70), ("similar", 105), ("slower", 130), ("zero", 1)]

lemma Store.isFinite_of_all {s : Store} (h : s.toList.all fun m => Decimal.isFinite m.2) :
    s.IsFinite := by
  intro name x stored
  exact List.all_eq_true.1 h (name, x) (Store.mem_toList.2 stored)

theorem compareStores_partitions_sample :
    (compareStores sampleBaseline sampleCurrent .standard).listedNames =
        ["slower", "faster", "similar", "added", "gone"] ∧
      sampleBaseline.IsFinite ∧ sampleCurrent.IsFinite ∧ Policy.standard.IsValid ∧
      6 = 3 + 1 + 1 + 1 ∧
      ∀ e ∈ (compareStores sampleBaseline sampleCurrent .standard).unchanged,
        -e.threshold ≤ e.delta ∧ e.delta ≤ e.threshold := by
  have finite : sampleBaseline.IsFinite := Store.isFinite_of_all (by decide +kernel)
  have finite' : sampleCurrent.IsFinite := Store.isFinite_of_all (by decide +kernel)
  have partitions := compareStores_partitions sampleBaseline sampleCurrent .standard
  have all : (sampleBaseline.allNames sampleCurrent).card = 6 := by decide +kernel
  have compared : (compareStores sampleBaseline sampleCurrent .standard).comparedCount = 3 := by
    decide +kernel
  have excluded : ((sampleBaseline.allNames sampleCurrent).filter
      (isExcluded sampleBaseline sampleCurrent ·)).card = 1 := by decide +kernel
  have count := partitions.count
  rw [all, compared, excluded] at count
  exact ⟨by decide +kernel, finite, finite', Policy.isValid_standard, count,
    partitions.within finite finite' Policy.isValid_standard⟩

end PerfGate
