import PerfGate.Proofs.Decimal.Monotone
import PerfGate.Proofs.Gate.Partition

/-!
# Comparing in both directions

A store that is compared with itself has not changed at all. If baseline and current measurements
change places, new names and missing names do, and what was an improvement is a regression: the
difference stays the same up to its sign, and its share of the lesser value is the greater one
(`neg_roundedChange_le`). The converse fails, since a regression can be too small a share of the
greater value. But nothing regresses in both directions (`compareStores_directed`).
-/

namespace PerfGate

open Decimal

/-- The way back from a greater value to a lesser one is at least as far, also as it is rounded. -/
lemma neg_roundedChange_le {b c : ℚ} (pos : 0 < c) (le : c ≤ b) :
    -roundedChange b c ≤ roundedChange c b := by
  have difference : 0 ≤ rounded (b - c) := rounded_nonneg (sub_nonneg.2 le)
  have share : rounded (b - c) / b ≤ rounded (b - c) / c :=
    div_le_div_of_nonneg_left difference pos le
  have sign : rounded (c - b) = -rounded (b - c) := by
    rw [← rounded_neg, neg_sub]
  calc -roundedChange b c
      = rounded (rounded (rounded (b - c) / b) * 100) := by
        rw [roundedChange, sign, neg_div, rounded_neg, neg_mul, rounded_neg, neg_neg]
    _ ≤ rounded (rounded (rounded (b - c) / c) * 100) :=
        monotone_rounded (mul_le_mul_of_nonneg_right (monotone_rounded share) (by norm_num))
    _ = roundedChange c b := rfl

/-! ## Entries in both directions -/

namespace Entry

/-- The entry of the name when baseline and current value change places. -/
def reversed (e : Entry) : Entry :=
  .new e.name e.current e.baseline e.threshold

variable {name : String} {b c t : Float}

/-- A finite positive value has not changed against itself. -/
lemma delta_self (finite : magnitudeBits b < infinityBits) (pos : 0 < value b) :
    (new name b b t).delta = 0 := by
  have none : (0 : Float) * 100 = 0 := by decide
  change (b - b) / b * 100 = 0
  rw [sub_self_of_finite finite, zero_div_of_pos finite pos, none]

section

variable (hb : magnitudeBits b < infinityBits) (hc : magnitudeBits c < infinityBits)
  (pos : 0 < value b) (pos' : 0 < value c)
include hb hc pos pos'

/-- An improvement is beyond the threshold upwards on the way back, whatever the threshold is. -/
lemma beyond_of_improvement (h : (new name b c t).verdict = .improvement) :
    t < (new name c b t).delta := by
  obtain ⟨above, below⟩ := verdict_eq_improvement.1 h
  change ¬ t < (new name b c t).delta at above
  change (new name b c t).delta < -t at below
  obtain ⟨number, change⟩ := delta_isNumber name t hb hc pos pos'
  obtain ⟨number', change'⟩ := delta_isNumber name t hc hb pos' pos
  have negated := number_of_gt below
  have threshold := number_of_neg negated
  rw [lt_iff_value threshold number, change, not_lt] at above
  rw [lt_iff_value number negated, change, value_neg threshold] at below
  rw [lt_iff_value threshold number', change']
  rcases le_total (value c) (value b) with le | le
  · have back := neg_roundedChange_le pos' le
    linarith
  · -- a value that is not lower improves on no threshold
    have nonneg := roundedChange_nonneg pos le
    linarith

/-- One of the two directions does not go upwards. -/
lemma not_both_regress (valid : Policy.isValidPct t) (h : t < (new name b c t).delta) :
    ¬ t < (new name c b t).delta := by
  obtain ⟨number, change⟩ := delta_isNumber name t hb hc pos pos'
  obtain ⟨number', change'⟩ := delta_isNumber name t hc hb pos' pos
  have threshold := number_of_lt h
  have positive := Policy.value_pos_of_isValidPct valid
  rw [lt_iff_value threshold number, change] at h
  rw [lt_iff_value threshold number', change']
  rcases le_total (value c) (value b) with le | le
  · have nonpos := roundedChange_nonpos pos le
    linarith
  · have nonpos := roundedChange_nonpos pos' le
    linarith

end

end Entry

variable {s baseline current : Store} {policy : Policy} {e : Entry} {name : String}

/-! ## A store and itself -/

/-- All values of the store are greater than zero. -/
def Store.IsPositive (s : Store) : Prop :=
  ∀ name x, s.get? name = some x → 0 < x

/-- A finite positive value of a store, as a number. -/
lemma Store.IsFinite.pos (finite : s.IsFinite) (positive : s.IsPositive) {x : Float}
    (stored : s.get? name = some x) : magnitudeBits x < infinityBits ∧ 0 < value x := by
  have bits := lt_infinityBits_of_isFinite (finite name x stored)
  exact ⟨bits, (pos_iff_value bits.le).1 (positive name x stored)⟩

/-- Every name of the store has an entry, in which nothing changes. -/
lemma Comparison.entries_self (finite : s.IsFinite) (positive : s.IsPositive) (policy : Policy) :
    entries s s policy = s.toList.map fun m => .new m.1 m.2 m.2 (policy.effective m.1) := by
  rw [entries, ← List.filterMap_eq_map]
  apply List.filterMap_congr
  intro m listed
  have stored := Store.mem_toList.1 listed
  obtain ⟨bits, pos⟩ := finite.pos positive stored
  have above : ¬ m.2 ≤ 0 := by
    rwa [le_zero_iff_value bits.le, not_le]
  exact entry_eq policy stored above above

lemma Comparison.verdict_self (finite : s.IsFinite) (positive : s.IsPositive)
    (valid : policy.IsValid) (listed : e ∈ entries s s policy) :
    e.delta = 0 ∧ e.verdict = .unchanged := by
  rw [entries_self finite positive] at listed
  obtain ⟨m, stored, rfl⟩ := List.mem_map.1 listed
  obtain ⟨bits, pos⟩ := finite.pos positive (Store.mem_toList.1 stored)
  have none : (Entry.new m.1 m.2 m.2 (policy.effective m.1)).delta = 0 := Entry.delta_self bits pos
  have threshold := valid.effective m.1
  have top := lt_infinityBits_of_isFinite (Bool.and_eq_true_iff.1 threshold).1
  have beyond := Policy.value_pos_of_isValidPct threshold
  refine ⟨none, Entry.verdict_eq_unchanged.2 ?_⟩
  rw [none]
  change ¬ policy.effective m.1 < 0 ∧ ¬ 0 < -policy.effective m.1
  have negated : magnitudeBits (-policy.effective m.1) ≤ infinityBits := by
    rw [(parts_neg top.le).2]
    exact top.le
  rw [lt_iff_value top.le (by decide), value_zero, pos_iff_value negated, value_neg top.le]
  constructor <;> linarith

/-! ## Changing places -/

namespace Comparison.IsEntry

variable (h : IsEntry baseline current policy e)
include h

lemma reversed : IsEntry current baseline policy e.reversed :=
  ⟨h.stored', h.stored, h.current_pos, h.baseline_pos, rfl, h.threshold⟩

lemma eq_new' : e = .new e.name e.baseline e.current e.threshold := by
  rw [h.threshold]
  exact h.eq_new

end Comparison.IsEntry

open Comparison

lemma reversed_mem_regressions (finite : baseline.IsFinite) (finite' : current.IsFinite)
    (listed : e ∈ (compareStores baseline current policy).improvements) :
    e.reversed ∈ (compareStores current baseline policy).regressions := by
  obtain ⟨entry, verdict⟩ := (mem_entriesOf .improvement).1 listed
  obtain ⟨hb, hc, pos, pos'⟩ := entry.values finite finite'
  rw [entry.eq_new'] at verdict
  exact mem_regressions.2 ⟨entry.reversed, Entry.beyond_of_improvement hb hc pos pos' verdict⟩

lemma not_mem_regressions_reversed (finite : baseline.IsFinite) (finite' : current.IsFinite)
    (valid : policy.IsValid)
    (listed : name ∈ (compareStores baseline current policy).namesOf .regression) :
    name ∉ (compareStores current baseline policy).namesOf .regression := by
  intro back
  obtain ⟨b, c, ⟨stored, stored'⟩, ⟨hb, hc⟩, beyond⟩ := mem_namesOf_regression.1 listed
  obtain ⟨c', b', ⟨again', again⟩, -, beyond'⟩ := mem_namesOf_regression.1 back
  cases stored.symm.trans again
  cases stored'.symm.trans again'
  have entry : IsEntry baseline current policy (.new name b c (policy.effective name)) :=
    isEntry_new stored stored' hb hc
  obtain ⟨finiteB, finiteC, pos, pos'⟩ := entry.values finite finite'
  exact Entry.not_both_regress finiteB finiteC pos pos' (valid.effective name) beyond beyond'

/-! ## The laws -/

/-- The report says that nothing changed from the store to itself. -/
structure Comparison.IsStill (report : Comparison) (s : Store) : Prop where
  unchanged : report.unchanged.map Entry.name = s.names
  delta : ∀ e ∈ report.unchanged, e.delta = 0
  regressions : report.regressions = []
  improvements : report.improvements = []
  new : report.new = []
  missing : report.missing = []

/-- The report of the other direction. -/
structure Comparison.Reverses (there back : Comparison) : Prop where
  new : there.new = back.missing
  missing : there.missing = back.new
  improvements : ∀ e ∈ there.improvements, e.reversed ∈ back.regressions
  regressions : ∀ name ∈ there.namesOf .regression, name ∉ back.namesOf .regression

lemma isStill_self (finite : s.IsFinite) (positive : s.IsPositive) (valid : policy.IsValid) :
    (compareStores s s policy).IsStill s := by
  have still {e : Entry} := verdict_self (e := e) finite positive valid
  have all : (compareStores s s policy).unchanged = entries s s policy := by
    apply List.filter_eq_self.2
    intro e listed
    exact beq_iff_eq.2 (still listed).2
  have none {v : Verdict} (changed : v ≠ .unchanged) :
      (compareStores s s policy).entriesOf v = [] := by
    apply List.eq_nil_iff_forall_not_mem.2
    intro e listed
    obtain ⟨entry, verdict⟩ := (mem_entriesOf v).1 listed
    exact changed (verdict.symm.trans (still (mem_entries.2 entry)).2)
  refine ⟨?unchanged, ?delta, none (v := .regression) nofun, none (v := .improvement) nofun,
    ?new, ?missing⟩
  case unchanged =>
    rw [all, entries_self finite positive, List.map_map, ← Store.map_fst_toList]
    rfl
  case delta =>
    rw [all]
    exact fun e listed => (still listed).1
  case new =>
    apply List.eq_nil_iff_forall_not_mem.2
    intro name listed
    obtain ⟨absent, x, stored⟩ := mem_new.1 listed
    cases absent.symm.trans stored
  case missing =>
    apply List.eq_nil_iff_forall_not_mem.2
    intro name listed
    obtain ⟨absent, x, stored⟩ := mem_missing.1 listed
    cases absent.symm.trans stored

/-- Under every policy that can be built, a store has not changed against itself, and two stores
that change places are reported the other way round. -/
theorem compareStores_directed {policy : Policy} (valid : policy.IsValid) :
    (∀ s : Store, s.IsFinite → s.IsPositive → (compareStores s s policy).IsStill s) ∧
      ∀ baseline current : Store, baseline.IsFinite → current.IsFinite →
        (compareStores baseline current policy).Reverses (compareStores current baseline policy) :=
  ⟨fun _ finite positive => isStill_self finite positive valid,
    fun _ _ finite finite' => {
      new := rfl
      missing := rfl
      improvements := fun _ => reversed_mem_regressions finite finite'
      regressions := fun _ => not_mem_regressions_reversed finite finite' valid }⟩

/-- A store that holds the least and the greatest double. -/
def extremes : Store :=
  .ofList [("least", Float.ofBits 1), ("most", Float.ofBits 0x7FEFFFFFFFFFFFFF), ("one", 1)]

theorem compareStores_directed_sample :
    Policy.standard.IsValid ∧ extremes.IsFinite ∧ extremes.IsPositive ∧
      (compareStores extremes extremes .standard).unchanged.map Entry.name =
        ["least", "most", "one"] ∧
      sampleBaseline.IsFinite ∧ sampleCurrent.IsFinite ∧
      (compareStores sampleBaseline sampleCurrent .standard).namesOf .improvement = ["faster"] ∧
      (compareStores sampleBaseline sampleCurrent .standard).Reverses
        (compareStores sampleCurrent sampleBaseline .standard) := by
  have finite : extremes.IsFinite := Store.isFinite_of_all (by decide +kernel)
  have positive : extremes.IsPositive := by
    have all : extremes.toList.all (0 < ·.2) = true := by decide +kernel
    intro name x stored
    exact of_decide_eq_true (List.all_eq_true.1 all (name, x) (Store.mem_toList.2 stored))
  have finiteB : sampleBaseline.IsFinite := Store.isFinite_of_all (by decide +kernel)
  have finiteC : sampleCurrent.IsFinite := Store.isFinite_of_all (by decide +kernel)
  obtain ⟨still, reverses⟩ := compareStores_directed Policy.isValid_standard
  have unchanged := (still extremes finite positive).unchanged
  have names : extremes.names = ["least", "most", "one"] := by decide +kernel
  exact ⟨Policy.isValid_standard, finite, positive, unchanged.trans names, finiteB, finiteC,
    by decide +kernel, reverses _ _ finiteB finiteC⟩

end PerfGate
