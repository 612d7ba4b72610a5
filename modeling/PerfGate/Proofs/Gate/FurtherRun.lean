import PerfGate.Proofs.Decimal.Monotone
import PerfGate.Proofs.Gate.Partition
import PerfGate.Proofs.Measurement.Minimum

/-!
# Gating on more runs

A further run lowers the values that it beats, and a lower value means a lower change, since each of
the three operations behind the change keeps the order. So a name that regresses with the further
run regresses without it, if it was measured before at all (`compareStores_minimum_concat`). Neither
the baseline nor the further run needs to be finite: a change that involves NaN, or an infinite
baseline, is no regression in the first place.
-/

namespace PerfGate

open Decimal

/-- Greater values have greater changes, also as they are rounded. -/
lemma monotone_roundedChange {b : ℚ} (pos : 0 < b) : Monotone (roundedChange b) := by
  intro c c' h
  have difference : rounded (c - b) ≤ rounded (c' - b) := monotone_rounded (sub_le_sub_right h b)
  have quotient : rounded (rounded (c - b) / b) ≤ rounded (rounded (c' - b) / b) :=
    monotone_rounded (div_le_div_of_nonneg_right difference pos.le)
  exact monotone_rounded (mul_le_mul_of_nonneg_right quotient (by norm_num))

namespace Entry

variable {b c c' t : Float} (name : String)

/-- The change is a number only if both values are. -/
lemma number_of_number_delta (number : magnitudeBits (new name b c t).delta ≤ infinityBits) :
    magnitudeBits b ≤ infinityBits ∧ magnitudeBits c ≤ infinityBits := by
  obtain ⟨quotient, -⟩ := number_of_mul number
  obtain ⟨difference, number⟩ := number_of_div quotient
  exact ⟨number, (number_of_sub difference).1⟩

/-- From an infinite baseline no finite value has a change. -/
lemma finite_of_number_delta (hc : magnitudeBits c < infinityBits)
    (number : magnitudeBits (new name b c t).delta ≤ infinityBits) :
    magnitudeBits b < infinityBits := by
  apply lt_of_le_of_ne (number_of_number_delta name number).1
  intro infinite
  have quotient := (number_of_mul number).1
  exact not_number_div_infinity (infinite_sub hc infinite) infinite quotient

/-- If a value that does not beat a finite one is beyond the threshold, the finite one is. -/
lemma beyond_of_not_le (hb : ¬ b ≤ 0) (hc : magnitudeBits c < infinityBits) (hc' : ¬ c' ≤ 0)
    (less : ¬ c ≤ c') (beyond : t < (new name b c' t).delta) :
    ¬ c ≤ 0 ∧ t < (new name b c t).delta := by
  have number' := number_of_gt beyond
  obtain ⟨numberB, numberC'⟩ := number_of_number_delta name number'
  rw [le_iff_value hc.le numberC', not_le] at less
  rw [le_zero_iff_value numberC', not_le] at hc'
  rw [le_zero_iff_value numberB, not_le] at hb
  have pos : 0 < value c := hc'.trans less
  -- what does not beat a finite value is finite, and then the baseline is: its change is a number
  have finite' : magnitudeBits c' < infinityBits := by
    rw [value_of_nonneg hc'.le, value_of_nonneg pos.le, strictMono_bitsValue.lt_iff_lt] at less
    exact less.trans hc
  have finite : magnitudeBits b < infinityBits := finite_of_number_delta name finite' number'
  obtain ⟨-, change'⟩ := delta_isNumber name t finite finite' hb hc'
  obtain ⟨number, change⟩ := delta_isNumber name t finite hc hb pos
  have threshold := number_of_lt beyond
  rw [lt_iff_value threshold number', change'] at beyond
  rw [le_zero_iff_value hc.le, not_le, lt_iff_value threshold number, change]
  exact ⟨pos, beyond.trans_le (monotone_roundedChange hb less.le)⟩

end Entry

variable {baseline : Store} {policy : Policy} {name : String} {runs : List Store}

/-- The least values of finite runs are finite. -/
lemma Store.IsFinite.minimum (finite : ∀ run ∈ runs, run.IsFinite) :
    (Store.minimum runs).IsFinite := by
  intro name x stored
  obtain ⟨run, among, held⟩ := Store.get?_minimum stored
  exact finite run among name x held

/-- A name that regresses with a further run and was measured before regresses without it. -/
lemma regression_of_concat {further : Store} (finite : (Store.minimum runs).IsFinite)
    (known : ∃ c, (Store.minimum runs).get? name = some c)
    (h : name ∈ (compareStores baseline (.minimum (runs ++ [further])) policy).namesOf
      .regression) :
    name ∈ (compareStores baseline (.minimum runs) policy).namesOf .regression := by
  obtain ⟨b, c', ⟨stored, stored'⟩, ⟨hb, hc'⟩, beyond⟩ := mem_namesOf_regression.1 h
  obtain ⟨c, before⟩ := known
  have kept (same : c = c') :
      name ∈ (compareStores baseline (.minimum runs) policy).namesOf .regression := by
    subst same
    exact mem_namesOf_regression.2 ⟨b, c, ⟨stored, before⟩, ⟨hb, hc'⟩, beyond⟩
  rw [Store.get?_minimum_concat, before] at stored'
  cases held : further.get? name with
  | none =>
    rw [held] at stored'
    exact kept (Option.some_inj.1 stored')
  | some x =>
    rw [held] at stored'
    have lesser := Option.some_inj.1 stored'
    unfold Store.lesser at lesser
    simp only at lesser
    split at lesser
    · exact kept lesser
    · rename_i beaten
      subst lesser
      have bits := lt_infinityBits_of_isFinite (finite name c before)
      obtain ⟨hc, beyond⟩ := Entry.beyond_of_not_le name hb bits hc' beaten beyond
      exact mem_namesOf_regression.2 ⟨b, c, ⟨stored, before⟩, ⟨hb, hc⟩, beyond⟩

/-- So any number of finite runs more does not make the gate stricter. -/
theorem regression_of_append {more : List Store} (finite : ∀ run ∈ runs ++ more, run.IsFinite)
    (known : ∃ c, (Store.minimum runs).get? name = some c)
    (h : name ∈ (compareStores baseline (.minimum (runs ++ more)) policy).namesOf .regression) :
    name ∈ (compareStores baseline (.minimum runs) policy).namesOf .regression := by
  induction more using List.reverseRecOn with
  | nil =>
    rw [List.append_nil] at h
    exact h
  | append_singleton more last ih =>
    rw [← List.append_assoc] at finite h
    have finite' : ∀ run ∈ runs ++ more, run.IsFinite :=
      fun run among => finite run (List.mem_append_left _ among)
    obtain ⟨c, held⟩ := known
    obtain ⟨run, among, heldBy⟩ := Store.get?_minimum held
    have kept := Store.exists_get?_minimum run (List.mem_append_left more among) heldBy
    exact ih finite' (regression_of_concat (.minimum finite') kept h)

/-- A further run does not make the gate stricter: of the names that finite runs hold, only those
regress with it that regress without it, and only those are missing that were missing. -/
theorem compareStores_minimum_concat (baseline : Store) (policy : Policy) {runs : List Store}
    (finite : ∀ run ∈ runs, run.IsFinite) (further : Store) (name : String) :
    ((∃ run ∈ runs, run.contains name) →
      name ∈ (compareStores baseline (.minimum (runs ++ [further])) policy).namesOf .regression →
      name ∈ (compareStores baseline (.minimum runs) policy).namesOf .regression) ∧
    (name ∈ (compareStores baseline (.minimum (runs ++ [further])) policy).missing →
      name ∈ (compareStores baseline (.minimum runs) policy).missing) := by
  constructor
  · intro ⟨run, among, contained⟩ regression
    obtain ⟨x, held⟩ := Store.contains_iff.1 contained
    exact regression_of_concat (.minimum finite) (Store.exists_get?_minimum run among held)
      regression
  · intro isMissing
    obtain ⟨absent, stored⟩ := mem_missing.1 isMissing
    refine mem_missing.2 ⟨?_, stored⟩
    cases before : (Store.minimum runs).get? name with
    | none => rfl
    | some x =>
      obtain ⟨y, after⟩ := Store.exists_get?_minimum_concat further ⟨x, before⟩
      rw [absent] at after
      cases after

/-- A benchmark that is slower in one run, and less so in a further one. -/
theorem compareStores_minimum_concat_sample :
    "slower" ∈ (compareStores sampleBaseline (.minimum [sampleCurrent]) .standard).namesOf
        .regression ∧
      "gone" ∈ (compareStores sampleBaseline (.minimum [sampleCurrent]) .standard).missing := by
  have finite : ∀ run ∈ [sampleCurrent], run.IsFinite := by
    intro run among
    rw [List.mem_singleton.1 among]
    exact Store.isFinite_of_all (by decide +kernel)
  have gate := compareStores_minimum_concat sampleBaseline .standard finite
    (.ofList [("slower", 120)])
  constructor
  · apply (gate "slower").1
    · exact ⟨sampleCurrent, List.mem_singleton_self _, by decide +kernel⟩
    · decide +kernel
  · apply (gate "gone").2
    decide +kernel

end PerfGate
