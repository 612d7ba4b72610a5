import PerfGate.Gate.Comparison
import PerfGate.Proofs.Decimal.Order

/-!
# The boundary of a threshold

A change is compared with the threshold after three operations on doubles, each of them rounded
(`roundedChange`). So a name is classified as its exact change says if and only if the rounded
change lies on the same sides of the threshold (`compareStores_classifiesExactly_iff`). A change of
exactly the threshold can be rounded upwards and is then a regression
(`compareStores_exact_change_regresses`).
-/

namespace PerfGate

open Decimal

/-! ## Doubles that are finite and positive -/

lemma Decimal.value_zero : value 0 = 0 := by
  have view : Binary.ofFloat 0 = .finite false 0 minExponent := by decide
  rw [value_of_finite view, Nat.cast_zero, zero_mul, signed_zero]

lemma Decimal.value_hundred : value 100 = 100 := by
  have view : Binary.ofFloat 100 = .finite false 0x19000000000000 (-46) := by decide
  rw [value_of_finite view]
  norm_num [signed]

lemma Decimal.pos_iff_value {x : Float} (h : magnitudeBits x ≤ infinityBits) :
    0 < x ↔ 0 < value x := by
  rw [lt_iff_value (by decide) h, value_zero]

lemma Decimal.le_zero_iff_value {x : Float} (h : magnitudeBits x ≤ infinityBits) :
    x ≤ 0 ↔ value x ≤ 0 := by
  rw [le_iff_value h (by decide), value_zero]

/-! ## The entry of a name -/

namespace Comparison

variable {baseline current : Store} {policy : Policy} {name : String} {b c : Float}

lemma entry_eq (policy : Policy) (stored : baseline.get? name = some b) (hb : ¬ b ≤ 0)
    (hc : ¬ c ≤ 0) :
    entry? baseline policy name c = some (.new name b c (policy.effective name)) := by
  rw [ entry?, stored]
  simp [hb, hc]

lemma name_of_entry {e : Entry} (h : entry? baseline policy name c = some e) : e.name = name := by
  unfold entry? at h
  split at h
  · split at h
    · cases h
    · cases h
      rfl
  · cases h

/-- A name that both stores hold with positive values has one entry. -/
lemma mem_entries_iff (policy : Policy) (stored : baseline.get? name = some b)
    (stored' : current.get? name = some c) (hb : ¬ b ≤ 0) (hc : ¬ c ≤ 0) {e : Entry} :
    e ∈ entries baseline current policy ∧ e.name = name ↔
      e = .new name b c (policy.effective name) := by
  have made := entry_eq policy stored hb hc
  unfold entries
  rw [List.mem_filterMap]
  constructor
  · rintro ⟨⟨⟨other, value⟩, listed, found⟩, named⟩
    obtain rfl : other = name := (name_of_entry found).symm.trans named
    rw [Store.mem_toList, stored'] at listed
    cases listed
    rw [made] at found
    cases found
    rfl
  · rintro rfl
    exact ⟨⟨(name, c), Store.mem_toList.2 stored', made⟩, rfl⟩

/-- So it is listed under the verdict of this entry and under no other. -/
lemma mem_names_iff (stored : baseline.get? name = some b) (stored' : current.get? name = some c)
    (hb : ¬ b ≤ 0) (hc : ¬ c ≤ 0) (v : Verdict) :
    name ∈ ((entries baseline current policy).filter (·.verdict == v)).map Entry.name ↔
      (Entry.new name b c (policy.effective name)).verdict = v := by
  have one {e : Entry} := mem_entries_iff policy (e := e) stored stored' hb hc
  rw [List.mem_map]
  constructor
  · rintro ⟨e, listed, named⟩
    rw [List.mem_filter, beq_iff_eq] at listed
    rw [← one.1 ⟨listed.1, named⟩]
    exact listed.2
  · intro verdict
    obtain ⟨listed, named⟩ := one.2 rfl
    exact ⟨_, List.mem_filter.2 ⟨listed, beq_iff_eq.2 verdict⟩, named⟩

end Comparison

/-! ## The rounded change -/

/-- The change in percent, after each of the three operations being rounded to a double. -/
def roundedChange (b c : ℚ) : ℚ :=
  rounded (rounded (rounded (c - b) / b) * 100)

lemma Decimal.value_of_nonneg {x : Float} (nonneg : 0 ≤ value x) :
    value x = bitsValue (magnitudeBits x) := by
  rw [← abs_of_nonneg nonneg, value, abs_signed _ (bitsValue_nonneg _)]

lemma Decimal.roundBits_value {x : Float} (h : magnitudeBits x ≤ infinityBits)
    (nonneg : 0 ≤ value x) : roundBits (value x) = magnitudeBits x := by
  rw [value_of_nonneg nonneg, roundBits_bitsValue h]

/-- The difference of two positive doubles is finite. -/
lemma Decimal.finite_sub {x y : Float} (hx : magnitudeBits x < infinityBits)
    (hy : magnitudeBits y < infinityBits) (pos : 0 < value x) (pos' : 0 < value y) :
    magnitudeBits (x - y) < infinityBits := by
  rw [(isNearest_sub hx hy).magnitude]
  rcases le_total (value x) (value y) with le | le
  · rw [abs_of_nonpos (sub_nonpos.2 le), neg_sub]
    refine (roundBits_mono (sub_le_self _ pos.le)).trans_lt ?_
    rwa [roundBits_value hy.le pos'.le]
  · rw [abs_of_nonneg (sub_nonneg.2 le)]
    refine (roundBits_mono (sub_le_self _ pos'.le)).trans_lt ?_
    rwa [roundBits_value hx.le pos.le]

/-- What is compared with the threshold is the rounded change, and it is a number. -/
lemma Entry.delta_isNumber {b c : Float} (name : String) (t : Float)
    (hb : magnitudeBits b < infinityBits) (hc : magnitudeBits c < infinityBits)
    (pos : 0 < value b) (pos' : 0 < value c) :
    magnitudeBits (new name b c t).delta ≤ infinityBits ∧
      value (new name b c t).delta = roundedChange (value b) (value c) := by
  have nonzero : magnitudeBits b ≠ 0 := by
    intro zero
    rw [value, zero, bitsValue_zero, signed_zero] at pos
    exact lt_irrefl 0 pos
  have hundred : 1 ≤ bitsValue (magnitudeBits 100) := by
    rw [← value_of_nonneg (by rw [value_hundred]; norm_num), value_hundred]
    norm_num
  have difference := isNearest_sub hc hb
  have quotient := isNearest_div (finite_sub hc hb pos' pos) hb nonzero
  have percent := isNearest_mul_of_one_le quotient.number (y := 100) (by decide) hundred
  refine ⟨percent.number, ?_⟩
  rw [roundedChange, ← difference.value_eq, ← quotient.value_eq, ← value_hundred]
  exact percent.value_eq

lemma roundedChange_nonneg {b c : ℚ} (pos : 0 < b) (h : b ≤ c) : 0 ≤ roundedChange b c := by
  have difference := rounded_nonneg (sub_nonneg.2 h)
  have quotient := rounded_nonneg (div_nonneg difference pos.le)
  exact rounded_nonneg (mul_nonneg quotient (by norm_num))

lemma roundedChange_nonpos {b c : ℚ} (pos : 0 < b) (h : c ≤ b) : roundedChange b c ≤ 0 := by
  have difference := rounded_nonpos (sub_nonpos.2 h)
  have quotient := rounded_nonpos (div_nonpos_of_nonpos_of_nonneg difference pos.le)
  exact rounded_nonpos (mul_nonpos_of_nonpos_of_nonneg quotient (by norm_num))

/-! ## The classification -/

/-- The names that are reported with a verdict. -/
def Comparison.namesOf (report : Comparison) : Verdict → List String
  | .regression => report.regressions.map Entry.name
  | .improvement => report.improvements.map Entry.name
  | .unchanged => report.unchanged.map Entry.name

/-- A name with the values `b` and `c` is classified by its exact change: a change of exactly `t`
percent is not beyond the threshold. -/
structure Comparison.ClassifiesExactly (report : Comparison) (name : String) (b c t : ℚ) :
    Prop where
  regression : name ∈ report.namesOf .regression ↔ t * b < 100 * (c - b)
  improvement : name ∈ report.namesOf .improvement ↔ t * b < 100 * (b - c)
  unchanged : name ∈ report.namesOf .unchanged ↔
    ¬ t * b < 100 * (c - b) ∧ ¬ t * b < 100 * (b - c)

/-- A name is reported with the verdict of its entry and with no other. -/
lemma mem_namesOf_iff {baseline current : Store} (policy : Policy) {name : String} {b c : Float}
    (stored : baseline.get? name = some b) (stored' : current.get? name = some c)
    (hb : ¬ b ≤ 0) (hc : ¬ c ≤ 0) (v : Verdict) :
    name ∈ (compareStores baseline current policy).namesOf v ↔
      (Entry.new name b c (policy.effective name)).verdict = v := by
  rw [← Comparison.mem_names_iff stored stored' hb hc]
  cases v with
  | regression => exact ((List.mergeSort_perm _ _).map _).mem_iff
  | improvement => exact ((List.mergeSort_perm _ _).map _).mem_iff
  | unchanged => exact Iff.rfl

/-- The verdict about a change of `d` percent at the threshold `t`. -/
def Verdict.ofChange (t d : ℚ) : Verdict :=
  if t < d then .regression else if d < -t then .improvement else .unchanged

namespace Verdict

variable {t d : ℚ}

lemma ofChange_eq_regression : ofChange t d = .regression ↔ t < d := by
  unfold ofChange
  split
  · rename_i above
    exact iff_of_true rfl above
  · rename_i above
    refine iff_of_false ?_ above
    split <;> exact Verdict.noConfusion

lemma ofChange_eq_improvement (positive : 0 < t) :
    ofChange t d = .improvement ↔ d < -t := by
  unfold ofChange
  split
  · rename_i above
    exact iff_of_false Verdict.noConfusion (by linarith)
  split
  · rename_i below
    exact iff_of_true rfl below
  · rename_i below
    exact iff_of_false Verdict.noConfusion below

lemma ofChange_eq_unchanged : ofChange t d = .unchanged ↔ |d| ≤ t := by
  rw [abs_le]
  unfold ofChange
  split
  · rename_i above
    exact iff_of_false Verdict.noConfusion fun within => absurd above (not_lt.2 within.2)
  split
  · rename_i below
    exact iff_of_false Verdict.noConfusion fun within => absurd below (not_lt.2 within.1)
  · rename_i above below
    exact iff_of_true rfl ⟨not_lt.1 below, not_lt.1 above⟩

end Verdict

/-- The verdict in terms of the values. -/
lemma Entry.verdict_new {b c t : Float} (name : String) (hb : magnitudeBits b < infinityBits)
    (hc : magnitudeBits c < infinityBits) (ht : magnitudeBits t < infinityBits)
    (pos : 0 < value b) (pos' : 0 < value c) :
    (new name b c t).verdict = .ofChange (value t) (roundedChange (value b) (value c)) := by
  obtain ⟨number, change⟩ := delta_isNumber name t hb hc pos pos'
  have negated : magnitudeBits (-t) ≤ infinityBits := by
    rw [(parts_neg ht.le).2]
    exact ht.le
  have above := lt_iff_value ht.le number
  have below := lt_iff_value number negated
  rw [change] at above below
  rw [value_neg ht.le] at below
  unfold verdict Verdict.ofChange
  change (if t < _ then _ else if _ < -t then _ else _) = _
  simp only [above, below]

/-- Rounding and exact arithmetic agree about both sides of the threshold if they agree about the
amount of the change, since the rounded change has the right sign. -/
lemma sides_iff {b c t : ℚ} (pos : 0 < b) (positive : 0 < t) :
    ((t < roundedChange b c ↔ t * b < 100 * (c - b)) ∧
        (roundedChange b c < -t ↔ t * b < 100 * (b - c))) ↔
      (t < |roundedChange b c| ↔ t * b < 100 * |c - b|) := by
  have scaled : 0 < t * b := mul_pos positive pos
  rcases le_total b c with le | le
  · have sign := roundedChange_nonneg pos le
    have rounded : ¬ roundedChange b c < -t := by linarith
    have exact : ¬ t * b < 100 * (b - c) := by linarith
    rw [abs_of_nonneg sign, abs_of_nonneg (sub_nonneg.2 le)]
    simp [rounded, exact]
  · have sign := roundedChange_nonpos pos le
    have rounded : ¬ t < roundedChange b c := by linarith
    have exact : ¬ t * b < 100 * (c - b) := by linarith
    rw [abs_of_nonpos sign, abs_of_nonpos (sub_nonpos.2 le), neg_sub, lt_neg]
    simp [rounded, exact]

/-- A report that goes by the rounded change classifies a name exactly if and only if the rounded
amount lies on the same side of the threshold as the exact one. -/
lemma Comparison.classifiesExactly_iff {report : Comparison} {name : String} {b c t : ℚ}
    (pos : 0 < b) (positive : 0 < t)
    (listed : ∀ v, name ∈ report.namesOf v ↔ Verdict.ofChange t (roundedChange b c) = v) :
    report.ClassifiesExactly name b c t ↔
      (t < |roundedChange b c| ↔ t * b < 100 * |c - b|) := by
  have regression := (listed .regression).trans Verdict.ofChange_eq_regression
  have improvement := (listed .improvement).trans (Verdict.ofChange_eq_improvement positive)
  have unchanged := (listed .unchanged).trans Verdict.ofChange_eq_unchanged
  rw [← sides_iff pos positive]
  constructor
  · intro exact
    exact ⟨regression.symm.trans exact.regression, improvement.symm.trans exact.improvement⟩
  · intro ⟨above, below⟩
    refine ⟨regression.trans above, improvement.trans below, ?_⟩
    rw [unchanged, abs_le, ← above, ← below, not_lt, not_lt]
    exact and_comm

/-- Of a name that both stores hold with finite positive values, the rounded change decides. -/
lemma mem_namesOf_rounded {baseline current : Store} {policy : Policy} {name : String}
    {b c : Float} (stored : baseline.get? name = some b) (stored' : current.get? name = some c)
    (hb : isFinite b) (pos : 0 < b) (hc : isFinite c)
    (pos' : 0 < c) (valid : Policy.isValidPct (policy.effective name)) (v : Verdict) :
    name ∈ (compareStores baseline current policy).namesOf v ↔
      Verdict.ofChange (value (policy.effective name)) (roundedChange (value b) (value c)) = v := by
  have ht := (Bool.and_eq_true_iff.1 valid).1
  have hb := lt_infinityBits_of_isFinite hb
  have hc := lt_infinityBits_of_isFinite hc
  have ht := lt_infinityBits_of_isFinite ht
  rw [pos_iff_value hb.le] at pos
  rw [pos_iff_value hc.le] at pos'
  rw [mem_namesOf_iff policy stored stored' (by rwa [le_zero_iff_value hb.le, not_le])
    (by rwa [le_zero_iff_value hc.le, not_le]), Entry.verdict_new name hb hc ht pos pos']

/-- A valid threshold is positive. -/
lemma Policy.value_pos_of_isValidPct {t : Float} (valid : Policy.isValidPct t) : 0 < value t := by
  obtain ⟨finite, positive⟩ := Bool.and_eq_true_iff.1 valid
  rw [decide_eq_true_iff, pos_iff_value (lt_infinityBits_of_isFinite finite).le] at positive
  exact positive

/-- Of a name that both stores hold with finite positive values, the rounded change decides. The
exact change decides if and only if the rounded amount lies on the same side of the threshold as the
exact one. -/
theorem compareStores_classifiesExactly_iff {baseline current : Store} {policy : Policy}
    {name : String} {b c : Float} (stored : baseline.get? name = some b)
    (stored' : current.get? name = some c) (hb : isFinite b) (pos : 0 < b) (hc : isFinite c)
    (pos' : 0 < c) (valid : Policy.isValidPct (policy.effective name)) :
    (name ∈ (compareStores baseline current policy).namesOf .regression ↔
        value (policy.effective name) < roundedChange (value b) (value c)) ∧
      (name ∈ (compareStores baseline current policy).namesOf .improvement ↔
        roundedChange (value b) (value c) < -value (policy.effective name)) ∧
      (name ∈ (compareStores baseline current policy).namesOf .unchanged ↔
        |roundedChange (value b) (value c)| ≤ value (policy.effective name)) ∧
      ((compareStores baseline current policy).ClassifiesExactly name (value b) (value c)
          (value (policy.effective name)) ↔
        (value (policy.effective name) < |roundedChange (value b) (value c)| ↔
          value (policy.effective name) * value b < 100 * |value c - value b|)) := by
  have listed := mem_namesOf_rounded stored stored' hb pos hc pos' valid
  have positive := Policy.value_pos_of_isValidPct valid
  rw [pos_iff_value (lt_infinityBits_of_isFinite hb).le] at pos
  refine ⟨?_, ?_, ?_, Comparison.classifiesExactly_iff pos positive listed⟩
  · rw [listed, Verdict.ofChange_eq_regression]
  · rw [listed, Verdict.ofChange_eq_improvement positive]
  · rw [listed, Verdict.ofChange_eq_unchanged]

/-! ## A change of exactly the threshold -/

lemma effective_default (t : Float) (name : String) : (⟨t, ∅⟩ : Policy).effective name = t := by
  simp [Policy.effective, Policy.overrideOf]

lemma get?_single (name : String) (x : Float) : (Store.ofList [(name, x)]).get? name = some x := by
  simp [Store.ofList, Store.get?_insert]

/-- From 100 to 120 the change is exactly 20 percent, also as it is rounded. -/
theorem compareStores_classifiesExactly_twenty :
    isFinite 100 ∧ (0 : Float) < 100 ∧ isFinite 120 ∧ (0 : Float) < 120 ∧
      Policy.isValidPct ((⟨20, ∅⟩ : Policy).effective "x") ∧
      "x" ∈ (compareStores (.ofList [("x", 100)]) (.ofList [("x", 120)]) ⟨20, ∅⟩).namesOf
        .unchanged ∧
      (compareStores (.ofList [("x", 100)]) (.ofList [("x", 120)]) ⟨20, ∅⟩).ClassifiesExactly "x"
        (value 100) (value 120) (value 20) := by
  have valid : Policy.isValidPct ((⟨20, ∅⟩ : Policy).effective "x") := by
    rw [effective_default]
    decide
  have hundredTwenty : value 120 = 120 := by
    have view : Binary.ofFloat 120 = .finite false 0x1E000000000000 (-46) := by decide
    rw [value_of_finite view]
    norm_num [signed]
  have twenty : value 20 = 20 := by
    have view : Binary.ofFloat 20 = .finite false 0x14000000000000 (-48) := by decide
    rw [value_of_finite view]
    norm_num [signed]
  obtain ⟨-, -, within, exact⟩ := compareStores_classifiesExactly_iff
    (get?_single "x" 100) (get?_single "x" 120) (by decide) (by decide) (by decide) (by decide)
    valid
  have listed : "x" ∈ (compareStores (.ofList [("x", 100)]) (.ofList [("x", 120)])
      ⟨20, ∅⟩).namesOf .unchanged := by
    rw [mem_namesOf_iff _ (get?_single "x" 100) (get?_single "x" 120) (by decide) (by decide),
      effective_default]
    decide
  have rounded := within.1 listed
  rw [effective_default] at rounded exact
  refine ⟨by decide, by decide, by decide, by decide, valid, listed, exact.2 ?_⟩
  refine iff_of_false (not_lt.2 rounded) ?_
  rw [twenty, value_hundred, hundredTwenty]
  norm_num

/-- From 100 to 107 the change is exactly 7 percent, but it is rounded to more than that: the name
is reported as a regression at a threshold of 7 percent. -/
theorem compareStores_exact_change_regresses :
    isFinite 100 ∧ (0 : Float) < 100 ∧ isFinite 107 ∧ (0 : Float) < 107 ∧
      Policy.isValidPct ((⟨7, ∅⟩ : Policy).effective "x") ∧
      value 7 * value 100 = 100 * (value 107 - value 100) ∧
      "x" ∈ (compareStores (.ofList [("x", 100)]) (.ofList [("x", 107)]) ⟨7, ∅⟩).namesOf
        .regression ∧
      ¬ (compareStores (.ofList [("x", 100)]) (.ofList [("x", 107)]) ⟨7, ∅⟩).ClassifiesExactly "x"
        (value 100) (value 107) (value 7) := by
  have valid : Policy.isValidPct ((⟨7, ∅⟩ : Policy).effective "x") := by
    rw [effective_default]
    decide
  have seven : value 7 = 7 := by
    have view : Binary.ofFloat 7 = .finite false 0x1C000000000000 (-50) := by decide
    rw [value_of_finite view]
    norm_num [signed]
  have hundredSeven : value 107 = 107 := by
    have view : Binary.ofFloat 107 = .finite false 0x1AC00000000000 (-46) := by decide
    rw [value_of_finite view]
    norm_num [signed]
  have boundary : value 7 * value 100 = 100 * (value 107 - value 100) := by
    rw [seven, value_hundred, hundredSeven]
    norm_num
  have listed : "x" ∈ (compareStores (.ofList [("x", 100)]) (.ofList [("x", 107)])
      ⟨7, ∅⟩).namesOf .regression := by
    rw [mem_namesOf_iff _ (get?_single "x" 100) (get?_single "x" 107) (by decide) (by decide),
      effective_default]
    decide
  refine ⟨by decide, by decide, by decide, by decide, valid, boundary, listed, fun exact => ?_⟩
  exact absurd (exact.regression.1 listed) boundary.not_lt

end PerfGate
