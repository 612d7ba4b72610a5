import PerfGate.Proofs.Decimal.Inline
import PerfGate.Proofs.Report.Places
import PerfGate.Report.Csv
import PerfGate.Report.Sweep

/-!
# The figures of a result in two formats

The row of a load result and its JSON record report the same figures, throughput and latencies, each
rounded to its places in its own way (`csvRow_resultJson_compares`). A latency below `2 ^ 51`
nanoseconds is the same in both unless it ends on half a microsecond.
-/

namespace PerfGate

/-! ## Columns and numbers -/

namespace Json

mutual

/-- The numbers of a document that are not counts, in their order. -/
def numbers : Json → List Float
  | .number x => [x]
  | .list items => itemNumbers items
  | .record members => memberNumbers members
  | .boolean _ | .count _ | .text _ => []

/-- The numbers of a list's items. -/
def itemNumbers : List Json → List Float
  | [] => []
  | item :: items => item.numbers ++ itemNumbers items

/-- The numbers of a record's members. -/
def memberNumbers : List (String × Json) → List Float
  | [] => []
  | (_, value) :: members => value.numbers ++ memberNumbers members

end

end Json

namespace Report

open Decimal
open Latency (toMillis)

/-- The columns of a row. -/
def columns (row : String) : List String :=
  (row.toList.splitOn ',').map String.ofList

/-- The numbers that are read in the last columns of a row, in front of the count of errors. -/
def rowNumbers (row : String) : List (Option Float) :=
  (((columns row).drop ((columns row).length - 8)).take 7).map readFloat

/-- A text with commas in it takes several columns, but those behind it are not affected. -/
lemma columns_intercalate (first : String) {others : List String} (nonempty : others ≠ [])
    (plain : ∀ text ∈ others, ',' ∉ text.toList) :
    columns (String.intercalate "," (first :: others)) = columns first ++ others := by
  obtain ⟨second, rest, rfl⟩ := List.exists_cons_of_ne_nil nonempty
  have row : (String.intercalate "," (first :: second :: rest)).toList =
      first.toList ++ ',' :: (String.intercalate "," (second :: rest)).toList := by
    rw [String.toList_intercalate, String.toList_intercalate, List.map_cons, List.map_cons,
      List.intercalate_cons_cons, List.append_assoc]
    rfl
  have split (front back : List Char) :
      (front ++ ',' :: back).splitOn ',' = front.splitOn ',' ++ back.splitOn ',' :=
    List.splitOnP_append_cons (p := (· == ',')) front back (beq_self_eq_true ',')
  have texts : ((second :: rest).map String.toList).map String.ofList = second :: rest := by
    rw [List.map_map]
    exact List.map_id'' (fun text => String.ofList_toList) _
  rw [columns, row, split, Text.splitOn_intercalate nonempty plain, List.map_append, texts, columns]

variable {scenario : String} {clients ns : ℕ} {r : Load.Result} {x : Float}

lemma comma_notMem_toString (n : ℕ) : ',' ∉ (toString n).toList := fun mem =>
  absurd (isDigit_of_mem_toString mem) (by decide)

lemma comma_notMem_fixed (places : ℕ) (finite : isFinite x) : ',' ∉ (fixed places x).toList := by
  rcases fixed_cases places x with ⟨infinite, -⟩ | ⟨negative, m, q, -, text, -⟩
  · rw [infinite] at finite
    cases finite
  · rw [text, String.toList_append, List.mem_append]
    rintro (sign | number)
    · cases negative <;> exact absurd sign (by decide)
    · rcases (read_plain (fixedNumeral places m q)).1.1 _ number with digit | point
      · exact absurd digit (by decide)
      · exact absurd point (by decide)

/-! ## Milliseconds -/

lemma rounded_le_two_pow {v : ℚ} (h : v ≤ 2 ^ (64 : ℤ)) : rounded v ≤ 2 ^ (64 : ℤ) := by
  have double := rounded_mul_two_zpow (n := 1) (e := 64) (by decide) (by decide) (by decide)
  rw [Nat.cast_one, one_mul] at double
  rw [← double]
  exact monotone_rounded h

lemma roundBits_lt_infinityBits {v : ℚ} (nonneg : 0 ≤ v) (h : v ≤ 2 ^ (64 : ℤ)) :
    roundBits v < infinityBits := by
  rw [← strictMono_bitsValue.lt_iff_lt, bitsValue_infinityBits, ← rounded_of_nonneg nonneg]
  exact (rounded_le_two_pow h).trans_lt (zpow_lt_zpow_right₀ one_lt_two (by decide))

lemma magnitudeBits_ofNat (n : ℕ) : magnitudeBits (Decimal.ofNat n) = roundBits n := by
  have bits := (isNearest_ofNat n).magnitude
  rwa [abs_of_nonneg (Nat.cast_nonneg n)] at bits

lemma magnitude_million : magnitudeBits 1000000 < infinityBits ∧ magnitudeBits 1000000 ≠ 0 ∧
    bitsValue (magnitudeBits 1000000) = 1000000 := by
  have view : Binary.ofFloat 1000000 = .finite false 8589934592000000 (-33) := by decide +kernel
  obtain ⟨-, finite, magnitude⟩ := parts_of_finite view
  refine ⟨finite, by decide +kernel, ?_⟩
  rw [magnitude]
  norm_num

/-- A latency is rounded to a double, and its quotient again. -/
lemma magnitudeBits_toMillis (range : ns < 2 ^ 64) : magnitudeBits (toMillis ns) < infinityBits ∧
    bitsValue (magnitudeBits (toMillis ns)) = rounded (rounded ns / 1000000) := by
  obtain ⟨finite, nonzero, million⟩ := magnitude_million
  have nonneg : (0 : ℚ) ≤ ns := Nat.cast_nonneg ns
  have small : (ns : ℚ) ≤ 2 ^ (64 : ℤ) := by exact_mod_cast range.le
  have bits := magnitudeBits_ofNat ns
  have finite' : magnitudeBits (Decimal.ofNat ns) < infinityBits := by
    rw [bits]
    exact roundBits_lt_infinityBits nonneg small
  have quotient : magnitudeBits (toMillis ns) = _ := (parts_div finite' finite nonzero).2
  rw [bits, million, ← rounded_of_nonneg nonneg] at quotient
  have nonneg' : 0 ≤ rounded ns / 1000000 := div_nonneg (rounded_nonneg nonneg) (by norm_num)
  rw [quotient, ← rounded_of_nonneg nonneg', and_iff_left rfl]
  refine roundBits_lt_infinityBits nonneg' (le_trans ?_ (rounded_le_two_pow small))
  exact div_le_self (rounded_nonneg nonneg) (by norm_num)

lemma isFinite_toMillis (range : ns < 2 ^ 64) : isFinite (toMillis ns) :=
  isFinite_of_lt_infinityBits (magnitudeBits_toMillis range).1

/-- A number between the normal doubles and infinity is rounded by a small share of it. -/
lemma rounded_near {v : ℚ} (low : 1 / 2 ^ 30 ≤ v) (high : v ≤ 2 ^ (64 : ℤ)) :
    v * (1 - unitRoundoff) ≤ rounded v ∧ rounded v ≤ v * (1 + unitRoundoff) := by
  have normal : leastNormal ≤ v := by
    refine le_trans ?_ low
    have power : (1 / 2 ^ 30 : ℚ) = 2 ^ (-30 : ℤ) := by norm_num
    rw [power]
    exact zpow_le_zpow_right₀ one_le_two (by decide)
  refine ⟨(le_rounded normal).resolve_right fun overflow => ?_, rounded_le normal⟩
  have bound := rounded_le_two_pow high
  rw [overflow] at bound
  exact absurd (zpow_lt_zpow_right₀ one_lt_two (by decide : (64 : ℤ) < 1024)) (not_lt.2 bound)

lemma scaled_toMillis (short : ns ≤ 2 ^ 53) :
    scaled 3 (toMillis ns) = rounded (ns / 1000000) * 1000 := by
  rw [scaled, (magnitudeBits_toMillis (by omega)).2, rounded_natCast short]
  norm_num

lemma scaled_toMillis_le (short : ns ≤ 2 ^ 53) : scaled 3 (toMillis ns) ≤ 2 ^ 53 := by
  have most : (ns : ℚ) ≤ 2 ^ 53 := by exact_mod_cast short
  have millis : rounded ((ns : ℚ) / 1000000) ≤ (2 ^ 34 : ℕ) := by
    refine rounded_le_natCast (by norm_num) ?_
    push_cast
    linarith
  rw [scaled_toMillis short]
  push_cast at millis
  linarith

/-- The three roundings of a latency that is not too long do not lead it to the middle between two
microseconds unless it lies there. -/
lemma not_isMidway_toMillis (short : ns < 2 ^ 51) (off : ns % 1000 ≠ 500) :
    ¬ IsMidway (scaled 3 (toMillis ns)) := by
  intro middle
  obtain ⟨c, double⟩ : ∃ c : ℕ, rounded (scaled 3 (toMillis ns)) = c + 1 / 2 := ⟨_, middle⟩
  rw [scaled_toMillis (by omega)] at double
  rcases Nat.eq_zero_or_pos ns with rfl | positive
  · rw [Nat.cast_zero, zero_div, rounded_zero, zero_mul, rounded_zero] at double
    have nonneg : (0 : ℚ) ≤ c := Nat.cast_nonneg c
    linarith
  have least : (1 : ℚ) ≤ ns := by exact_mod_cast positive
  have most : (ns : ℚ) < 2 ^ 51 := by exact_mod_cast short
  have sixtyFour : (2 : ℚ) ^ (64 : ℤ) = 2 ^ 64 := by norm_num
  have u : unitRoundoff = 1 / 2 ^ 53 := rfl
  have quotient := rounded_near (v := ns / 1000000) (by linarith) (by rw [sixtyFour]; linarith)
  rw [u] at quotient
  obtain ⟨low, high⟩ := quotient
  have product := rounded_near (v := rounded (ns / 1000000) * 1000) (by linarith)
    (by rw [sixtyFour]; linarith)
  rw [u, double] at product
  obtain ⟨low', high'⟩ := product
  have below : ((1000 * c + 500 : ℕ) : ℚ) < (ns + 1 : ℕ) := by
    push_cast
    linarith
  have above : (ns : ℚ) < (1000 * c + 501 : ℕ) := by
    push_cast
    linarith
  have below' : 1000 * c + 500 < ns + 1 := by exact_mod_cast below
  have above' : ns < 1000 * c + 501 := by exact_mod_cast above
  omega

/-! ## Figures -/

/-- The latencies of a summary. -/
def latencies (s : Latency.Summary) : List ℕ :=
  [s.p50, s.p90, s.p95, s.p99, s.least, s.greatest]

/-- The figures of a result, each with its places. -/
def figures (r : Load.Result) : List (ℕ × Float) :=
  (1, r.throughput) :: (latencies r.latency).map fun ns => (3, toMillis ns)

/-- The columns of a row behind the scenario. -/
def cells (clients : ℕ) (r : Load.Result) : List String :=
  [toString clients, toString r.sampleCount, fixed 1 r.throughput] ++
    (latencies r.latency).map csvLatency ++ [toString r.errorCount]

lemma comma_notMem_cells (clients : ℕ) (finite : isFinite r.throughput)
    (range : ∀ ns ∈ latencies r.latency, ns < 2 ^ 64) :
    ∀ text ∈ cells clients r, ',' ∉ text.toList := by
  intro text mem
  simp only [cells, List.mem_append, List.mem_cons, List.mem_map, List.not_mem_nil, or_false] at mem
  rcases mem with ((rfl | rfl | rfl) | ⟨ns, among, rfl⟩) | rfl
  · exact comma_notMem_toString clients
  · exact comma_notMem_toString r.sampleCount
  · exact comma_notMem_fixed 1 finite
  · exact comma_notMem_fixed 3 (isFinite_toMillis (range ns among))
  · exact comma_notMem_toString r.errorCount

/-- The row shows every figure with its places. -/
lemma rowNumbers_csvRow (scenario : String) (clients : ℕ) (finite : isFinite r.throughput)
    (range : ∀ ns ∈ latencies r.latency, ns < 2 ^ 64) :
    rowNumbers (csvRow scenario clients r) =
      (figures r).map fun f => some (refixed f.1 f.2) := by
  have split : columns (csvRow scenario clients r) = columns scenario ++ cells clients r :=
    columns_intercalate scenario (List.cons_ne_nil _ _) (comma_notMem_cells clients finite range)
  have length :
      (columns scenario ++ cells clients r).length - 8 = (columns scenario).length + 2 := by
    rw [List.length_append]
    rfl
  have middle : ((cells clients r).drop 2).take 7 =
      fixed 1 r.throughput :: (latencies r.latency).map csvLatency := rfl
  have millis : readFloat ∘ csvLatency = fun ns => some (refixed 3 (toMillis ns)) :=
    funext fun ns => readFloat_fixed 3 (toMillis ns)
  rw [rowNumbers, split, length, List.drop_length_add_append, middle, List.map_cons,
    readFloat_fixed, List.map_map, millis, figures, List.map_cons, List.map_map]
  rfl

/-- The record holds every figure rounded to its places. -/
lemma numbers_resultJson (clients : ℕ) (r : Load.Result) :
    (resultJson clients r).numbers = (figures r).map fun f => roundTo f.1 f.2 := by
  simp [resultJson, latencyJson, roundedMillis, figures, latencies, Json.numbers,
    Json.memberNumbers]

lemma isExact_of_mem_figures {f : ℕ × Float} (mem : f ∈ figures r) : IsExact f.1 := by
  rcases List.mem_cons.1 mem with rfl | latency
  · exact isExact_one
  · obtain ⟨ns, -, rfl⟩ := List.mem_map.1 latency
    exact isExact_three

lemma isFinite_of_mem_figures {f : ℕ × Float} (finite : isFinite r.throughput)
    (range : ∀ ns ∈ latencies r.latency, ns < 2 ^ 64) (mem : f ∈ figures r) : isFinite f.2 := by
  rcases List.mem_cons.1 mem with rfl | latency
  · exact finite
  · obtain ⟨ns, among, rfl⟩ := List.mem_map.1 latency
    exact isFinite_toMillis (range ns among)

lemma value_refixed_toMillis (short : ns < 2 ^ 51) (off : ns % 1000 ≠ 500) :
    value (refixed 3 (toMillis ns)) = value (roundTo 3 (toMillis ns)) := by
  have range : ns < 2 ^ 64 := by omega
  refine (compares isExact_three (isFinite_toMillis range)).same_iff.2
    ⟨not_isMidway_toMillis short off, fun large => ?_⟩
  exact absurd (scaled_toMillis_le (by omega)) (not_le.2 large)

/-- The row of a result and its record hold the same figures, each rounded to its places in two
ways. A latency that is not too long is the same in both unless it ends on half a microsecond. -/
theorem csvRow_resultJson_compares (scenario : String) (clients : ℕ) (r : Load.Result)
    (finite : isFinite r.throughput) (range : ∀ ns ∈ latencies r.latency, ns < 2 ^ 64) :
    rowNumbers (csvRow scenario clients r) = (figures r).map (fun f => some (refixed f.1 f.2)) ∧
      (resultJson clients r).numbers = (figures r).map (fun f => roundTo f.1 f.2) ∧
      (∀ f ∈ figures r, Compares f.1 f.2) ∧
      ∀ ns ∈ latencies r.latency, ns < 2 ^ 51 → ns % 1000 ≠ 500 →
        value (refixed 3 (toMillis ns)) = value (roundTo 3 (toMillis ns)) := by
  refine ⟨rowNumbers_csvRow scenario clients finite range, numbers_resultJson clients r, ?_, ?_⟩
  · intro f mem
    exact compares (isExact_of_mem_figures mem) (isFinite_of_mem_figures finite range mem)
  · intro ns _ short off
    exact value_refixed_toMillis short off

/-- A result whose throughput and latencies lie in the middle between two numbers of their
places. -/
def tiedResult : Load.Result :=
  { concurrency := 1
    attempted := 2
    throughput := 0.25
    sampleCount := 2
    elapsed := 8
    latency := ⟨62500, 62500, 62500, 62500, 4500, 62501⟩
    errorCount := 0 }

theorem csvRow_resultJson_compares_tied :
    isFinite tiedResult.throughput ∧ (∀ ns ∈ latencies tiedResult.latency, ns < 2 ^ 64) ∧
      Compares 1 0.25 ∧ Compares 3 (toMillis 4500) ∧
      62501 % 1000 ≠ 500 ∧
      value (refixed 3 (toMillis 62501)) = value (roundTo 3 (toMillis 62501)) := by
  have finite : isFinite tiedResult.throughput := by decide +kernel
  have range : ∀ ns ∈ latencies tiedResult.latency, ns < 2 ^ 64 := by decide
  obtain ⟨-, -, each, short⟩ := csvRow_resultJson_compares "a,b" 1 tiedResult finite range
  exact ⟨finite, range, each (1, 0.25) List.mem_cons_self,
    each (3, toMillis 4500) (by simp [figures, latencies, tiedResult]), by decide,
    short 62501 (by decide) (by decide) (by decide)⟩

/-- The two formats differ in all figures but the last. -/
theorem csvRow_resultJson_differ :
    isFinite tiedResult.throughput ∧ (∀ ns ∈ latencies tiedResult.latency, ns < 2 ^ 64) ∧
      rowNumbers (csvRow "echo" 1 tiedResult) =
        [some 0.2, some 0.062, some 0.062, some 0.062, some 0.062, some 0.004, some 0.063] ∧
      (resultJson 1 tiedResult).numbers = [0.3, 0.063, 0.063, 0.063, 0.063, 0.005, 0.063] ∧
      (0.2 : Float) < 0.3 ∧ (0.062 : Float) < 0.063 ∧ (0.004 : Float) < 0.005 := by
  refine ⟨by decide +kernel, by decide, ?_, ?_, by decide +kernel⟩
  · decide +kernel
  · decide +kernel

end Report

end PerfGate
