import PerfGate.Proofs.Decimal.RelativeError

/-!
# Doubles around a number

Whole numbers and halves that are short enough are doubles (`rounded_mul_two_zpow`), and large
doubles are whole numbers (`exists_rounded_eq_natCast`). No double is nearer to a number than the
one that it is rounded to (`abs_bitsValue_gridBits_sub_le`), so a number that is near enough to a
double is rounded to it (`roundBits_of_near`). `parts_roundAway` says which whole number a double is
rounded to, a half away from zero.
-/

namespace PerfGate.Decimal

/-! ## Numbers that are doubles -/

/-- A multiple of its own least bit is a double. -/
lemma rounded_of_multiple {x : ℚ} {n : ℕ} (pos : 0 < x) (bound : x ≤ 2 ^ (1024 : ℤ))
    (multiple : x = n * 2 ^ gridOf x) : rounded x = x := by
  have quotient : x / 2 ^ gridOf x = n := by
    rw [div_eq_iff (two_zpow_pos _).ne']
    exact multiple
  have whole := bitsValue_grid pos
  rw [quotient, halfEven_natCast, ← multiple] at whole
  have finite : (gridOf x - minExponent).toNat * leadingBit + n ≤ infinityBits := by
    rw [← strictMono_bitsValue.le_iff_le, whole, bitsValue_infinityBits]
    exact bound
  rw [rounded_of_nonneg pos.le, roundBits, if_neg (not_le.2 pos), quotient, halfEven_natCast,
    Nat.min_eq_right finite, whole]

/-- A multiple of a power of two is a double if the factor is as short as a significand. -/
lemma rounded_mul_two_zpow {n : ℕ} {e : ℤ} (short : n < 2 ^ 53) (low : minExponent ≤ e)
    (high : e ≤ 971) : rounded (n * 2 ^ e) = n * 2 ^ e := by
  rcases Nat.eq_zero_or_pos n with rfl | positive
  · rw [Nat.cast_zero, zero_mul, rounded_zero]
  have unit := two_zpow_pos e
  have pos : (0 : ℚ) < n * 2 ^ e := mul_pos (by exact_mod_cast positive) unit
  have below : (n : ℚ) * 2 ^ e < 2 ^ (53 + e) := by
    rw [zpow_add₀ two_ne_zero]
    refine mul_lt_mul_of_pos_right ?_ unit
    exact_mod_cast short
  have log := log_lt pos below
  have grid : gridOf (n * 2 ^ e) ≤ e := by
    rw [gridOf]
    omega
  have multiple : (n : ℚ) * 2 ^ e =
      (n * 2 ^ (e - gridOf (n * 2 ^ e)).toNat : ℕ) * 2 ^ gridOf (n * 2 ^ e) := by
    rw [Nat.cast_mul, Nat.cast_pow, Nat.cast_ofNat, mul_assoc, ← zpow_natCast,
      ← zpow_add₀ two_ne_zero]
    congr 2
    omega
  refine rounded_of_multiple pos (below.le.trans ?_) multiple
  exact zpow_le_zpow_right₀ one_le_two (by omega)

lemma rounded_natCast {n : ℕ} (short : n ≤ 2 ^ 53) : rounded n = n := by
  rcases short.lt_or_eq with lt | rfl
  · have double := rounded_mul_two_zpow (e := 0) lt (by decide) (by decide)
    rwa [zpow_zero, mul_one] at double
  · have double := rounded_mul_two_zpow (n := 1) (e := 53) (by decide) (by decide) (by decide)
    rw [Nat.cast_one, one_mul] at double
    exact_mod_cast double

lemma rounded_half {n : ℕ} (short : n < 2 ^ 52) : rounded (n + 1 / 2) = n + 1 / 2 := by
  have double := rounded_mul_two_zpow (n := 2 * n + 1) (e := -1) (by omega) (by decide) (by decide)
  have half : ((2 * n + 1 : ℕ) : ℚ) * 2 ^ (-1 : ℤ) = n + 1 / 2 := by
    push_cast
    ring
  rwa [half] at double

/-- A natural number becomes the double nearest to it. -/
lemma isNearest_ofNat (n : ℕ) : IsNearest (ofNat n) n := by
  have parts : isNegative (ofNat n) = false ∧ magnitudeBits (ofNat n) = roundBits n := by
    rw [ofNat, nearestBits_eq n one_ne_zero, Nat.cast_one, div_one]
    exact parts_ofMagnitude false (roundBits_le n)
  exact isNearest_of_parts (Nat.cast_nonneg n) parts

/-- The double nearest to a short natural number is this number. -/
lemma IsNearest.whole {x : Float} {n : ℕ} (h : IsNearest x n) (short : n ≤ 2 ^ 53) :
    magnitudeBits x < infinityBits ∧ value x = n := by
  have nonneg : (0 : ℚ) ≤ n := Nat.cast_nonneg n
  have bits := h.magnitude
  rw [abs_of_nonneg nonneg] at bits
  refine ⟨?_, h.value_eq.trans (rounded_natCast short)⟩
  rw [bits, ← strictMono_bitsValue.lt_iff_lt, ← rounded_of_nonneg nonneg, rounded_natCast short,
    bitsValue_infinityBits]
  calc (n : ℚ) ≤ 2 ^ (53 : ℤ) := by exact_mod_cast short
    _ < 2 ^ (1024 : ℤ) := zpow_lt_zpow_right₀ one_lt_two (by decide)

/-- From here on all doubles are whole numbers. -/
lemma exists_rounded_eq_natCast {x : ℚ} (large : 2 ^ 52 ≤ x) : ∃ n : ℕ, rounded x = n := by
  have pos : 0 < x := lt_of_lt_of_le (by norm_num) large
  have log : 52 ≤ Int.log 2 x := le_log pos (by exact_mod_cast large)
  have grid : gridOf x = (gridOf x).toNat := by
    rw [gridOf]
    omega
  rw [rounded_of_nonneg pos.le, roundBits, if_neg (not_le.2 pos)]
  rcases min_choice infinityBits
    ((gridOf x - minExponent).toNat * leadingBit + halfEven (x / 2 ^ gridOf x)) with most | less
  · refine ⟨2 ^ 1024, ?_⟩
    rw [most, bitsValue_infinityBits, Nat.cast_pow, Nat.cast_ofNat]
    exact zpow_natCast 2 1024
  · refine ⟨halfEven (x / 2 ^ gridOf x) * 2 ^ (gridOf x).toNat, ?_⟩
    rw [less, bitsValue_grid pos, Nat.cast_mul, Nat.cast_pow, Nat.cast_ofNat, ← zpow_natCast,
      ← grid]

/-! ## The nearest double -/

/-- A natural number that is less than a half away is the nearest one. -/
lemma halfEven_eq_of_near {x : ℚ} {n : ℕ} (nonneg : 0 ≤ x) (near : |(n : ℚ) - x| < 1 / 2) :
    halfEven x = n := by
  have nearest := halfEven_sub_le nonneg
  have apart : |(halfEven x : ℚ) - n| < 1 := by
    calc |(halfEven x : ℚ) - n| ≤ |(halfEven x : ℚ) - x| + |x - n| := abs_sub_le _ x _
      _ < 1 := by
        rw [abs_sub_comm x]
        linarith
  have whole : |(halfEven x : ℤ) - n| < 1 := by
    exact_mod_cast apart
  have same := Int.abs_lt_one_iff.1 whole
  omega

/-- No natural number is nearer. -/
lemma abs_halfEven_sub_le {x : ℚ} (nonneg : 0 ≤ x) (n : ℕ) :
    |(halfEven x : ℚ) - x| ≤ |(n : ℚ) - x| := by
  rcases lt_or_ge |(n : ℚ) - x| (1 / 2) with near | far
  · rw [halfEven_eq_of_near nonneg near]
  · exact (halfEven_sub_le nonneg).trans far

/-- The bits that a number is rounded to, before overflow is looked at. -/
def gridBits (x : ℚ) : ℕ :=
  (gridOf x - minExponent).toNat * leadingBit + halfEven (x / 2 ^ gridOf x)

/-- Some multiple of the least bit of a number is as near to the number as a double. -/
lemma exists_multiple_near {x : ℚ} (pos : 0 < x) (bits : ℕ) :
    ∃ n : ℕ, |n * 2 ^ gridOf x - x| ≤ |bitsValue bits - x| := by
  rcases le_or_gt (gridOf x) (binadeOf bits + minExponent) with coarse | fine
  · refine ⟨significand bits * 2 ^ (binadeOf bits + minExponent - gridOf x).toNat, ?_⟩
    have same : ((significand bits * 2 ^ (binadeOf bits + minExponent - gridOf x).toNat : ℕ) : ℚ) *
        2 ^ gridOf x = bitsValue bits := by
      rw [Nat.cast_mul, Nat.cast_pow, Nat.cast_ofNat, mul_assoc, ← zpow_natCast,
        ← zpow_add₀ two_ne_zero, bitsValue]
      congr 2
      omega
    rw [same]
  · -- a double with a lesser least bit is below the power of two that the number has reached
    have grid : gridOf x = Int.log 2 x - 52 := by
      unfold gridOf at *
      omega
    have power : ((leadingBit : ℕ) : ℚ) * 2 ^ gridOf x = 2 ^ Int.log 2 x := by
      rw [leadingBit_cast, ← zpow_add₀ two_ne_zero]
      congr 1
      omega
    have reached : (2 : ℚ) ^ Int.log 2 x ≤ x := by
      exact_mod_cast Int.zpow_log_le_self (b := 2) one_lt_two pos
    have below : bitsValue bits ≤ 2 ^ Int.log 2 x := by
      refine (bitsValue_le bits).trans ?_
      rw [← zpow_natCast, ← zpow_add₀ two_ne_zero]
      exact zpow_le_zpow_right₀ one_le_two (by omega)
    refine ⟨leadingBit, ?_⟩
    rw [power, abs_sub_comm, abs_of_nonneg (sub_nonneg.2 reached), abs_sub_comm,
      abs_of_nonneg (sub_nonneg.2 (below.trans reached))]
    linarith

/-- No double is nearer. -/
lemma abs_bitsValue_gridBits_sub_le {x : ℚ} (pos : 0 < x) (bits : ℕ) :
    |bitsValue (gridBits x) - x| ≤ |bitsValue bits - x| := by
  obtain ⟨n, near⟩ := exists_multiple_near pos bits
  refine le_trans ?_ near
  have unit := two_zpow_pos (gridOf x)
  have scaled (k : ℕ) : |k * 2 ^ gridOf x - x| = |(k : ℚ) - x / 2 ^ gridOf x| * 2 ^ gridOf x := by
    rw [← abs_of_pos unit, ← abs_mul, sub_mul, abs_of_pos unit, div_mul_cancel₀ _ unit.ne']
  rw [gridBits, bitsValue_grid pos, scaled, scaled]
  exact mul_le_mul_of_nonneg_right (abs_halfEven_sub_le (div_pos pos unit).le n) unit.le

/-- Other doubles are apart from a double by a share of it. -/
lemma bitsValue_le_mul_abs_sub {a b : ℕ} (ne : a ≠ b) :
    bitsValue b ≤ 2 ^ 53 * |bitsValue a - bitsValue b| := by
  rcases Nat.lt_or_gt_of_ne ne with lt | gt
  · -- the next lesser double has the smallest distance that there is below
    obtain ⟨c, rfl⟩ := Nat.exists_eq_add_of_lt lt
    have lesser := strictMono_bitsValue.monotone (Nat.le_add_right a c)
    have unit := two_zpow_pos (binadeOf (a + c) + minExponent)
    have short : ((significand (a + c) + 1 : ℕ) : ℚ) ≤ 2 ^ 53 := by
      have bound := significand_lt (a + c)
      unfold leadingBit at bound
      exact_mod_cast (by omega : significand (a + c) + 1 ≤ 2 ^ 53)
    have next : bitsValue (a + c + 1) =
        ((significand (a + c) + 1 : ℕ) : ℚ) * 2 ^ (binadeOf (a + c) + minExponent) := by
      rw [bitsValue_succ, bitsValue]
      push_cast
      ring
    rw [abs_sub_comm, abs_of_nonneg (sub_nonneg.2 (strictMono_bitsValue.monotone lt.le))]
    have scaled := mul_le_mul_of_nonneg_right short unit.le
    rw [← next] at scaled
    refine scaled.trans ?_
    rw [bitsValue_succ]
    linarith
  · rw [abs_of_nonneg (sub_nonneg.2 (strictMono_bitsValue.monotone (Nat.le_of_lt gt)))]
    exact bitsValue_le_mul_sub gt

/-- A number that is near enough to a double is rounded to it. -/
lemma roundBits_of_near {x : ℚ} {bits : ℕ} (bound : bits ≤ infinityBits)
    (near : 2 ^ 53 * (2 * |bitsValue bits - x|) < bitsValue bits) : roundBits x = bits := by
  have pos : 0 < x := by
    by_contra nonpos
    have above := le_abs_self (bitsValue bits - x)
    have nonneg := bitsValue_nonneg bits
    linarith
  have nearest := abs_bitsValue_gridBits_sub_le pos bits
  have same : gridBits x = bits := by
    by_contra ne
    have far := bitsValue_le_mul_abs_sub ne
    have apart := abs_sub_le (bitsValue (gridBits x)) x (bitsValue bits)
    rw [abs_sub_comm x] at apart
    linarith
  rw [roundBits, if_neg (not_le.2 pos), ← gridBits, same, Nat.min_eq_right bound]

/-! ## Rounding to whole numbers -/

variable {x y : Float}

/-- A double that is rounded to a whole number keeps its sign. -/
lemma parts_roundAway (finite : magnitudeBits x < infinityBits) :
    isNegative (roundAway x) = isNegative x ∧ magnitudeBits (roundAway x) =
      roundBits ⌊bitsValue (magnitudeBits x) + 1 / 2⌋₊ := by
  cases view : Binary.ofFloat x with
  | nan => exact absurd (parts_of_nan view) (Nat.lt_asymm finite)
  | infinite negative => exact absurd (parts_of_infinite view).2 finite.ne
  | finite negative m q =>
    obtain ⟨sign, -, magnitude⟩ := parts_of_finite view
    have pos : (0 : ℚ) < denominator q := by exact_mod_cast denominator_pos q
    have half : ((2 * numerator m q + denominator q : ℕ) : ℚ) / (2 * denominator q : ℕ) =
        m * 2 ^ q + 1 / 2 := by
      rw [← numerator_div_denominator]
      push_cast
      field_simp
    have rounds : roundAway x = ofMagnitude negative
        (nearestBits ((2 * numerator m q + denominator q) / (2 * denominator q)) 1) := by
      rw [roundAway, view]
    rw [sign, magnitude, ← half, Nat.floor_div_eq_div, rounds, nearestBits_eq _ one_ne_zero,
      Nat.cast_one, div_one]
    exact parts_ofMagnitude negative (roundBits_le _)

lemma roundAway_of_not_finite (h : ¬ magnitudeBits x < infinityBits) : roundAway x = x := by
  unfold roundAway
  cases view : Binary.ofFloat x with
  | finite negative m q => exact absurd (parts_of_finite view).2.1 h
  | _ => rfl

/-- A whole number is not changed, and neither is an infinity. -/
lemma roundAway_of_whole (h : ∃ n : ℕ, bitsValue (magnitudeBits x) = n) : roundAway x = x := by
  by_cases finite : magnitudeBits x < infinityBits
  · obtain ⟨n, whole⟩ := h
    obtain ⟨sign, magnitude⟩ := parts_roundAway finite
    have floor : ⌊(n : ℚ) + 1 / 2⌋₊ = n := by
      rw [Nat.floor_eq_iff (by positivity)]
      constructor <;> linarith
    rw [whole, floor, ← whole, roundBits_bitsValue finite.le] at magnitude
    exact eq_of_parts sign magnitude
  · exact roundAway_of_not_finite finite

end PerfGate.Decimal
