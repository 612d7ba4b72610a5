import PerfGate.Decimal.Layout
import PerfGate.Proofs.Decimal.Digits
import PerfGate.Proofs.Decimal.Packing
import PerfGate.Proofs.Decimal.Shortest

/-!
# Doubles that read back

A double in plain notation is read as this double (`readFloat_plain`). The text has the digits of a
numeral that is nearest to the double, moved by zeros and by a point (`read_plain`), so the number
read is that of the numeral, and the nearest double depends on nothing else. Infinities and NaN have
words of their own.
-/

namespace PerfGate.Decimal

/-! ## Texts of digits -/

lemma isDigit_of_mem_zeros {n : Nat} {c : Char} (h : c ∈ (zeros n).toList) : c.isDigit := by
  rw [zeros, String.toList_ofList] at h
  rw [List.eq_of_mem_replicate h]
  rfl

/-- Digits without a point are a whole number. -/
lemma read_digits {ds : List Char} (nonempty : ds ≠ []) (h : ∀ c ∈ ds, c.isDigit) :
    Numeral.read ds = some ⟨digitsValue ds, 0⟩ := by
  have some : ds.isEmpty = false := List.isEmpty_eq_false_iff.2 nonempty
  simp [Numeral.read, List.takeWhile_eq_self_iff.2 h, List.dropWhile_eq_nil_iff.2 h, some,
    exponentPart]

/-- Every digit after a point counts for one place. -/
lemma read_point {ws ps : List Char} (nonempty : ws ≠ []) (whole : ∀ c ∈ ws, c.isDigit)
    (places : ∀ c ∈ ps, c.isDigit) :
    Numeral.read (ws ++ '.' :: ps) = some ⟨digitsValue (ws ++ ps), -ps.length⟩ := by
  have some : ws.isEmpty = false := List.isEmpty_eq_false_iff.2 nonempty
  have front : (ws ++ '.' :: ps).takeWhile Char.isDigit = ws := by
    rw [List.takeWhile_append_of_pos whole, List.takeWhile_cons_of_neg (by decide),
      List.append_nil]
  have back : (ws ++ '.' :: ps).dropWhile Char.isDigit = '.' :: ps := by
    rw [List.dropWhile_append_of_pos whole, List.dropWhile_cons_of_neg (by decide)]
  simp [Numeral.read, front, back, List.takeWhile_eq_self_iff.2 places,
    List.dropWhile_eq_nil_iff.2 places, some, exponentPart]

/-- The point stands before the last digits, and a digit stands before the point. -/
lemma toList_withPoint (digits : String) (places : Nat) :
    ∃ ws ps : List Char, (withPoint digits places).toList = ws ++ '.' :: ps ∧ ws ≠ [] ∧
      ps.length = places ∧ ws ++ ps = (zeros (places + 1 - digits.length) ++ digits).toList := by
  have length : (zeros (places + 1 - digits.length) ++ digits).toList.length =
      places + 1 - digits.length + digits.length := by
    rw [String.toList_append, List.length_append, zeros, String.toList_ofList,
      List.length_replicate, String.length_toList]
  refine ⟨_, _, String.toList_ofList, ?_, ?_, List.take_append_drop _ _⟩
  · rw [← List.length_pos_iff, List.length_take]
    omega
  · rw [List.length_drop]
    omega

/-- What a number in positional notation looks like: digits, with a point after the first of them
or none at all. -/
def Positional (cs : List Char) : Prop :=
  (∀ c ∈ cs, c.isDigit ∨ c = '.') ∧ ∃ c ∈ cs.head?, c.isDigit

/-- Zeros and the digits of a numeral are digits. -/
lemma isDigit_of_mem_padded {k n : Nat} {c : Char} (h : c ∈ (zeros k ++ toString n).toList) :
    c.isDigit := by
  rw [String.toList_append, List.mem_append] at h
  rcases h with h | h
  · exact isDigit_of_mem_zeros h
  · exact isDigit_of_mem_toString h

lemma digitsValue_padded (k n : Nat) : digitsValue (zeros k ++ toString n).toList = n := by
  rw [String.toList_append, digitsValue_append, digitsValue_toString, zeros, String.toList_ofList,
    digitsValue_replicate_zero, Nat.mul_zero, Nat.zero_add]

lemma positional_append {ws cs : List Char} (nonempty : ws ≠ []) (digits : ∀ c ∈ ws, c.isDigit)
    (plain : ∀ c ∈ cs, c.isDigit ∨ c = '.') : Positional (ws ++ cs) := by
  refine ⟨?_, ?_⟩
  · intro c hc
    rcases List.mem_append.1 hc with hc | hc
    · exact .inl (digits c hc)
    · exact plain c hc
  · rw [List.head?_append_of_ne_nil _ nonempty]
    exact ⟨_, List.head_mem_head? nonempty, digits _ (List.head_mem nonempty)⟩

/-- A whole number is written as its digits, with zeros behind them. -/
lemma read_whole (n : Numeral) (whole : 0 ≤ n.exponent) :
    Positional (toString n.digits ++ zeros n.exponent.toNat).toList ∧
      ∃ r, Numeral.read (toString n.digits ++ zeros n.exponent.toNat).toList = some r ∧
        r.value = n.value := by
  have digits : ∀ c ∈ (toString n.digits).toList ++ (zeros n.exponent.toNat).toList,
      c.isDigit := by
    intro c hc
    rcases List.mem_append.1 hc with hc | hc
    · exact isDigit_of_mem_toString hc
    · exact isDigit_of_mem_zeros hc
  have nonempty : (toString n.digits).toList ++ (zeros n.exponent.toNat).toList ≠ [] :=
    List.append_ne_nil_of_left_ne_nil (toString_ne_nil _) _
  have positional := positional_append nonempty digits (List.forall_mem_nil _)
  rw [List.append_nil] at positional
  rw [String.toList_append]
  refine ⟨positional, _, read_digits nonempty digits, ?_⟩
  have power : (10 : ℚ) ^ n.exponent = 10 ^ n.exponent.toNat := by
    rw [← zpow_natCast, Int.toNat_of_nonneg whole]
  rw [Numeral.value, Numeral.value, digitsValue_append, digitsValue_toString, zeros,
    String.toList_ofList, digitsValue_replicate_zero, List.length_replicate, power]
  simp only [Nat.pow_eq]
  push_cast
  ring

/-- Any other number is written with as many places behind the point as it has. -/
lemma read_fraction (n : Numeral) (fraction : n.exponent < 0) :
    Positional (withPoint (toString n.digits) (-n.exponent).toNat).toList ∧
      ∃ r, Numeral.read (withPoint (toString n.digits) (-n.exponent).toNat).toList = some r ∧
        r.value = n.value := by
  obtain ⟨ws, ps, text, nonempty, places, joined⟩ :=
    toList_withPoint (toString n.digits) (-n.exponent).toNat
  have digits : ∀ c ∈ ws ++ ps, c.isDigit := by
    rw [joined]
    exact fun c hc => isDigit_of_mem_padded hc
  have before : ∀ c ∈ ws, c.isDigit := fun c hc => digits c (List.mem_append_left _ hc)
  have after : ∀ c ∈ ps, c.isDigit := fun c hc => digits c (List.mem_append_right _ hc)
  have exponent : -(ps.length : ℤ) = n.exponent := by
    omega
  rw [text, read_point nonempty before after, joined, digitsValue_padded, exponent]
  refine ⟨positional_append nonempty before ?_, n, rfl, rfl⟩
  intro c hc
  rcases List.mem_cons.1 hc with hc | hc
  · exact .inr hc
  · exact .inl (after c hc)

/-- A numeral is written in positional notation and read as the same number. -/
lemma read_plain (n : Numeral) : Positional n.plain.toList ∧
    ∃ r, Numeral.read n.plain.toList = some r ∧ r.value = n.value := by
  unfold Numeral.plain
  simp only
  split
  · rename_i whole
    exact read_whole n whole
  · rename_i fraction
    exact read_fraction n (by omega)

/-! ## Signs and words -/

lemma splitSign_minus (negative : Bool) {cs : List Char} (h : ∃ c ∈ cs.head?, c.isDigit) :
    splitSign ((minus negative).toList ++ cs) = (negative, cs) := by
  obtain ⟨c, head, digit⟩ := h
  cases negative with
  | true => rfl
  | false =>
    refine splitSign_of_digits fun d hd => ?_
    rw [Option.mem_def] at head
    have same : cs.head? = some d := hd
    rw [head] at same
    cases same
    exact ne_sign_of_isDigit digit

/-- A text that begins with a digit is not one of the words. -/
lemma ne_word {cs : List Char} (h : ∃ c ∈ cs.head?, c.isDigit) (w : Char) (ws : List Char)
    (letter : w.isDigit = false) :
    (String.ofList (cs.map Char.toLower) == String.ofList (w :: ws)) = false := by
  obtain ⟨c, head, digit⟩ := h
  rw [beq_eq_false_iff_ne, ne_eq, String.ofList_inj]
  intro same
  cases cs with
  | nil => cases head
  | cons d ds =>
    cases head
    have upper : ¬ (c.val ≥ 'A'.val ∧ c.val ≤ 'Z'.val) := by
      intro ⟨low, _⟩
      simp [Char.isDigit, UInt32.le_iff_toNat_le] at digit low
      omega
    have lower : c.toLower = c := dif_neg upper
    rw [List.map_cons, lower] at same
    cases same
    rw [digit] at letter
    cases letter

/-- A numeral with a sign in front is read as the double nearest to it. -/
lemma readFloat_numeral (negative : Bool) (n : Numeral) :
    readFloat (minus negative ++ n.plain) = some (n.toFloat negative) := by
  obtain ⟨⟨-, head⟩, r, read, value⟩ := read_plain n
  have inf := ne_word head 'i' ['n', 'f'] rfl
  have infinity := ne_word head 'i' "nfinity".toList rfl
  have nan := ne_word head 'n' ['a', 'n'] rfl
  rw [readFloat, String.toList_append, splitSign_minus negative head]
  simp only
  rw [show ("inf" : String) = String.ofList ['i', 'n', 'f'] from rfl, inf,
    show ("infinity" : String) = String.ofList ('i' :: "nfinity".toList) from rfl, infinity,
    show ("nan" : String) = String.ofList ['n', 'a', 'n'] from rfl, nan, read, Bool.or_self,
    if_neg Bool.false_ne_true, if_neg Bool.false_ne_true, Option.map_some, Numeral.toFloat,
    Numeral.toFloat, nearestBits_numeral, nearestBits_numeral, value]

/-- The text of a numeral with a sign has no blanks. -/
lemma not_isBlank_numeral (negative : Bool) (n : Numeral) :
    ∀ c ∈ (minus negative ++ n.plain).toList, Text.isBlank c = false := by
  intro c hc
  rw [String.toList_append, List.mem_append] at hc
  rcases hc with hc | hc
  · cases negative with
    | true =>
      obtain rfl : c = '-' := List.mem_singleton.1 hc
      rfl
    | false => cases hc
  · rcases (read_plain n).1.1 c hc with digit | rfl
    · exact Text.not_isBlank_of_isDigit digit
    · rfl

/-! ## Doubles -/

/-- What is written for a double: a word, or a numeral that is nearest to it. -/
lemma plain_cases (x : Float) :
    (plain x = "NaN" ∧ Binary.ofFloat x = .nan) ∨
      (plain x = infinity (isNegative x) ∧ magnitudeBits x = infinityBits) ∨
      (magnitudeBits x < infinityBits ∧
        ∃ n : Numeral, plain x = minus (isNegative x) ++ n.plain ∧
          n.nearestBits = magnitudeBits x) := by
  unfold plain
  cases h : Binary.ofFloat x with
  | nan => exact .inl ⟨rfl, rfl⟩
  | infinite negative =>
    obtain ⟨rfl, bits⟩ := parts_of_infinite h
    exact .inr (.inl ⟨rfl, bits⟩)
  | finite negative m q =>
    obtain ⟨rfl, finite, bits⟩ := parts_of_finite h
    have exact : roundBits (m * 2 ^ q) = magnitudeBits x := by
      rw [← bits, roundBits_bitsValue finite.le]
    refine .inr (.inr ⟨finite, ?_⟩)
    cases m with
    | zero =>
      refine ⟨⟨0, 0⟩, rfl, ?_⟩
      rw [← exact, Nat.cast_zero, zero_mul, roundBits, if_pos le_rfl]
      rfl
    | succ m => exact ⟨_, rfl, nearestBits_shortest .up exact⟩

/-- A double in plain notation is read as this double. -/
theorem readFloat_plain (x : Float) : readFloat (plain x) = some x := by
  rcases plain_cases x with ⟨text, nan⟩ | ⟨text, infinite⟩ | ⟨finite, n, text, nearest⟩
  · rw [text, eq_of_nan nan (y := 0.0 / 0.0) (by decide)]
    rfl
  · have double := ofMagnitude_eq x
    rw [infinite] at double
    rw [text, ← double]
    cases isNegative x <;> rfl
  · rw [text, readFloat_numeral, Numeral.toFloat, nearest, ofMagnitude_eq]

/-- No blank stands in a double in plain notation. -/
lemma not_isBlank_plain (x : Float) : ∀ c ∈ (plain x).toList, Text.isBlank c = false := by
  have word {s : String} (h : (s.toList.all fun c => Text.isBlank c == false) = true) :
      ∀ c ∈ s.toList, Text.isBlank c = false :=
    fun c mem => eq_of_beq (List.all_eq_true.1 h c mem)
  rcases plain_cases x with ⟨text, -⟩ | ⟨text, -⟩ | ⟨-, n, text, -⟩
  · rw [text]
    exact word (by decide)
  · rw [text]
    apply word
    cases isNegative x <;> decide
  · rw [text]
    exact not_isBlank_numeral _ n

theorem trim_plain (x : Float) : Text.trim (plain x) = plain x :=
  Text.trim_of_noBlank (not_isBlank_plain x)

lemma plain_ne_nil (x : Float) : (plain x).toList ≠ [] := by
  intro empty
  have read := readFloat_plain x
  rw [String.toList_eq_nil_iff.1 empty] at read
  cases read

end PerfGate.Decimal
