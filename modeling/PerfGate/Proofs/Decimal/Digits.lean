import Mathlib.Tactic.Lemma
import PerfGate.Decimal.Literal
import PerfGate.Text.Blank

/-!
# Digits that read back

The digits of a natural number have its value (`digitsValue_toString`), and the text of an integer
of 64 bits is read as this integer (`readInt64_toString`). Trimming does not change a text without
blanks, and no integer is written with one.
-/

namespace PerfGate.Decimal

/-- Digits are read one by one from the highest. -/
lemma digitsValue_eq_ofDigitChars (cs : List Char) :
    digitsValue cs = Nat.ofDigitChars 10 cs 0 := by
  have reading : ∀ v : RunValue,
      (cs.foldl RunValue.push v).total = Nat.ofDigitChars 10 cs v.total := by
    induction cs with
    | nil => simp
    | cons c cs ih =>
      intro v
      rw [List.foldl_cons, ih, RunValue.total_push, Nat.ofDigitChars_cons]
      rfl
  exact reading RunValue.empty

lemma digitsValue_append (cs ds : List Char) :
    digitsValue (cs ++ ds) = Nat.pow 10 ds.length * digitsValue cs + digitsValue ds := by
  simp only [digitsValue_eq_ofDigitChars]
  rw [Nat.ofDigitChars_append, Nat.ofDigitChars_eq_ofDigitChars_zero]
  rfl

lemma digitsValue_replicate_zero (n : Nat) : digitsValue (List.replicate n '0') = 0 := by
  rw [digitsValue_eq_ofDigitChars, Nat.ofDigitChars_replicate_zero, Nat.mul_zero]

lemma toList_toString (n : Nat) : (toString n).toList = Nat.toDigits 10 n :=
  Nat.toList_repr

lemma digitsValue_toString (n : Nat) : digitsValue (toString n).toList = n := by
  rw [toList_toString, digitsValue_eq_ofDigitChars, Nat.ofDigitChars_ten_toDigits]

lemma isDigit_of_mem_toString {n : Nat} {c : Char} (h : c ∈ (toString n).toList) : c.isDigit := by
  rw [toList_toString] at h
  exact Nat.isDigit_of_mem_toDigits (by decide) (by decide) h

lemma toString_ne_nil (n : Nat) : (toString n).toList ≠ [] := by
  rw [toList_toString]
  exact Nat.toDigits_ne_nil

lemma isDigits_toString (n : Nat) : isDigits (toString n).toList := by
  rw [isDigits, Bool.and_eq_true, List.all_eq_true, Bool.not_eq_true', List.isEmpty_eq_false_iff]
  exact ⟨toString_ne_nil n, fun c hc => isDigit_of_mem_toString hc⟩

/-- A text that does not begin with a sign has none. -/
lemma splitSign_of_digits {cs : List Char} (h : ∀ c ∈ cs.head?, c ≠ '-' ∧ c ≠ '+') :
    splitSign cs = (false, cs) := by
  unfold splitSign
  split
  · exact absurd rfl (h '-' rfl).1
  · exact absurd rfl (h '+' rfl).2
  · rfl

lemma ne_sign_of_isDigit {c : Char} (h : c.isDigit) : c ≠ '-' ∧ c ≠ '+' := by
  constructor
  · rintro rfl
    exact absurd h (by decide)
  · rintro rfl
    exact absurd h (by decide)

lemma splitSign_toString (n : Nat) :
    splitSign (toString n).toList = (false, (toString n).toList) :=
  splitSign_of_digits fun _ hc =>
    ne_sign_of_isDigit (isDigit_of_mem_toString (List.mem_of_head? hc))

/-- The text of an integer is its sign, if it is negative, and the digits of its magnitude. -/
lemma splitSign_toString_int (i : Int) :
    splitSign (toString i).toList = (decide (i < 0), (toString i.natAbs).toList) := by
  cases i with
  | ofNat n => exact splitSign_toString n
  | negSucc n =>
    rw [decide_eq_true (Int.negSucc_lt_zero n)]
    change splitSign ("-" ++ toString (n + 1)).toList = _
    rw [String.toList_append, show "-".toList = ['-'] from rfl]
    rfl

/-- An integer of 64 bits is read back. -/
lemma readInt64_toString (i : Int64) : readInt64 (toString i.toInt) = some i.toInt := by
  have value : (if decide (i.toInt < 0) then -(i.toInt.natAbs : Int) else i.toInt.natAbs) =
      i.toInt := by
    split
    · rename_i h
      have := of_decide_eq_true h
      omega
    · rename_i h
      have : ¬ i.toInt < 0 := fun negative => h (decide_eq_true negative)
      omega
  have fits : Int64.minValue.toInt ≤ i.toInt ∧ i.toInt ≤ Int64.maxValue.toInt :=
    ⟨i.le_toInt, i.toInt_le⟩
  rw [readInt64, splitSign_toString_int]
  simp only [digitsValue_toString, value, isDigits_toString, Bool.true_and]
  rw [if_pos (decide_eq_true fits)]

end PerfGate.Decimal

namespace PerfGate.Text

/-- A text without blanks is as it would be trimmed. -/
lemma trim_of_noBlank {s : String} (h : ∀ c ∈ s.toList, isBlank c = false) : trim s = s := by
  have keeps {cs : List Char} (h : ∀ c ∈ cs, isBlank c = false) :
      cs.dropWhile isBlank = cs := by
    cases cs with
    | nil => rfl
    | cons c cs => rw [List.dropWhile_cons, h c List.mem_cons_self, if_neg Bool.false_ne_true]
  rw [trim, trimChars, keeps h, keeps fun c hc => h c (List.mem_reverse.1 hc),
    List.reverse_reverse, String.ofList_toList]

lemma not_isBlank_of_isDigit {c : Char} (h : c.isDigit) : isBlank c = false := by
  have bounds : 48 ≤ c.toNat ∧ c.toNat ≤ 57 := by
    simpa [Char.isDigit, UInt32.le_iff_toNat_le] using h
  simp [isBlank]
  omega

lemma trim_toString_int (i : Int) : trim (toString i) = toString i := by
  refine trim_of_noBlank fun c hc => ?_
  cases i with
  | ofNat n => exact not_isBlank_of_isDigit (Decimal.isDigit_of_mem_toString (n := n) hc)
  | negSucc n =>
    change c ∈ ("-" ++ toString (n + 1)).toList at hc
    rw [String.toList_append, List.mem_append] at hc
    rcases hc with hc | hc
    · obtain rfl : c = '-' := List.mem_singleton.1 hc
      rfl
    · exact not_isBlank_of_isDigit (Decimal.isDigit_of_mem_toString hc)

end PerfGate.Text
