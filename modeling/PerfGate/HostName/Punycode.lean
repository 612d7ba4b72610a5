/-!
# Labels in ASCII

A label with characters beyond ASCII is written as its ASCII characters, a hyphen, and digits that
say where the others go. The others are inserted in the order of their code points; for each, a
number counts the places passed over since the last one. A number is written with the lowest digit
first; from which size on a digit goes on depends on its place and on the sizes of the numbers
before.
-/

namespace PerfGate.HostName

/-- The first code point that is inserted. -/
def firstInserted : Nat := 0x80

/-- The bias before the first number. -/
def firstBias : Nat := 72

/-- The least value of a digit at a place that is followed by another digit. -/
def threshold (place bias : Nat) : Nat :=
  if place ≤ bias then 1 else if bias + 26 ≤ place then 26 else place - bias

/-- A threshold is one at least. -/
theorem threshold_pos (place bias : Nat) : 0 < threshold place bias := by
  unfold threshold
  split
  · omega
  · split <;> omega

/-- Places for as long as the size does not fit one digit. -/
def biasOf (size places : Nat) : Nat :=
  if 455 < size then biasOf (size / 35) (places + 36) else places + 36 * size / (size + 38)
termination_by size

/-- The bias after a number was used as the first or a later one in a text of some length. -/
def adapt (number length : Nat) (isFirst : Bool) : Nat :=
  let size := if isFirst then number / 700 else number / 2
  biasOf (size + size / length) 0

/-- A digit: the letters stand for the values below 26, the figures for the others. -/
def digit (value : Nat) : Char :=
  if value < 26 then Char.ofNat (97 + value) else Char.ofNat (22 + value)

/-- The value of a digit. -/
def valueOf? (c : Char) : Option Nat :=
  if 'a' ≤ c ∧ c ≤ 'z' then some (c.toNat - 97)
  else if 'A' ≤ c ∧ c ≤ 'Z' then some (c.toNat - 65)
  else if c.isDigit then some (c.toNat - 22)
  else none

/-- A digit has the value that it was written for. -/
theorem valueOf_digit {value : Nat} (h : value < 36) : valueOf? (digit value) = some value := by
  have all : ∀ value ∈ List.range 36, valueOf? (digit value) = some value := by decide
  exact all value (List.mem_range.2 h)

/-- A number, read from its digits: how much it adds to what was counted, and the rest. Each digit
has a weight, which stays below a word. -/
def readNumber (bias place weight : Nat) : List Char → Option (Nat × List Char)
  | [] => none
  | c :: rest => do
    let value ← valueOf? c
    let t := threshold place bias
    if value < t then some (value * weight, rest)
    else if UInt32.size ≤ weight * (36 - t) then none
    else
      let (above, rest) ← readNumber bias (place + 36) (weight * (36 - t)) rest
      some (value * weight + above, rest)

/-- A number has a digit at least. -/
theorem length_readNumber {bias place weight number : Nat} {cs rest : List Char}
    (h : readNumber bias place weight cs = some (number, rest)) : rest.length < cs.length := by
  induction cs generalizing place weight number rest with
  | nil => simp [readNumber] at h
  | cons c cs ih =>
    simp only [readNumber, Option.bind_eq_bind, Option.bind_eq_some_iff] at h
    obtain ⟨value, _, h⟩ := h
    split at h
    · simp only [Option.some.injEq, Prod.mk.injEq] at h
      simp [h.2]
    · split at h
      · simp at h
      · obtain ⟨⟨above, left⟩, read, h⟩ := Option.bind_eq_some_iff.1 h
        simp only [Option.some.injEq, Prod.mk.injEq] at h
        have := ih read
        rw [h.2] at this
        simp only [List.length_cons]
        omega

/-- The code point is a character. -/
def isCharacter (n : Nat) : Bool :=
  n < 0xd800 || (0xdfff < n && n < 0x110000)

/-- Inserts characters into a text as the numbers say. The next one goes behind `place`, and is no
lower than `least`. -/
def insertNumbered (bias least place : Nat) (text : List Char) (cs : List Char) :
    Option (List Char) :=
  if cs.isEmpty then some text
  else
    match h : readNumber bias 36 1 cs with
    | none => none
    | some (number, rest) =>
      let length := text.length + 1
      let next := least + (place + number) / length
      let here := (place + number) % length
      if isCharacter next then
        insertNumbered (adapt number length (place == 0)) next (here + 1)
          (text.insertIdx here (Char.ofNat next)) rest
      else none
termination_by cs.length
decreasing_by exact length_readNumber h

/-- The label that is written as the given characters. A hyphen in front is a digit, and none. -/
def decode (cs : List Char) : Option (List Char) :=
  let digits := (cs.reverse.takeWhile (· != '-')).reverse
  let plain := cs.take (cs.length - digits.length - 1)
  insertNumbered firstBias firstInserted 0 plain (if plain.isEmpty then cs else digits)

/-- A number in digits. -/
def writeNumber (bias place number : Nat) : List Char :=
  let t := threshold place bias
  if number < t then [digit number]
  else
    digit (t + (number - t) % (36 - t)) :: writeNumber bias (place + 36) ((number - t) / (36 - t))
termination_by number
decreasing_by
  have := threshold_pos place bias
  have := Nat.div_le_self (number - threshold place bias) (36 - threshold place bias)
  omega

/-- Where the writing of numbers stands. -/
structure Insertion where
  bias : Nat
  /-- How many characters were inserted or are plain. -/
  done : Nat
  isFirst : Bool
  /-- The places passed over since the last number. -/
  passed : Nat
  /-- The digits so far, in pieces, the latest first. -/
  written : List (List Char)

/-- Passes a character of the label while those with code point `n` are inserted. -/
def Insertion.pass (s : Insertion) (n : Nat) (c : Char) : Insertion :=
  if c.toNat < n then { s with passed := s.passed + 1 }
  else if c.toNat = n then
    { bias := adapt s.passed (s.done + 1) s.isFirst
      done := s.done + 1
      isFirst := false
      passed := 0
      written := writeNumber s.bias 36 s.passed :: s.written }
  else s

/-- Inserts the characters with the given code points, in ascending order; `least` is the first that
was not passed yet. -/
def Insertion.run (s : Insertion) (label : List Char) (least : Nat) : List Nat → Insertion
  | [] => s
  | n :: codes =>
    let skipped := { s with passed := s.passed + (n - least) * (s.done + 1) }
    let inserted := label.foldl (·.pass n) skipped
    run { inserted with passed := inserted.passed + 1 } label (n + 1) codes

/-- The characters that a label is written as. -/
def encode (label : List Char) : List Char :=
  let plain := label.filter (·.toNat < firstInserted)
  let codes := ((label.map Char.toNat).filter (firstInserted ≤ ·)).mergeSort.eraseDups
  let start : Insertion :=
    { bias := firstBias, done := plain.length, isFirst := true, passed := 0, written := [] }
  (if plain.isEmpty then [] else plain ++ ['-']) ++
    (start.run label firstInserted codes).written.reverse.flatten

end PerfGate.HostName
