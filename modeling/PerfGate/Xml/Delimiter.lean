import PerfGate.Text.Utf8

/-!
# The ends of markup

Every piece of markup ends at a `>`, but not every `>` ends it: `scan` looks for the first one that
does, by a state that says what was read so far. `length_scan`: what follows an end is shorter than
the document.
-/

namespace PerfGate.Xml

variable {σ : Type}

/-- Reads characters, the state following them, up to the first one that has no next state. Gives
those before it and those after it; the former are collected in reverse. -/
def scanOnto (next : σ → Char → Option σ) : σ → List Char → List Char →
    Option (List Char × List Char)
  | _, _, [] => none
  | s, before, c :: cs =>
    match next s c with
    | some s' => scanOnto next s' (c :: before) cs
    | none => some (before.reverse, cs)

/-- The characters before the first one that has no next state, and those after it. -/
def scan (next : σ → Char → Option σ) (s : σ) (cs : List Char) : Option (List Char × List Char) :=
  scanOnto next s [] cs

/-- Any `>` is the end. -/
def anyEnd : Unit → Char → Option Unit
  | (), c => if c = '>' then none else some ()

/-- A `>` outside quotes is the end; the state is the quote that is open. -/
def tagEnd : Option Char → Char → Option (Option Char)
  | none, c =>
    if c = '>' then none
    else if c = '"' ∨ c = '\'' then some (some c)
    else some none
  | some quote, c => some (if c = quote then none else some quote)

/-- How often a character was read in a row. -/
def inRow (repeated : Char) (count : Nat) (c : Char) : Nat :=
  if c = repeated then count + 1 else 0

/-- The `>` after `]]` is the end; the state counts the brackets in a row. -/
def cdataEnd (brackets : Nat) (c : Char) : Option Nat :=
  if c = '>' ∧ 2 ≤ brackets then none else some (inRow ']' brackets c)

/-- The `>` after `--` is the end, unless those are dashes of the opening `!--`; the state counts
the characters, and the dashes in a row. -/
def commentEnd : Nat × Nat → Char → Option (Nat × Nat)
  | (length, dashes), c =>
    if c = '>' ∧ 2 ≤ dashes ∧ 5 ≤ length then none else some (length + 1, inRow '-' dashes c)

/-- The `>` that has no `<` is the end; the state counts the `<` that are open. -/
def doctypeEnd : Nat → Char → Option Nat
  | 0, c => if c = '>' then none else some (if c = '<' then 1 else 0)
  | depth + 1, c => some (if c = '>' then depth else if c = '<' then depth + 2 else depth + 1)

theorem length_scanOnto {next : σ → Char → Option σ} {s : σ} {before cs inside rest : List Char}
    (h : scanOnto next s before cs = some (inside, rest)) : rest.length < cs.length := by
  induction cs generalizing s before with
  | nil => simp [scanOnto] at h
  | cons c cs ih =>
    rw [scanOnto] at h
    split at h
    · exact Nat.lt_succ_of_lt (ih h)
    · obtain ⟨-, rfl⟩ := Prod.mk.inj (Option.some.inj h)
      exact Nat.lt_succ_self _

/-- What follows an end is shorter than the document. -/
theorem length_scan {next : σ → Char → Option σ} {s : σ} {cs inside rest : List Char}
    (h : scan next s cs = some (inside, rest)) : rest.length < cs.length :=
  length_scanOnto h

end PerfGate.Xml
