import Std.Data.ExtTreeMap
import PerfGate.Decimal.Layout
import PerfGate.Failure
import PerfGate.Json
import PerfGate.Logged
import PerfGate.Text.Blank

/-!
# Threshold policies

How much slower a benchmark may get, in percent: one default, and overrides for single names. Every
percentage that gets into a policy is finite and positive; anything else is refused, and the policy
stays as it was. `effective_override` says what an override does to the threshold of every name.
-/

namespace PerfGate

open Std

/-- A default threshold and overrides by name, in percent. -/
structure Policy where
  default : Float
  table : ExtTreeMap String Float

namespace Policy

/-- The default threshold when none is given. -/
def standardPct : Float := 10

/-- The policy when nothing is asked for. -/
def standard : Policy := ⟨standardPct, ∅⟩

/-- The percentage is finite and positive. -/
def isValidPct (pct : Float) : Bool :=
  Decimal.isFinite pct && 0 < pct

/-- The percentage, if it is one that a policy may hold. -/
def validate (parameter : String) (pct : Float) : Except Failure Float :=
  if isValidPct pct then .ok pct
  else
    .error (.invalidConfig parameter ("must be a positive percentage, got " ++ Decimal.plain pct))

/-- A policy without overrides. -/
def new (pct : Float) : Except Failure Policy :=
  return ⟨← validate "threshold" pct, ∅⟩

/-- The policy with an override for a name. -/
def override (p : Policy) (name : String) (pct : Float) : Except Failure Policy :=
  return { p with table := p.table.insert name (← validate "relaxed-threshold" pct) }

/-- The policy with the relaxed percentage for the given names. A percentage without names changes
nothing, with a warning; names without a percentage are refused. -/
def relax (p : Policy) (pct : Option Float) (names : Option (List String)) :
    Logged (Except Failure Policy) :=
  match pct, names with
  | some pct, some names => pure (names.foldlM (fun policy name => policy.override name pct) p)
  | some pct, none =>
    match validate "relaxed-threshold" pct with
    | .ok _ => do
      Logged.warn "relaxed threshold given without benchmark names; it has no effect"
      pure (.ok p)
    | .error e => pure (.error e)
  | none, some _ =>
    pure (.error
      (.invalidConfig "relaxed-benchmarks" "benchmark names require a relaxed threshold"))
  | none, none => pure (.ok p)

/-- The override of a name. -/
def overrideOf (p : Policy) (name : String) : Option Float :=
  p.table[name]?

/-- The name has an override. -/
def hasOverride (p : Policy) (name : String) : Bool :=
  p.table.contains name

/-- The overrides, in the order of the names. -/
def overrides (p : Policy) : List (String × Float) :=
  p.table.toList

/-- The threshold that applies to a name. -/
def effective (p : Policy) (name : String) : Float :=
  (p.overrideOf name).getD p.default

/-- The policy as a record. -/
def toJson (p : Policy) : Json :=
  .record
    [("default_pct", .number p.default),
     ("overrides", .record (p.overrides.map fun o => (o.1, .number o.2)))]

/-- The names of a list separated by commas, without the blanks around them. -/
def namePieces (raw : String) : List String :=
  (raw.toList.splitOn ',').map fun piece => String.ofList (Text.trimChars piece)

/-- The names of a list separated by commas. A list with a blank entry is refused. -/
def parseNames (raw : String) : Except Failure (List String) :=
  let names := namePieces raw
  if names.any String.isEmpty then
    .error (.invalidConfig "relaxed-benchmarks" s!"malformed benchmark list '{raw}'")
  else .ok names

/-- After an override the name has the new threshold, and every other name the one that it had. -/
theorem effective_override {p q : Policy} {name : String} {pct : Float}
    (h : p.override name pct = .ok q) (other : String) :
    q.effective other = if name = other then pct else p.effective other := by
  unfold override validate at h
  split at h
  · cases h
    by_cases hn : name = other <;> simp [effective, overrideOf, ExtTreeMap.getElem?_insert, hn]
  · cases h

end Policy

end PerfGate
