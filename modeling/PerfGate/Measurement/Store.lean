import Std.Data.ExtTreeMap
import PerfGate.Json

/-!
# Measurements

A `Store` maps benchmark names to one number each, usually nanoseconds per operation. Its view is
`toList`, in the order of the names; names are ordered by their code points. Two stores are equal
exactly when they look up the same (`Store.ext`).
-/

namespace PerfGate

open Std

/-- Benchmark names with their measured values. -/
structure Store where
  table : ExtTreeMap String Float
  deriving Inhabited

namespace Store

/-- No measurements. -/
def empty : Store := ⟨∅⟩

/-- The value measured for a name. -/
def get? (s : Store) (name : String) : Option Float :=
  s.table[name]?

/-- The name has a value. -/
def contains (s : Store) (name : String) : Bool :=
  s.table.contains name

/-- The number of names. -/
def size (s : Store) : Nat :=
  s.table.size

/-- There is no name. -/
def isEmpty (s : Store) : Bool :=
  s.table.isEmpty

/-- The names with their values, in the order of the names. -/
def toList (s : Store) : List (String × Float) :=
  s.table.toList

/-- The names, in order. -/
def names (s : Store) : List String :=
  s.table.keys

/-- The store with a value for a name, in place of the earlier value if there is one. -/
def insert (s : Store) (name : String) (value : Float) : Store :=
  ⟨s.table.insert name value⟩

/-- The store of a list of measurements; the last value of a name counts. -/
def ofList (measurements : List (String × Float)) : Store :=
  measurements.foldl (fun s m => s.insert m.1 m.2) empty

/-- The names with a negative value, in order. A zero is not negative. -/
def negativeNames (s : Store) : List String :=
  (s.toList.filter fun m => m.2 < 0).map (·.1)

/-- The stores have the same names with equal numbers, so a store that holds a value that is not a
number is not the same as itself. -/
def same (s t : Store) : Bool :=
  s.toList == t.toList

/-- The store as one record, a member per name. -/
def toJson (s : Store) : Json :=
  .record (s.toList.map fun m => (m.1, .number m.2))

/-- The store as a list of records. -/
def toMeasurementsJson (s : Store) : Json :=
  .list (s.toList.map fun m => .record [("name", .text m.1), ("value", .number m.2)])

/-- A store is determined by what it looks up. -/
@[ext]
theorem ext {s t : Store} (h : ∀ name, s.get? name = t.get? name) : s = t := by
  cases s; cases t
  congr
  exact ExtTreeMap.ext_getElem? h

@[simp]
theorem get?_empty (name : String) : empty.get? name = none := by
  simp [get?, empty]

/-- Looking up after an insertion. -/
theorem get?_insert (s : Store) (name other : String) (value : Float) :
    (s.insert name value).get? other = if name = other then some value else s.get? other := by
  simp [get?, insert, ExtTreeMap.getElem?_insert]

/-- The view lists exactly what is looked up. -/
theorem mem_toList {s : Store} {name : String} {value : Float} :
    (name, value) ∈ s.toList ↔ s.get? name = some value :=
  ExtTreeMap.mem_toList_iff_getElem?_eq_some

end Store

end PerfGate
