import PerfGate.Proofs.Command.SelectMin
import PerfGate.Proofs.Command.Verdict
import PerfGate.Proofs.Measurement.Runs

/-!
# The stores that commands handle

A store is `Reachable` if it was read from a text, a stream of bytes or a file, under any cap, or is
the minimum of such stores. Reachable stores are `WellFormed`: what a command reads or makes of what
it reads has finite values only, and names that are read from a line as they are written there
(`handled_wellFormed`). There are no others that are (`reachable_iff_wellFormed`).
-/

namespace PerfGate

open ResultFile (IsName Reading Source Writable)

namespace Store

/-- All values are finite, and all names are ones that a line can hold. -/
structure WellFormed (s : Store) : Prop where
  finite : s.IsFinite
  named : ∀ name, s.contains name → IsName name

/-- How a store comes about. -/
inductive Reachable : Store → Prop
  | ofText (maxLines : Nat) (text : String) : Reachable (Reading.ofText maxLines text).store
  | ofBytes {maxLines : Nat} {bytes : ByteArray} {r : Reading}
      (read : Reading.ofBytes maxLines bytes = .ok r) : Reachable r.store
  | ofSource {maxLines : Nat} {source : Source} {r : Reading}
      (read : (Reading.ofSource maxLines source).value = .ok r) : Reachable r.store
  | minimum {runs : List Store} (reachable : ∀ run ∈ runs, Reachable run) :
      Reachable (Store.minimum runs)

variable {s : Store} {runs : List Store}

/-- Well-formed stores are those that can be written to a result file. -/
lemma wellFormed_iff : s.WellFormed ↔ Writable s := by
  constructor
  · intro h m mem
    have stored : s.get? m.1 = some m.2 := mem_toList.1 mem
    exact ⟨h.named m.1 (contains_iff.2 ⟨m.2, stored⟩), h.finite m.1 m.2 stored⟩
  · intro h
    constructor
    · intro name x stored
      exact (h (name, x) (mem_toList.2 stored)).2
    · intro name contained
      obtain ⟨x, stored⟩ := contains_iff.1 contained
      exact (h (name, x) (mem_toList.2 stored)).1

/-- What is read of a text. -/
lemma wellFormed_ofText (maxLines : Nat) (text : String) :
    (Reading.ofText maxLines text).store.WellFormed := by
  have plain : ∀ line ∈ (Text.lines text).take maxLines, '\n' ∉ line :=
    fun line mem => Text.not_mem_of_mem_linesBy (List.mem_of_mem_take mem)
  have added := ResultFile.writable_addFrom_start plain 1
  rw [wellFormed_iff, Reading.ofText, Reading.ofLines]
  split
  · exact added
  · exact added

/-- The values of a minimum are values of the runs, and so are its names. -/
lemma WellFormed.minimum (h : ∀ run ∈ runs, run.WellFormed) :
    (Store.minimum runs).WellFormed := by
  constructor
  · intro name x stored
    obtain ⟨run, among, held⟩ := get?_minimum stored
    exact (h run among).finite name x held
  · intro name contained
    obtain ⟨x, stored⟩ := contains_iff.1 contained
    obtain ⟨run, among, held⟩ := get?_minimum stored
    exact (h run among).named name (contains_iff.2 ⟨x, held⟩)

/-- Reachable stores are well-formed. -/
lemma Reachable.wellFormed (h : s.Reachable) : s.WellFormed := by
  induction h with
  | ofText maxLines text => exact wellFormed_ofText maxLines text
  | @ofBytes maxLines bytes r read =>
    -- a file that holds the bytes is read as they are
    have source : (Reading.ofSource maxLines ⟨"", .ok (.bytes bytes)⟩).value = .ok r :=
      Reading.ofSource_eq_ok.2 ⟨_, rfl, read⟩
    exact wellFormed_iff.2 (Reading.writable_of_ofSource source)
  | ofSource read => exact wellFormed_iff.2 (Reading.writable_of_ofSource read)
  | minimum _ ih => exact .minimum ih

/-- Well-formed stores are reachable: each of them is what some text says. -/
theorem reachable_iff_wellFormed : s.Reachable ↔ s.WellFormed := by
  constructor
  · exact Reachable.wellFormed
  · intro wellFormed
    obtain ⟨maxLines, text, read⟩ :=
      ResultFile.exists_ofText_of_writable (wellFormed_iff.1 wellFormed)
    rw [← read]
    exact .ofText maxLines text

end Store

/-! ## Runs -/

namespace Aggregation

variable {maxLines : Nat} {sources : List Source} {run : Store}

lemma reachable_of_mem_runsOf (among : run ∈ runsOf maxLines sources) : run.Reachable := by
  obtain ⟨result, listed, is⟩ := List.mem_filterMap.1 among
  obtain ⟨source, -, rfl⟩ := List.mem_map.1 listed
  cases read : (runOfSource maxLines source).value with
  | error skipped =>
    rw [read] at is
    cases is
  | ok run' =>
    rw [read] at is
    cases is
    obtain ⟨r, nonEmpty, rfl⟩ := runOfSource_eq_ok.1 read
    exact .ofSource (Reading.ofSource_of_ofNonEmptySource nonEmpty)

end Aggregation

/-! ## Commands -/

namespace Command

/-- The stores that the commands work on: those that `compare` loads, the runs that `select-min`
finds in its files, and what it makes of them. -/
inductive Handled : Store → Prop
  | loaded {maxLines : Nat} {remarks : Bool} {path : String} {w : World} {s : Store}
      (load : ((loadResults .ofWorld maxLines remarks path).run w).1 = .ok s) : Handled s
  | run {maxLines : Nat} {sources : List Source} {run : Store}
      (among : run ∈ Aggregation.runsOf maxLines sources) : Handled run
  | reduced {maxLines : Nat} {sources : List Source} {a : Aggregation}
      (reduced : (Aggregation.ofSources maxLines sources).value = .ok a) : Handled a.store

/-- What is loaded is what the file holds. -/
lemma loadResults_eq_ok {maxLines : Nat} {remarks : Bool} {path : String} {w : World} {s : Store} :
    ((loadResults .ofWorld maxLines remarks path).run w).1 = .ok s ↔
      ∃ r, (Reading.ofNonEmptySource maxLines (.ofPath w.files path)).value = .ok r ∧
        r.store = s := by
  cases read : (Reading.ofNonEmptySource maxLines (.ofPath w.files path)).value with
  | error f =>
    rw [((prints_loadResults_error read).yields w rfl).1]
    exact iff_of_false nofun nofun
  | ok r =>
    rw [((prints_loadResults_ok read).yields w rfl).1]
    constructor
    · intro same
      exact ⟨r, rfl, Except.ok.inj same⟩
    · rintro ⟨_, ⟨⟩, rfl⟩
      rfl

lemma Handled.reachable {s : Store} (h : Handled s) : s.Reachable := by
  cases h with
  | loaded load =>
    obtain ⟨r, nonEmpty, rfl⟩ := loadResults_eq_ok.1 load
    exact .ofSource (Reading.ofSource_of_ofNonEmptySource nonEmpty)
  | run among => exact Aggregation.reachable_of_mem_runsOf among
  | reduced reduced =>
    rw [Aggregation.store_of_ofSources reduced]
    exact .minimum fun _ among => Aggregation.reachable_of_mem_runsOf among

/-- Every store that is read, or made of stores that were read, is well-formed. All stores that the
commands handle are among these, so they can be written to a file, and compared and reduced as
finite measurements are. -/
theorem handled_wellFormed :
    (∀ s : Store, s.Reachable → s.WellFormed) ∧
    (∀ s : Store, Handled s → s.Reachable) ∧
    ∀ s : Store, Handled s → Writable s ∧ s.IsFinite := by
  refine ⟨fun s h => h.wellFormed, fun s h => h.reachable, ?_⟩
  intro s h
  have wellFormed := h.reachable.wellFormed
  exact ⟨Store.wellFormed_iff.1 wellFormed, wellFormed.finite⟩

/-- The one file of a world as both commands see it, and its minimum with another text. -/
theorem handled_wellFormed_sample :
    Handled (.ofList sampleMeasurements) ∧ Writable (.ofList sampleMeasurements) ∧
      (Store.minimum [.ofList sampleMeasurements,
        (Reading.ofText 3 "# night\n z : -0.5 \ny: 1").store]).WellFormed := by
  obtain ⟨wellFormed, reachable, writable⟩ := handled_wellFormed
  obtain ⟨a, reduced, store⟩ := ofSources_sample 9 (by decide)
  have handled : Handled (.ofList sampleMeasurements) := store ▸ .reduced reduced
  refine ⟨handled, (writable _ handled).1, wellFormed _ (.minimum ?_)⟩
  intro run among
  rcases List.mem_cons.1 among with rfl | among
  · exact reachable _ handled
  · rw [List.mem_singleton.1 among]
    exact .ofText 3 _

end Command

end PerfGate
