import PerfGate.Proofs.Decimal.Stability
import PerfGate.Proofs.ResultFile.Title

/-!
# Result files that are written again

What is read of a result file that was written is written as the same measurement lines
(`measurementLines_ofText_render`), since no digit of a value changes. So under the same header it
is written as the same text (`render_ofText_render`).
-/

namespace PerfGate.ResultFile

open Decimal (fixed refixed fixed_refixed IsRefixed isRefixed_refixed)

variable {store store' : Store} {header : Header} {cap : Nat}

/-- The lines of a result file behind the header. -/
def linesBehindHeader (text : String) : List (List Char) :=
  (Text.lines text).drop headerLength

/-- The lines behind the header are those of the measurements. -/
lemma linesBehindHeader_render (writable : Writable store) (title : '\n' ∉ header.title.toList) :
    linesBehindHeader (render store header) = measurementLines store := by
  rw [linesBehindHeader, lines_render writable title]
  exact List.drop_left' rfl

/-- A store is written as its number of measurements and their lines say. -/
lemma render_congr (same : measurementLines store = measurementLines store') (header : Header) :
    render store header = render store' header := by
  have texts : store.toList.map (fun m => measurementLine m.1 m.2) =
      store'.toList.map fun m => measurementLine m.1 m.2 := by
    refine List.map_injective_iff.2 (fun _ _ => String.toList_injective) ?_
    rw [List.map_map, List.map_map]
    exact same
  have size : store.size = store'.size := by
    have length := congrArg List.length same
    rwa [measurementLines, measurementLines, List.length_map, List.length_map, Store.length_toList,
      Store.length_toList] at length
  rw [render, render, size, texts]

/-- Where the cap leaves room for all measurements, all are read. -/
lemma toList_ofText_render (writable : Writable store) (title : '\n' ∉ header.title.toList)
    (room : headerLength + store.size ≤ cap) :
    (Reading.ofText cap (render store header)).store.toList = rewritten store.toList := by
  rw [(ofText_render writable title cap).1, List.take_of_length_le]
  rw [Store.length_toList]
  exact Nat.le_sub_of_add_le' room

/-- What is read is written as it was. -/
lemma measurementLines_ofText_render (writable : Writable store)
    (title : '\n' ∉ header.title.toList) (room : headerLength + store.size ≤ cap) :
    measurementLines (Reading.ofText cap (render store header)).store =
      measurementLines store := by
  rw [measurementLines, toList_ofText_render writable title room, rewritten, List.map_map]
  refine List.map_congr_left fun m _ => ?_
  rw [Function.comp_apply, measurementLine, measurementLine, fixed_refixed]

/-- Each value is read as the double nearest to the number that stands for it in the text. -/
lemma get?_ofText_render_of_stored (writable : Writable store) (title : '\n' ∉ header.title.toList)
    (room : headerLength + store.size ≤ cap) {name : String} {value : Float}
    (stored : store.get? name = some value) :
    (Reading.ofText cap (render store header)).store.get? name = some (refixed 2 value) ∧
      IsRefixed 2 value (refixed 2 value) := by
  have mem := Store.mem_toList.2 stored
  refine ⟨?_, isRefixed_refixed 2 (writable _ mem).2⟩
  rw [← Store.mem_toList, toList_ofText_render writable title room]
  exact List.mem_map_of_mem (f := fun m => (m.1, refixed 2 m.2)) mem

/-- A name is read for each measurement. -/
lemma isEmpty_ofText_render (writable : Writable store) (title : '\n' ∉ header.title.toList)
    (room : headerLength + store.size ≤ cap) :
    (Reading.ofText cap (render store header)).store.isEmpty = store.isEmpty := by
  rw [← Store.isEmpty_names, ← Store.map_fst_toList, toList_ofText_render writable title room,
    map_fst_rewritten, Store.map_fst_toList, Store.isEmpty_names]

/-- Whatever the header is, the store that was read is written as the one that was written. -/
lemma render_ofText_render (writable : Writable store) (title : '\n' ∉ header.title.toList)
    (room : headerLength + store.size ≤ cap) (header' : Header) :
    render (Reading.ofText cap (render store header)).store header' = render store header' :=
  render_congr (measurementLines_ofText_render writable title room) header'

/-- The lines behind the header are the same under any header. -/
lemma linesBehindHeader_ofText_render (writable : Writable store)
    (title : '\n' ∉ header.title.toList) (room : headerLength + store.size ≤ cap)
    {header' : Header} (title' : '\n' ∉ header'.title.toList) :
    linesBehindHeader (render (Reading.ofText cap (render store header)).store header') =
      linesBehindHeader (render store header) := by
  rw [render_ofText_render writable title room, linesBehindHeader_render writable title,
    linesBehindHeader_render writable title']

end PerfGate.ResultFile
