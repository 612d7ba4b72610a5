import PerfGate.Proofs.Command.SelectMin
import PerfGate.Proofs.ResultFile.Rewriting

/-!
# What the command `select-min` makes of its own output

The command reads a single file that was written as the store in it, and writes that store under a
new header (`attains_selectMin_render`). So behind the header its output has the lines that the file
has, and where it is run on its own output, no measurement changes (`rewriting_stable`).
-/

namespace PerfGate.Command

open Decimal (IsRefixed)
open ResultFile (Reading Writable Header headerLength linesBehindHeader render)

variable {files : FileSystem} {path : String} {cap : Nat} {o : SelectMinOptions} {store : Store}
  {header : Header}

/-- How a command ends that writes a text to a path, and with which files: the text stands there, or
the path cannot be written. -/
def Writes (files : FileSystem) (path text : String) (ending : Ending) (files' : FileSystem) :
    Prop :=
  match files.write path text with
  | .ok written => ending = .ok .passed ∧ files' = written
  | .error e => ending = .error (.failed (ResultFile.unwritable path e)) ∧ files' = files

/-- If there is a reduction, the command writes it. -/
lemma Selects.writes {a : Aggregation} {ending : Ending} {files' : FileSystem}
    (selects : Selects files cap o ending files')
    (reduced : (Aggregation.ofSources cap (o.files.map (.ofPath files))).value = .ok a) :
    ∃ time, Writes files o.output (render a.store ⟨o.title, a.runCount, time⟩) ending files' := by
  unfold Writes
  cases selects with
  | noInput failed => cases reduced.symm.trans failed
  | @unwritable _ time e reduced' failed =>
    cases reduced.symm.trans reduced'
    refine ⟨time, ?_⟩
    rw [failed]
    exact ⟨rfl, rfl⟩
  | @written _ time files' reduced' done =>
    cases reduced.symm.trans reduced'
    refine ⟨time, ?_⟩
    rw [done]
    exact ⟨rfl, rfl⟩

/-- The reduction of a file that was written is the store that is read of it. -/
lemma ofSources_render (writable : Writable store) (title : '\n' ∉ header.title.toList)
    (room : headerLength + store.size ≤ cap) (some : store.isEmpty = false)
    (opened : files.openRead path = .ok (.bytes (render store header).toUTF8)) :
    ∃ a, (Aggregation.ofSources cap [.ofPath files path]).value = .ok a ∧
      a.store = (Reading.ofText cap (render store header)).store := by
  have run := Aggregation.runOfSource_of_text opened
    ((ResultFile.isEmpty_ofText_render writable title room).trans some)
  exact Aggregation.ofSources_singleton run

/-- Run on a file that was written, the command writes the same lines behind the header. -/
lemma attains_selectMin_render (writable : Writable store) (title : '\n' ∉ header.title.toList)
    (room : headerLength + store.size ≤ cap) (some : store.isEmpty = false)
    (opened : files.openRead path = .ok (.bytes (render store header).toUTF8))
    (single : o.files = [path]) (title' : '\n' ∉ o.title.toList) :
    Attains files (selectMin Host.ofWorld cap o) fun ending files' =>
      ∃ text, linesBehindHeader text = linesBehindHeader (render store header) ∧
        Writes files o.output text ending files' := by
  intro w is
  have selects := attains_selectMin files cap o w is
  obtain ⟨a, reduced, reread⟩ := ofSources_render writable title room some opened
  rw [← List.map_singleton, ← single] at reduced
  obtain ⟨time, written⟩ := selects.writes reduced
  refine ⟨_, ?_, written⟩
  rw [reread]
  exact ResultFile.linesBehindHeader_ofText_render writable title room title'

/-- A path that was written can be written again. -/
lemma Writes.passed {files₀ : FileSystem} {text text' : String} {ending : Ending}
    {files' : FileSystem} (written : files₀.write path text = .ok files)
    (h : Writes files path text' ending files') : ending = .ok .passed := by
  obtain ⟨files'', again⟩ := FileSystem.exists_write_write written text'
  unfold Writes at h
  rw [again] at h
  exact h.1

/-- A command that has passed has left a file to which the reduction was written. -/
lemma Selects.output {outcome : Outcome} {files' : FileSystem}
    (selects : Selects files cap o (.ok outcome) files') :
    ∃ a time, (Aggregation.ofSources cap (o.files.map (.ofPath files))).value = .ok a ∧
      files.write o.output (render a.store ⟨o.title, a.runCount, time⟩) = .ok files' := by
  cases selects with
  | written reduced done => exact ⟨_, _, reduced, done⟩

/-- If the command is run on the file at the path, with whatever title and at whatever time, it keeps
the lines that the text has behind the header. If it writes to the path that it has read, it
passes. -/
def Repeats (cap : Nat) (files : FileSystem) (path text : String) : Prop :=
  ∀ again : SelectMinOptions, again.files = [path] → '\n' ∉ again.title.toList →
    Attains files (selectMin Host.ofWorld cap again) fun ending files' =>
      (∃ text', linesBehindHeader text' = linesBehindHeader text ∧
        Writes files again.output text' ending files') ∧
      (again.output = path → ending = .ok .passed)

/-- On its own output the command repeats itself, if the cap leaves room for the whole output. -/
lemma selectMin_again {w w' : World} {outcome : Outcome} {first : SelectMinOptions}
    (title : '\n' ∉ first.title.toList)
    (done : (selectMin Host.ofWorld cap first).run w = (.ok outcome, w')) :
    ∃ a text, (Aggregation.ofSources cap (first.files.map (.ofPath w.files))).value = .ok a ∧
      w'.files.openRead first.output = .ok (.bytes text.toUTF8) ∧
      (headerLength + a.store.size ≤ cap → Repeats cap w'.files first.output text) := by
  have selects := attains_selectMin w.files cap first w rfl
  rw [done] at selects
  obtain ⟨a, time, reduced, written⟩ := selects.output
  have writable := Aggregation.writable_of_ofSources reduced
  have some := Aggregation.isEmpty_of_ofSources reduced
  have opened := FileSystem.openRead_write written
  refine ⟨a, _, reduced, opened, fun room again single title' w'' is => ?_⟩
  obtain ⟨text', same, rewritten⟩ :=
    attains_selectMin_render writable title room some opened single title' w'' is
  refine ⟨⟨text', same, rewritten⟩, fun place => ?_⟩
  rw [place] at rewritten
  exact rewritten.passed written

/-- One pass makes a result file stable. The store that is read of it, with each value the nearest
double to the number that was written, is written as the same text under the same header. And the
command, run on its own output, leaves every line of a measurement as it is. -/
theorem rewriting_stable :
    (∀ (store : Store) (header : Header) (cap : Nat), Writable store →
      '\n' ∉ header.title.toList → 7 + store.size ≤ cap →
        render (Reading.ofText cap (render store header)).store header = render store header ∧
        ∀ name value, store.get? name = some value → ∃ reread,
          (Reading.ofText cap (render store header)).store.get? name = some reread ∧
            IsRefixed 2 value reread) ∧
      ∀ (cap : Nat) (first : SelectMinOptions) (w w' : World) (outcome : Outcome),
        '\n' ∉ first.title.toList →
        (selectMin Host.ofWorld cap first).run w = (.ok outcome, w') →
          ∃ a text, (Aggregation.ofSources cap (first.files.map (.ofPath w.files))).value = .ok a ∧
            w'.files.openRead first.output = .ok (.bytes text.toUTF8) ∧
            (7 + a.store.size ≤ cap → Repeats cap w'.files first.output text) := by
  refine ⟨fun store header cap writable title room => ⟨?same, fun name value stored => ?value⟩,
    fun cap first w w' outcome title done => selectMin_again title done⟩
  case same =>
    exact ResultFile.render_ofText_render writable title room header
  case value =>
    exact ⟨_, ResultFile.get?_ofText_render_of_stored writable title room stored⟩

/-- A value where doubles are farther apart than hundredths, one where they are farther apart than
whole numbers, one that becomes a negative zero, one in the middle of two hundredths, and the least
double. -/
def awkwardMeasurements : List (String × Float) :=
  [("coarse", Float.ofBits 0x42D0000000000001), ("large", Float.ofBits 0x4340000000000001),
    ("negative", Float.ofBits 0xBF50624DD2F1A9FC), ("tie", Float.ofBits 0x3FC0000000000000),
    ("tiny", Float.ofBits 1)]

example : awkwardMeasurements.map (fun m => Decimal.fixed 2 m.2) =
    ["70368744177664.02", "9007199254740994.00", "-0.00", "0.12", "0.00"] := by
  decide +kernel

lemma toList_awkward : (Store.ofList awkwardMeasurements).toList = awkwardMeasurements := by
  have names : (awkwardMeasurements.map Prod.fst).Pairwise (· < ·) := by
    decide
  exact Store.toList_ofList ((List.pairwise_map (f := Prod.fst)).1 names)

lemma writable_awkward : Writable (.ofList awkwardMeasurements) := by
  intro m mem
  rw [toList_awkward] at mem
  fin_cases mem
  all_goals exact ⟨⟨by decide, by decide, by decide, by decide, by decide⟩, by decide⟩

theorem rewriting_stable_awkward :
    Writable (.ofList awkwardMeasurements) ∧ '\n' ∉ ResultFile.nightlyHeader.title.toList ∧
      7 + (Store.ofList awkwardMeasurements).size ≤ 12 ∧
      (∃ text, text = render (.ofList awkwardMeasurements) ResultFile.nightlyHeader ∧
        render (Reading.ofText 12 text).store ResultFile.nightlyHeader = text ∧
        ∃ reread, (Reading.ofText 12 text).store.get? "negative" = some reread ∧
          Decimal.isNegative reread = true) ∧
      '\n' ∉ sampleOptions.title.toList ∧
      ∃ w', (selectMin Host.ofWorld 9 sampleOptions).run sampleWorld = (.ok .passed, w') ∧
        Attains w'.files (selectMin Host.ofWorld 9 ⟨["b"], "b", "again", false⟩)
          fun ending _ => ending = .ok .passed := by
  have named : '\n' ∉ ResultFile.nightlyHeader.title.toList := by decide
  have room : 7 + (Store.ofList awkwardMeasurements).size ≤ 12 := by
    rw [← Store.length_toList, toList_awkward]
    exact Nat.le_refl 12
  have title : '\n' ∉ sampleOptions.title.toList := by decide
  obtain ⟨texts, commands⟩ := rewriting_stable
  obtain ⟨same, values⟩ := texts _ ResultFile.nightlyHeader 12 writable_awkward named room
  refine ⟨writable_awkward, named, room, ⟨_, rfl, same, ?_⟩, title, ?_⟩
  · have stored : (Store.ofList awkwardMeasurements).get? "negative" =
        some (Float.ofBits 0xBF50624DD2F1A9FC) := by
      rw [← Store.mem_toList, toList_awkward]
      simp [awkwardMeasurements]
    obtain ⟨reread, found, refixed⟩ := values _ _ stored
    exact ⟨reread, found, refixed.sign.trans (by decide)⟩
  · obtain ⟨w', done⟩ := selectMin_sample 9 (by decide)
    obtain ⟨a, value, store⟩ := ofSources_sample 9 (by decide)
    obtain ⟨a', text, reduced, -, again⟩ := commands 9 sampleOptions sampleWorld w' _ title done
    cases value.symm.trans reduced
    have fits : 7 + a.store.size ≤ 9 := by
      rw [store, ← Store.length_names, names_sample]
      decide
    refine ⟨w', done, fun w'' is => ?_⟩
    exact (again fits ⟨["b"], "b", "again", false⟩ rfl (by decide) w'' is).2 rfl

end PerfGate.Command
