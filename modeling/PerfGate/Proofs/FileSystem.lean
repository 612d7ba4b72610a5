import PerfGate.FileSystem
import PerfGate.Proofs.Text.Bytes

/-!
# Files that were written

What was written to a path is what is read from it (`openRead_write`): the file is put where the
steps of the path lead, and that is none of the directories on the way. Nothing else changes
(`rewrites_of_write`). The lines of the file are then the lines of the text (`lines_toUTF8`).
-/

namespace PerfGate.FileSystem

open Std

/-- The path, without detours, at which a file stands or can be put. -/
def Target.key? : Target → Option String
  | .file key _ | .vacant key => some key
  | .directory | .nowhere => none

variable {fs fs' : FileSystem} {key path text step directory : String} {place : Place}
  {steps : List String} {target : Target}

lemma get?_insert (fs : FileSystem) (key other : String) (node : Node) :
    (fs.insert key node).get? other = if key = other then some node else fs.get? other := by
  simp [get?, insert, ExtTreeMap.getElem?_insert]

/-! ## Steps -/

lemma follow_stay (skipped : step = "" ∨ step = ".") :
    fs.follow place (step :: steps) = fs.follow place steps := by
  rw [follow.eq_def]
  exact if_pos skipped

lemma follow_up : fs.follow (.within path) (".." :: steps) = fs.follow (parent path) steps := by
  rw [follow, if_neg (by decide), if_pos rfl]

lemma follow_up_outside : fs.follow .outside (".." :: steps) = fs.follow .outside steps := by
  rw [follow.eq_def]
  exact (if_neg (by decide)).trans (if_pos rfl)

lemma follow_down (named : ¬ (step = "" ∨ step = ".")) (down : step ≠ "..")
    (short : ¬ maxNameBytes < step.utf8ByteSize) :
    fs.follow (.within directory) (step :: steps) =
      match fs.get? (join directory step) with
      | some .directory => fs.follow (.within (join directory step)) steps
      | some (.file bytes) =>
        if steps.isEmpty then .ok (.file (join directory step) bytes) else .error .notDirectory
      | none =>
        if steps.isEmpty then .ok (.vacant (join directory step)) else .error .notFound := by
  rw [follow.eq_def]
  exact (if_neg named).trans ((if_neg down).trans (if_neg short))

/-! ## Paths -/

/-- Where a file stands or can be put is no directory. -/
lemma not_directory_of_follow (followed : fs.follow place steps = .ok target)
    (stands : target.key? = some key) : fs.get? key ≠ some .directory := by
  fun_induction fs.follow place steps with
  | case1 | case6 => cases followed; cases stands
  | case2 _ _ _ _ ih | case3 _ _ _ ih | case4 _ _ ih | case8 _ _ _ _ _ _ _ _ ih =>
    exact ih followed
  | case5 | case7 | case10 | case12 => cases followed
  | case9 _ _ _ _ _ _ _ _ found =>
    cases followed
    obtain rfl := Option.some_inj.1 stands
    rw [found]
    nofun
  | case11 _ _ _ _ _ _ _ free =>
    cases followed
    obtain rfl := Option.some_inj.1 stands
    rw [free]
    nofun

/-- A file that is put where the steps lead is found by the same steps. -/
lemma follow_insert (followed : fs.follow place steps = .ok target)
    (stands : target.key? = some key) (bytes : ByteArray) :
    (fs.insert key (.file bytes)).follow place steps = .ok (.file key bytes) := by
  have free := not_directory_of_follow followed stands
  have put : (fs.insert key (.file bytes)).get? key = some (.file bytes) := by
    rw [get?_insert, if_pos rfl]
  fun_induction fs.follow place steps with
  | case1 | case6 => cases followed; cases stands
  | case2 _ _ _ skipped ih => rw [follow_stay skipped, ih followed]
  | case3 _ _ _ ih => rw [follow_up, ih followed]
  | case4 _ _ ih => rw [follow_up_outside, ih followed]
  | case5 | case7 | case10 | case12 => cases followed
  | case8 step steps named down short directory path found ih =>
    have other : key ≠ path := by
      rintro rfl
      exact free found
    have kept : (fs.insert key (.file bytes)).get? path = some .directory := by
      rw [get?_insert, if_neg other, found]
    rw [follow_down named down short, kept]
    exact ih followed
  | case9 _ _ named down short _ _ _ _ last | case11 _ _ named down short _ _ _ last =>
    cases followed
    obtain rfl := Option.some_inj.1 stands
    rw [follow_down named down short, put]
    exact if_pos last

/-- A path of one step leads to what stands in the working directory. -/
lemma resolve_of_step (allowed : refusal? path = none) (relative : start path = .within "")
    (single : path.splitOn "/" = [path]) (named : path ≠ "." ∧ path ≠ "..")
    (short : ¬ maxNameBytes < path.utf8ByteSize) :
    fs.resolve path =
      match fs.get? path with
      | some .directory => .ok .directory
      | some (.file bytes) => .ok (.file path bytes)
      | none => .ok (.vacant path) := by
  have some : path ≠ "" := by
    rintro rfl
    exact absurd allowed (by decide)
  have proper : ¬ (path = "" ∨ path = ".") := fun h => h.elim some named.1
  rw [resolve, allowed]
  simp only
  rw [relative, single, follow_down proper named.2 short]
  rfl

/-- A path that was written leads to a place where a file stands or can be put, and there it was
put. -/
lemma write_inv (written : fs.write path text = .ok fs') :
    ∃ target key, fs.resolve path = .ok target ∧ target.key? = some key ∧
      fs' = fs.insert key (.file text.toUTF8) := by
  unfold write at written
  cases refused : refusal? path with
  | some reason =>
    rw [refused] at written
    cases written
  | none =>
    rw [refused] at written
    simp only at written
    split at written
    · cases written
    cases resolved : fs.resolve path with
    | error e =>
      rw [resolved] at written
      cases written
    | ok target =>
      rw [resolved] at written
      cases target with
      | directory | nowhere => cases written
      | file key | vacant key =>
        cases written
        exact ⟨_, key, rfl, rfl, rfl⟩

lemma openRead_of_resolve {bytes : ByteArray} (resolved : fs.resolve path = .ok (.file key bytes)) :
    fs.openRead path = .ok (.bytes bytes) := by
  rw [openRead, resolved]
  rfl

/-- What was written to a path stands where the path leads. -/
lemma resolve_write (written : fs.write path text = .ok fs') :
    ∃ key, fs'.resolve path = .ok (.file key text.toUTF8) := by
  obtain ⟨target, key, resolved, stands, rfl⟩ := write_inv written
  refine ⟨key, ?_⟩
  unfold resolve at resolved ⊢
  split at resolved
  · cases resolved
  · exact follow_insert resolved stands _

/-- What was written to a path is what is read from it. -/
theorem openRead_write (written : fs.write path text = .ok fs') :
    fs'.openRead path = .ok (.bytes text.toUTF8) := by
  obtain ⟨key, found⟩ := resolve_write written
  exact openRead_of_resolve found

/-- A path that was written can be written again. -/
lemma exists_write_write (written : fs.write path text = .ok fs') (text' : String) :
    ∃ fs'', fs'.write path text' = .ok fs'' := by
  obtain ⟨key, found⟩ := resolve_write written
  unfold write at written ⊢
  cases refused : refusal? path with
  | some reason =>
    rw [refused] at written
    cases written
  | none =>
    rw [refused] at written
    simp only at written ⊢
    split at written
    · cases written
    · rename_i noSlash
      rw [if_neg noSlash, found]
      exact ⟨_, rfl⟩

/-- A path has a new text, and nothing else has changed: the path leads to a place that is no
directory, and there stands the text. -/
structure Rewrites (fs fs' : FileSystem) (path text : String) : Prop where
  place : ∃ target key, fs.resolve path = .ok target ∧ target.key? = some key ∧
    fs.get? key ≠ some .directory ∧ fs'.get? key = some (.file text.toUTF8) ∧
    ∀ other, other ≠ key → fs'.get? other = fs.get? other
  content : fs'.openRead path = .ok (.bytes text.toUTF8)

/-- To write to a path changes nothing else. -/
theorem rewrites_of_write (written : fs.write path text = .ok fs') :
    Rewrites fs fs' path text := by
  refine ⟨?_, openRead_write written⟩
  obtain ⟨target, key, resolved, stands, rfl⟩ := write_inv written
  have free : fs.get? key ≠ some .directory := by
    unfold resolve at resolved
    split at resolved
    · cases resolved
    · exact not_directory_of_follow resolved stands
  refine ⟨target, key, resolved, stands, free, ?_, fun other differs => ?_⟩
  · rw [get?_insert, if_pos rfl]
  · rw [get?_insert, if_neg differs.symm]

/-! ## Lines -/

lemma lines_toUTF8 (text : String) :
    (Opened.bytes text.toUTF8).lines = (Text.lines text).map .ok := by
  rw [Opened.lines, Text.byteLines_toUTF8, List.map_map]
  refine List.map_congr_left fun line _ => ?_
  rw [Function.comp_apply, Text.fromUTF8?_flatMap]
  exact congrArg Except.ok String.toList_ofList

/-- A line that can be read has no line feed. -/
lemma noFeed_of_ok_mem_lines {opened : Opened} {line : List Char} (mem : .ok line ∈ opened.lines) :
    '\n' ∉ line := by
  cases opened with
  | directory => cases List.mem_singleton.1 mem
  | bytes contents =>
    obtain ⟨raw, among, read⟩ := List.mem_map.1 mem
    split at read
    · rename_i text decoded
      cases read
      exact Text.noFeed_of_mem_byteLines among decoded
    · cases read

end PerfGate.FileSystem
