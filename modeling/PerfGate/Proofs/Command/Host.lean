import Mathlib.Tactic.Lemma
import PerfGate.Command.Outcome

/-!
# What a host does to its world

The operations of the host that acts on a world, each as an equation: the answer, and the world
afterwards. All but `write` leave the files as they were, and none turns back the clock.
-/

namespace PerfGate.Command

variable {α β : Type}

lemma run_bind (x : StateM World α) (f : α → StateM World β) (w : World) :
    (x >>= f).run w = (f (x.run w).1).run (x.run w).2 :=
  rfl

lemma run_forM_warn (messages : List String) (w : World) :
    (messages.forM Host.ofWorld.warn).run w =
      ((), { w with warnings := w.warnings ++ messages }) := by
  induction messages generalizing w with
  | nil =>
    rw [List.append_nil]
    rfl
  | cons message messages ih =>
    change (messages.forM Host.ofWorld.warn).run { w with warnings := w.warnings ++ [message] } = _
    rw [ih, List.append_assoc]
    rfl

lemma run_absorb (x : Logged α) (w : World) :
    (Host.ofWorld.absorb x).run w =
      (x.value, { w with warnings := w.warnings ++ x.warnings }) := by
  rw [Host.absorb, run_bind, run_forM_warn]
  rfl

lemma run_printLines (lines : List String) (w : World) :
    (Host.ofWorld.printLines lines).run w =
      ((), { w with output := w.output ++ String.join (lines.map (· ++ "\n")) }) :=
  rfl

lemma run_remark (enabled : Bool) (remarks : List Remark) (w : World) :
    ∃ output, (Host.ofWorld.remark enabled remarks).run w = ((), { w with output }) := by
  cases enabled with
  | true => exact ⟨_, rfl⟩
  | false => exact ⟨w.output, rfl⟩

lemma run_remarkFailure (enabled : Bool) (ending : Ending) (w : World) :
    ∃ output, (remarkFailure Host.ofWorld enabled ending).run w = (ending, { w with output }) := by
  cases ending with
  | ok outcome => exact ⟨w.output, rfl⟩
  | error e =>
    obtain ⟨output, run⟩ := run_remark enabled [.ofFailure e.message] w
    refine ⟨output, ?_⟩
    rw [remarkFailure, run_bind, run]
    rfl

lemma run_now (w : World) : Host.ofWorld.now.run w = (w.time, w) :=
  rfl

lemma run_write (path text : String) (w : World) :
    (Host.ofWorld.write path text).run w =
      match w.files.write path text with
      | .ok files => (.ok (), { w with files })
      | .error e => (.error e, w) :=
  rfl

lemma run_sources (paths : List String) (w : World) :
    (paths.mapM Host.ofWorld.source).run w = (paths.map (.ofPath w.files), w) := by
  induction paths with
  | nil => rfl
  | cons path paths ih =>
    rw [List.mapM_cons, run_bind]
    change (paths.mapM Host.ofWorld.source >>= fun sources =>
      pure (.ofPath w.files path :: sources)).run w = _
    rw [run_bind, ih]
    rfl

end PerfGate.Command
