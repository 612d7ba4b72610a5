/-!
# Results with warnings

A value together with the warnings that were given while it was computed, in order. Sequencing two
such computations gives the warnings of the first, then those of the second.
-/

namespace PerfGate

/-- A value and the warnings given on the way to it. -/
structure Logged (α : Type) where
  value : α
  warnings : List String

namespace Logged

variable {α β : Type}

instance : Monad Logged where
  pure a := ⟨a, []⟩
  bind x f := ⟨(f x.value).value, x.warnings ++ (f x.value).warnings⟩

/-- Gives one warning. -/
def warn (message : String) : Logged Unit :=
  ⟨(), [message]⟩

/-- Gives several warnings. -/
def warnAll (messages : List String) : Logged Unit :=
  ⟨(), messages⟩

@[simp]
theorem value_pure (a : α) : (pure a : Logged α).value = a := rfl

@[simp]
theorem warnings_pure (a : α) : (pure a : Logged α).warnings = [] := rfl

@[simp]
theorem value_bind (x : Logged α) (f : α → Logged β) : (x >>= f).value = (f x.value).value := rfl

@[simp]
theorem warnings_bind (x : Logged α) (f : α → Logged β) :
    (x >>= f).warnings = x.warnings ++ (f x.value).warnings := rfl

instance : LawfulMonad Logged :=
  .mk' Logged (fun x => congrArg (Logged.mk x.value) (List.append_nil x.warnings))
    (fun _ _ => rfl) (fun _ _ _ => congrArg (Logged.mk _) (List.append_assoc ..))

@[simp]
theorem value_mapM (f : α → Logged β) (as : List α) :
    (as.mapM f).value = as.map fun a => (f a).value := by
  induction as with
  | nil => rfl
  | cons a as ih =>
    rw [List.mapM_cons, value_bind, value_bind, ih]
    rfl

end Logged

end PerfGate
