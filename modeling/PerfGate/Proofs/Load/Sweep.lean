import PerfGate.Proofs.Load.Accounting

/-!
# Sweeps level by level

A sweep is refused before anything is done, or it runs its levels one after the other, up to the
first that does not find its target (`Swept`). `runScenario_levelByLevel` says which results are
handed on, how the sweep ends and what it leaves behind, in terms of the arenas in which its levels
begin.
-/

namespace PerfGate.Load

variable {σ π ρ : Type}

/-! ## Runs on a stage -/

section

variable {α β S : Type} {n : Type → Type} [Monad n]

/-- The one computation does what the other does, with nothing added by the monad around it. -/
def Embeds (x : StateT S n α) (y : StateM S α) : Prop :=
  ∀ s, x.run s = pure (y.run s)

namespace Embeds

lemma pure (a : α) : Embeds (Pure.pure a : StateT S n α) (Pure.pure a) := fun _ => rfl

variable [LawfulMonad n]

lemma bind {x : StateT S n α} {y : StateM S α} {f : α → StateT S n β} {g : α → StateM S β}
    (hx : Embeds x y) (hf : ∀ a, Embeds (f a) (g a)) : Embeds (x >>= f) (y >>= g) := by
  intro s
  rw [StateT.run_bind, hx s, pure_bind]
  exact hf _ _

end Embeds

variable [LawfulMonad n] (t : Target σ π ρ) (clock : Clock) (request : Request π) (config : Config)

lemma embeds_warmUp : Embeds (n := n) (warmUp (Stage.ofTarget t clock) request config)
    (warmUp (Stage.ofTarget t clock) request config) := by
  dsimp only [warmUp]
  split
  · exact .bind (fun _ => rfl) fun _ => .pure ()
  · exact .pure ()

lemma embeds_measure : Embeds (n := n) (measure (Stage.ofTarget t clock) request config)
    (measure (Stage.ofTarget t clock) request config) :=
  .bind (fun _ => rfl) fun _ => .pure _

lemma embeds_runBenchmark : Embeds (n := n) (runBenchmark (Stage.ofTarget t clock) request config)
    (runBenchmark (Stage.ofTarget t clock) request config) := by
  unfold runBenchmark
  cases config.validate with
  | error e => exact .pure _
  | ok _ =>
    refine .bind (fun _ => rfl) fun answer => ?_
    cases answer with
    | error e => exact .pure _
    | ok _ =>
      refine .bind (embeds_warmUp t clock request config) fun _ => ?_
      exact .bind (embeds_measure t clock request config) fun _ => .pure _
end

/-! ## Results by level -/

/-- The results of a sweep, the later ones of a level in place of the earlier ones. -/
def collect (results : Results) (reports : List (Nat × Result)) : Results :=
  reports.foldl (fun results report => results.insert report.1 report.2) results

section

variable {level : Nat} {r : Result} {reports : List (Nat × Result)} {results : Results}

/-- The last report on a level has this result. -/
def LastOf (level : Nat) (r : Result) (reports : List (Nat × Result)) : Prop :=
  ∃ front back, reports = front ++ (level, r) :: back ∧ level ∉ back.map Prod.fst

lemma mem_collect : level ∈ collect results reports ↔
    level ∈ results ∨ level ∈ reports.map Prod.fst := by
  induction reports generalizing results with
  | nil => simp [collect]
  | cons report reports ih =>
    rw [collect, List.foldl_cons, ← collect, ih, Std.ExtTreeMap.mem_insert, compare_eq_iff_eq,
      List.map_cons, List.mem_cons, eq_comm, or_assoc, or_left_comm]

lemma lastOf_cons {report : Nat × Result} : LastOf level r (report :: reports) ↔
    LastOf level r reports ∨ report = (level, r) ∧ level ∉ reports.map Prod.fst := by
  constructor
  · rintro ⟨front, back, split, last⟩
    cases front with
    | nil =>
      cases split
      exact .inr ⟨rfl, last⟩
    | cons first front =>
      cases split
      exact .inl ⟨front, back, rfl, last⟩
  · rintro (⟨front, back, rfl, last⟩ | ⟨rfl, last⟩)
    · exact ⟨report :: front, back, rfl, last⟩
    · exact ⟨[], reports, rfl, last⟩

lemma getElem?_collect : (collect results reports)[level]? = some r ↔
    LastOf level r reports ∨ level ∉ reports.map Prod.fst ∧ results[level]? = some r := by
  induction reports generalizing results with
  | nil => simp [collect, LastOf]
  | cons report reports ih =>
    rw [collect, List.foldl_cons, ← collect, ih, Std.ExtTreeMap.getElem?_insert, lastOf_cons]
    obtain ⟨level', r'⟩ := report
    by_cases same : level' = level
    · simp [same, and_comm]
    · simp [same, Ne.symm same]

end

/-! ## Sweeps -/

variable (t : Target σ π ρ) (clock : Clock) (scenario : Scenario π) (warmup : Nat)

/-- The run at one level of a sweep, and the arena that it leaves. -/
def runLevel (level : Nat) (s : Arena σ π ρ) : Except Failure Result × Arena σ π ρ :=
  (runBenchmark (Stage.ofTarget (n := Id) t clock) scenario.request
    ⟨scenario.total, level, warmup⟩).run s

/-- The arena in which the level with this number begins, after those in front of it. -/
def begins (levels : List Nat) (s : Arena σ π ρ) (i : Nat) : Arena σ π ρ :=
  (levels.take i).foldl (fun s level => (runLevel t clock scenario warmup level s).2) s

/-- The levels of a sweep are run one after the other, up to the first that does not find the
target. The results are those handed on. -/
inductive Swept : List Nat → Arena σ π ρ → List (Nat × Result) → Option CallError →
    Arena σ π ρ → Prop
  | finished (s : Arena σ π ρ) : Swept [] s [] none s
  | unreachable {level : Nat} {levels : List Nat} {s s' : Arena σ π ρ} {e : CallError}
      (look : s.probe t = (.error e, s')) : Swept (level :: levels) s [] (some e) s'
  | level {level : Nat} {levels : List Nat} {s s' s'' : Arena σ π ρ} {r : Result}
      {reports : List (Nat × Result)} {stop : Option CallError} (look : (s.probe t).1 = .ok ())
      (run : runLevel t clock scenario warmup level s = (.ok r, s'))
      (rest : Swept levels s' reports stop s'') :
      Swept (level :: levels) s ((level, r) :: reports) stop s''

/-- How a sweep ends: with its results, or with the reason why a level was not run. -/
def sweepOutcome (results : Results) (reports : List (Nat × Result)) :
    Option CallError → Except Failure Results
  | none => .ok (collect results reports)
  | some e => .error (.unreachable (t.description ++ ": " ++ e.message))

section

variable {t clock scenario warmup} {level : Nat} {levels : List Nat} {s s' : Arena σ π ρ}
  {e : CallError}

lemma validate_level (scenario : Scenario π) (warmup : Nat) (nonzero : level ≠ 0) :
    (⟨scenario.total, level, warmup⟩ : Config).validate = .ok () :=
  if_neg nonzero

/-- A level that does not find its target only looks for it. -/
lemma runLevel_of_error (nonzero : level ≠ 0) (look : s.probe t = (.error e, s')) :
    runLevel t clock scenario warmup level s =
      (.error (.unreachable (t.description ++ ": " ++ e.message)), s') := by
  have looked : ((Stage.ofTarget (n := Id) t clock).run (.probe .finish)).run s =
    (.error e, s') := look
  rw [runLevel, runBenchmark, validate_level scenario warmup nonzero]
  simp only [StateT.run_bind, looked]
  rfl

/-- A level that finds its target has a result. -/
lemma runLevel_of_ok (nonzero : level ≠ 0) (look : (s.probe t).1 = .ok ()) :
    ∃ r s', runLevel t clock scenario warmup level s = (.ok r, s') := by
  have looked : ((Stage.ofTarget (n := Id) t clock).run (.probe .finish)).run s =
    (.ok (), (s.probe t).2) := Prod.ext look rfl
  rw [runLevel, runBenchmark, validate_level scenario warmup nonzero]
  simp only [StateT.run_bind, looked]
  exact ⟨_, _, rfl⟩

/-- The first level is run, its result is handed on, and the others follow. -/
lemma run_runLevels_cons {n : Type → Type} [Monad n] [LawfulMonad n]
    (handOn : Nat → Result → n Unit) (results : Results) {r : Result}
    (run : runLevel t clock scenario warmup level s = (.ok r, s')) (configs : List Config) :
    (runLevels (Stage.ofTarget t clock) scenario.request
        (fun level r => StateT.lift (handOn level r)) results
        (⟨scenario.total, level, warmup⟩ :: configs)).run s = (do
      handOn level r
      (runLevels (Stage.ofTarget t clock) scenario.request
        (fun level r => StateT.lift (handOn level r)) (results.insert level r) configs).run s') := by
  have first := embeds_runBenchmark (n := n) t clock scenario.request
    ⟨scenario.total, level, warmup⟩ s
  rw [runLevel] at run
  rw [runLevels, StateT.run_bind, first, pure_bind, run, StateT.run_bind, StateT.run_lift,
    bind_assoc]
  simp only [pure_bind]

/-- A sweep ends with the first level that does not find its target. -/
lemma run_runLevels_error {n : Type → Type} [Monad n] [LawfulMonad n]
    (handOn : Nat → Result → n Unit) (results : Results) {failure : Failure}
    (run : runLevel t clock scenario warmup level s = (.error failure, s'))
    (configs : List Config) :
    (runLevels (Stage.ofTarget t clock) scenario.request
        (fun level r => StateT.lift (handOn level r)) results
        (⟨scenario.total, level, warmup⟩ :: configs)).run s = pure (.error failure, s') := by
  have first := embeds_runBenchmark (n := n) t clock scenario.request
    ⟨scenario.total, level, warmup⟩ s
  rw [runLevel] at run
  rw [runLevels, StateT.run_bind, first, pure_bind, run]
  rfl

/-- Valid levels are swept, and nothing but their results is handed on. -/
lemma exists_swept (valid : 0 ∉ levels) (results : Results) (s : Arena σ π ρ) :
    ∃ reports stop s', Swept t clock scenario warmup levels s reports stop s' ∧
      ∀ {n : Type → Type} [Monad n] [LawfulMonad n] (handOn : Nat → Result → n Unit),
        (runLevels (Stage.ofTarget t clock) scenario.request
            (fun level r => StateT.lift (handOn level r)) results
            (levels.map fun level => ⟨scenario.total, level, warmup⟩)).run s = (do
          forM reports fun report => handOn report.1 report.2
          pure (sweepOutcome t results reports stop, s')) := by
  induction levels generalizing results s with
  | nil =>
    refine ⟨[], none, s, .finished s, fun handOn => ?_⟩
    rw [List.forM_nil, pure_bind]
    rfl
  | cons level levels ih =>
    obtain ⟨positive, valid⟩ := not_or.1 (mt List.mem_cons.2 valid)
    have nonzero : level ≠ 0 := Ne.symm positive
    rcases looked : s.probe t with ⟨e | _, s₁⟩
    · have run : runLevel t clock scenario warmup level s = _ := runLevel_of_error nonzero looked
      refine ⟨[], some e, s₁, .unreachable looked, fun handOn => ?_⟩
      rw [List.map_cons, run_runLevels_error handOn results run, List.forM_nil, pure_bind]
      rfl
    · have look : (s.probe t).1 = .ok () := congrArg Prod.fst looked
      obtain ⟨r, s₂, run⟩ : ∃ r s', runLevel t clock scenario warmup level s = (.ok r, s') :=
        runLevel_of_ok nonzero look
      obtain ⟨reports, stop, s', swept, equation⟩ := ih valid (results.insert level r) s₂
      refine ⟨(level, r) :: reports, stop, s', .level look run swept, fun handOn => ?_⟩
      rw [List.map_cons, run_runLevels_cons handOn results run, equation, List.forM_cons,
        bind_assoc]
      cases stop <;> rfl

/-- The levels behind the first one begin where it has left off. -/
lemma begins_succ {outcome : Except Failure Result} (levels : List Nat) (i : Nat)
    (run : runLevel t clock scenario warmup level s = (outcome, s')) :
    begins t clock scenario warmup (level :: levels) s (i + 1) =
      begins t clock scenario warmup levels s' i := by
  rw [begins, List.take_succ_cons, List.foldl_cons, run, begins]

namespace Swept

variable {reports : List (Nat × Result)} {stop : Option CallError} {r : Result} {i : Nat}

/-- The results are those of the first levels, in their order. -/
lemma map_fst (h : Swept t clock scenario warmup levels s reports stop s') :
    reports.map Prod.fst = levels.take reports.length := by
  induction h with
  | finished s => rfl
  | unreachable look => rfl
  | level look run rest ih => rw [List.map_cons, ih, List.length_cons, List.take_succ_cons]

/-- Each of these levels found its target and was run in the arena in which it began. -/
lemma ran (h : Swept t clock scenario warmup levels s reports stop s')
    (found : reports[i]? = some (level, r)) :
    ((begins t clock scenario warmup levels s i).probe t).1 = .ok () ∧
      runLevel t clock scenario warmup level (begins t clock scenario warmup levels s i) =
        (.ok r, begins t clock scenario warmup levels s (i + 1)) := by
  induction h generalizing i with
  | finished s => cases found
  | unreachable look => cases found
  | level look run rest ih =>
    cases i with
    | zero =>
      cases found
      rw [begins_succ _ 0 run]
      exact ⟨look, run⟩
    | succ i =>
      rw [begins_succ _ i run, begins_succ _ (i + 1) run]
      exact ih found

/-- A sweep ends when all levels were run, or where a level did not find its target. -/
lemma ends (h : Swept t clock scenario warmup levels s reports stop s') :
    (stop = none → reports.length = levels.length ∧
        s' = begins t clock scenario warmup levels s levels.length) ∧
      ∀ e, stop = some e → reports.length < levels.length ∧
        (begins t clock scenario warmup levels s reports.length).probe t = (.error e, s') := by
  induction h with
  | finished s => exact ⟨fun _ => ⟨rfl, rfl⟩, nofun⟩
  | unreachable look =>
    refine ⟨nofun, ?_⟩
    rintro _ ⟨⟩
    exact ⟨Nat.zero_lt_succ _, look⟩
  | level look run rest ih =>
    rw [List.length_cons, List.length_cons, begins_succ _ _ run, begins_succ _ _ run,
      Nat.add_right_cancel_iff, Nat.add_lt_add_iff_right]
    exact ih

end Swept

/-! ## Validation -/

/-- The complaint about a level without workers. -/
def noWorkers : Failure :=
  .invalidConfig "concurrency" "at least one worker is required"

lemma validate_levels (scenario : Scenario π) (warmup : Nat) (levels : List Nat) :
    (levels.map fun level => (⟨scenario.total, level, warmup⟩ : Config)).forM Config.validate =
      if 0 ∈ levels then .error noWorkers else .ok () := by
  induction levels with
  | nil => rfl
  | cons level levels ih =>
    by_cases zero : level = 0
    · rw [zero, if_pos List.mem_cons_self]
      rfl
    · have valid := validate_level scenario warmup zero
      have others : 0 ∈ level :: levels ↔ 0 ∈ levels := by
        rw [List.mem_cons, or_iff_right (Ne.symm zero)]
      rw [List.map_cons, List.forM_eq_forM, List.forM_cons, valid, ← List.forM_eq_forM]
      simp only [others]
      exact ih

/-- Without levels, or with one that has no workers, nothing is done. -/
lemma run_runScenario_refused {n : Type → Type} [Monad n]
    (refused : levels = [] ∨ 0 ∈ levels) (handOn : Nat → Result → n Unit) :
    (runScenario (Stage.ofTarget t clock) scenario levels warmup
        fun level r => StateT.lift (handOn level r)).run s =
      pure (.error (if levels = [] then noLevels else noWorkers), s) := by
  unfold runScenario
  by_cases none : levels = []
  · rw [none]
    rfl
  · have zero := refused.resolve_left none
    have some : levels.isEmpty = false := by simpa using none
    rw [some, if_neg none]
    simp only [validate_levels, if_pos zero]
    rfl

/-- Otherwise the levels are run. -/
lemma run_runScenario_valid {n : Type → Type} [Monad n] (nonempty : levels ≠ [])
    (valid : 0 ∉ levels) (handOn : Nat → Result → n Unit) :
    (runScenario (Stage.ofTarget t clock) scenario levels warmup
        fun level r => StateT.lift (handOn level r)).run s =
      (runLevels (Stage.ofTarget t clock) scenario.request
        (fun level r => StateT.lift (handOn level r)) ∅
        (levels.map fun level => ⟨scenario.total, level, warmup⟩)).run s := by
  have some : levels.isEmpty = false := by simpa using nonempty
  unfold runScenario
  rw [some]
  simp only [validate_levels, if_neg valid]
  rfl

/-- Looking for the target is no call. -/
lemma Arena.history_probe {r : Except CallError Unit} (h : s.probe t = (r, s')) :
    ∃ asked, s'.history = asked :: s.history ∧ asked.isCall = false := by
  unfold probe at h
  split at h
  · cases h
    exact ⟨_, rfl, rfl⟩
  · rcases answer : s.connect t with ⟨result, s''⟩
    rw [answer] at h
    cases h
    have step : s.Moves t (fun _ => 0) (.connect result) s' := .connect answer
    exact ⟨_, step.history rfl, rfl⟩

end

/-- What a sweep hands on when its first levels, so many of them, find the target: the result of
each, run in the arena in which it begins. -/
structure Reported (levels : List Nat) (s : Arena σ π ρ) (count : Nat)
    (reports : List (Nat × Result)) : Prop where
  inOrder : reports.map Prod.fst = levels.take count
  ran : ∀ i level r, reports[i]? = some (level, r) →
    runLevel t clock scenario warmup level (begins t clock scenario warmup levels s i) =
      (.ok r, begins t clock scenario warmup levels s (i + 1))

/-- How a sweep goes, with what it hands on, how it ends and the arena that it leaves. -/
structure LevelByLevel (levels : List Nat) (s : Arena σ π ρ) (reports : List (Nat × Result))
    (outcome : Except Failure Results) (s' : Arena σ π ρ) : Prop where
  refused : (∃ parameter reason, outcome = .error (.invalidConfig parameter reason)) ↔
    levels = [] ∨ 0 ∈ levels
  untouched : levels = [] ∨ 0 ∈ levels → reports = [] ∧ s' = s
  /-- All levels find the target. -/
  completed : levels ≠ [] → 0 ∉ levels →
    (∀ i < levels.length, ((begins t clock scenario warmup levels s i).probe t).1 = .ok ()) →
    Reported t clock scenario warmup levels s levels.length reports ∧
      s' = begins t clock scenario warmup levels s levels.length ∧
      ∃ results : Results, outcome = .ok results ∧ (∀ level, level ∈ results ↔ level ∈ levels) ∧
        ∀ level r, results[level]? = some r ↔ LastOf level r reports
  /-- The level with this number is the first that does not find it. -/
  stopped : 0 ∉ levels → ∀ i e, i < levels.length →
    (∀ j < i, ((begins t clock scenario warmup levels s j).probe t).1 = .ok ()) →
    ((begins t clock scenario warmup levels s i).probe t).1 = .error e →
    Reported t clock scenario warmup levels s i reports ∧
      outcome = .error (.unreachable (t.description ++ ": " ++ e.message)) ∧
      s' = ((begins t clock scenario warmup levels s i).probe t).2 ∧
      ∃ asked, s'.history = asked :: (begins t clock scenario warmup levels s i).history ∧
        asked.isCall = false

section

variable {t clock scenario warmup} {levels : List Nat} {s s' : Arena σ π ρ}
  {reports : List (Nat × Result)} {stop : Option CallError}

lemma Swept.reported (h : Swept t clock scenario warmup levels s reports stop s') :
    Reported t clock scenario warmup levels s reports.length reports where
  inOrder := h.map_fst
  ran _ _ _ found := (h.ran found).2

/-- The levels with results have found the target. -/
lemma Swept.found (h : Swept t clock scenario warmup levels s reports stop s') {i : Nat}
    (ran : i < reports.length) :
    ((begins t clock scenario warmup levels s i).probe t).1 = .ok () :=
  (h.ran (List.getElem?_eq_getElem ran)).1

/-- So a sweep whose levels all find the target is not stopped. -/
lemma Swept.finished_of_found (h : Swept t clock scenario warmup levels s reports stop s')
    (found : ∀ i < levels.length,
      ((begins t clock scenario warmup levels s i).probe t).1 = .ok ()) : stop = none := by
  cases stop with
  | none => rfl
  | some e =>
    obtain ⟨less, look⟩ := h.ends.2 e rfl
    have found := found _ less
    rw [look] at found
    cases found

/-- One of whose levels does not is stopped by the first. -/
lemma Swept.stopped_at (h : Swept t clock scenario warmup levels s reports stop s') {i : Nat}
    {e : CallError} (inside : i < levels.length)
    (found : ∀ j < i, ((begins t clock scenario warmup levels s j).probe t).1 = .ok ())
    (missed : ((begins t clock scenario warmup levels s i).probe t).1 = .error e) :
    stop = some e ∧ reports.length = i ∧
      s' = ((begins t clock scenario warmup levels s i).probe t).2 := by
  have notAfter : ¬ i < reports.length := by
    intro ran
    rw [h.found ran] at missed
    cases missed
  cases stop with
  | none =>
    rw [(h.ends.1 rfl).1] at notAfter
    exact absurd inside notAfter
  | some e' =>
    obtain ⟨-, look⟩ := h.ends.2 e' rfl
    have notBefore : ¬ reports.length < i := by
      intro before
      have found := found _ before
      rw [look] at found
      cases found
    obtain rfl : reports.length = i := by omega
    rw [look] at missed ⊢
    cases missed
    exact ⟨rfl, rfl, rfl⟩

lemma Swept.levelByLevel (nonempty : levels ≠ []) (valid : 0 ∉ levels)
    (h : Swept t clock scenario warmup levels s reports stop s') :
    LevelByLevel t clock scenario warmup levels s reports (sweepOutcome t ∅ reports stop) s' := by
  have fine : ¬ (levels = [] ∨ 0 ∈ levels) := not_or.2 ⟨nonempty, valid⟩
  refine ⟨iff_of_false ?_ fine, fun refused => absurd refused fine, fun _ _ found => ?_,
    fun _ i e inside found missed => ?_⟩
  · rintro ⟨parameter, reason, outcome⟩
    cases stop <;> cases outcome
  · obtain rfl := h.finished_of_found found
    obtain ⟨length, last⟩ := h.ends.1 rfl
    have reported := h.reported
    rw [length] at reported
    refine ⟨reported, last, collect ∅ reports, rfl, fun level => ?_, fun level r => ?_⟩
    · rw [mem_collect, reported.inOrder, List.take_length]
      exact or_iff_right Std.ExtTreeMap.not_mem_empty
    · rw [getElem?_collect, Std.ExtTreeMap.getElem?_empty]
      exact or_iff_left fun absent => nomatch absent.2
  · obtain ⟨rfl, rfl, last⟩ := h.stopped_at inside found missed
    exact ⟨h.reported, rfl, last, last ▸ Arena.history_probe rfl⟩

/-- A sweep that is refused has done nothing. -/
lemma levelByLevel_refused (refused : levels = [] ∨ 0 ∈ levels) :
    LevelByLevel t clock scenario warmup levels s []
      (.error (if levels = [] then noLevels else noWorkers)) s := by
  refine ⟨iff_of_true ?_ refused, fun _ => ⟨rfl, rfl⟩, fun nonempty valid => ?_,
    fun valid i e inside => ?_⟩
  · split <;> exact ⟨_, _, rfl⟩
  · exact absurd refused (not_or.2 ⟨nonempty, valid⟩)
  · obtain rfl := refused.resolve_right valid
    cases inside

end

/-- A sweep is refused before anything is done if it has no levels or one without workers. Otherwise
it hands on the results of its levels in order, up to the first that does not find the target. -/
theorem runScenario_levelByLevel (levels : List Nat) (s : Arena σ π ρ) :
    ∃ reports outcome s', LevelByLevel t clock scenario warmup levels s reports outcome s' ∧
      ∀ {n : Type → Type} [Monad n] [LawfulMonad n] (handOn : Nat → Result → n Unit),
        (runScenario (Stage.ofTarget t clock) scenario levels warmup
            fun level r => StateT.lift (handOn level r)).run s = (do
          forM reports fun report => handOn report.1 report.2
          pure (outcome, s')) := by
  by_cases refused : levels = [] ∨ 0 ∈ levels
  · refine ⟨[], _, s, levelByLevel_refused refused, fun handOn => ?_⟩
    rw [run_runScenario_refused refused, List.forM_nil, pure_bind]
  · obtain ⟨nonempty, valid⟩ := not_or.1 refused
    obtain ⟨reports, stop, s', swept, run⟩ := exists_swept valid ∅ s
    refine ⟨reports, _, s', swept.levelByLevel nonempty valid, fun handOn => ?_⟩
    rw [run_runScenario_valid nonempty valid]
    exact run handOn

/-- A target that is not there when it is looked for the third time. -/
def thirdLook : Target Nat Unit Unit where
  description := "localhost:8080"
  connect n := (.ok (), n)
  call _ _ n := (.ok (), n)
  probe := some fun n => (if n = 2 then .error (.transport "gone") else .ok (), n + 1)

/-- A sweep over three levels that is stopped by the last of them. -/
theorem runScenario_levelByLevel_thirdLook :
    ∃ (reports : List (Nat × Result)) (s' : Arena Nat Unit Unit),
      reports.map Prod.fst = [2, 1] ∧ s'.target = 3 ∧
      ∀ {n : Type → Type} [Monad n] [LawfulMonad n] (handOn : Nat → Result → n Unit),
        (runScenario (Stage.ofTarget thirdLook (5 * ·)) ⟨"small", ⟨"echo", ()⟩, 3⟩ [2, 1, 2] 2
            fun level r => StateT.lift (handOn level r)).run (.start 0 [[0, 1, 0], [1, 0, 0]]) = (do
          forM reports fun report => handOn report.1 report.2
          pure (.error (.unreachable "localhost:8080: transport error: gone"), s')) := by
  obtain ⟨reports, outcome, s', sweep, run⟩ := runScenario_levelByLevel thirdLook (5 * ·)
    ⟨"small", ⟨"echo", ()⟩, 3⟩ 2 [2, 1, 2] (.start 0 [[0, 1, 0], [1, 0, 0]])
  obtain ⟨reported, rfl, rfl, -⟩ := sweep.stopped (by decide) 2 (.transport "gone") (by decide)
    (fun j before => by
      have cases : j = 0 ∨ j = 1 := by omega
      rcases cases with rfl | rfl <;> rfl) rfl
  exact ⟨reports, _, reported.inOrder, rfl, run⟩

end PerfGate.Load
