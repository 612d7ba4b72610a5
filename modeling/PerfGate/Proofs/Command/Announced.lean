import PerfGate.Proofs.Command.Handled
import PerfGate.Proofs.Report.ErrorLines

/-!
# The errors that a comparison announces

If remarks are asked for, a build server should see an error exactly if the command `compare` does
not pass: one for a failure, and for regressions one each and one that sums them up (`Announces`).
On paths that hold no error line of their own this is so unless a regression is reported as a
document, which comes without remarks (`compare_announces`).
-/

namespace PerfGate

open ResultFile (IsName Reading)

lemma ResultFile.IsName.isInline {name : String} (h : IsName name) : Text.IsInline name := by
  intro c mem
  constructor
  · rintro rfl
    exact h.noFeed mem
  · rintro rfl
    exact h.noColon mem

/-- The names in a comparison of well-formed stores can stand in a line. -/
lemma Report.plain_compareStores {baseline current : Store} (policy : Policy)
    (h : baseline.WellFormed) (h' : current.WellFormed) :
    Report.Plain (compareStores baseline current policy) where
  regressions e mem := by
    obtain ⟨entry, -⟩ := Comparison.mem_regressions.1 mem
    exact (h.named e.name (Store.contains_iff.2 ⟨_, entry.stored⟩)).isInline
  improvements e mem := by
    obtain ⟨entry, -⟩ := (mem_entriesOf .improvement).1 mem
    exact (h.named e.name (Store.contains_iff.2 ⟨_, entry.stored⟩)).isInline
  new name mem := by
    obtain ⟨-, stored⟩ := mem_new.1 mem
    exact (h'.named name (Store.contains_iff.2 stored)).isInline
  missing name mem := by
    obtain ⟨-, stored⟩ := mem_missing.1 mem
    exact (h.named name (Store.contains_iff.2 stored)).isInline

namespace Command

open Report (errorMark errorLines errorsOf regressionLine summaryLine)

variable {files : FileSystem} {maxLines : Nat} {o : CompareOptions} {c : Comparison}
  {ending : Ending} {lines : List String}

/-- The path holds an error line of its own. -/
def Forges (path : String) : Prop :=
  '\n' :: errorMark <:+: path.toList

instance (path : String) : Decidable (Forges path) :=
  inferInstanceAs (Decidable ('\n' :: errorMark <:+: path.toList))

/-- The options are accepted and the files can be used, and this is how they compare. -/
def Compared (files : FileSystem) (maxLines : Nat) (o : CompareOptions) (c : Comparison) : Prop :=
  ∃ p r r', o.policy.value = .ok p ∧
    (Reading.ofNonEmptySource maxLines (.ofPath files o.baseline)).value = .ok r ∧
    (Reading.ofNonEmptySource maxLines (.ofPath files o.current)).value = .ok r' ∧
    c = compareStores r.store r'.store p

/-- The errors for the regressions of a comparison: one each, and one that sums them up. -/
def regressionErrors (c : Comparison) : List (List Char) :=
  (c.regressions.map regressionLine ++ [summaryLine c]).map String.toList

/-- The errors in the text agree with the end of the command. -/
structure Announces (files : FileSystem) (maxLines : Nat) (o : CompareOptions) (ending : Ending)
    (text : String) : Prop where
  failed : ∀ e, ending = .error e → errorLines text ≠ []
  regressed : ending = .ok .regressed →
    ∃ c, Compared files maxLines o c ∧ errorLines text = regressionErrors c
  passed : ending = .ok .passed → errorLines text = []

lemma Compared.plain (h : Compared files maxLines o c) : Report.Plain c := by
  obtain ⟨p, r, r', -, baseline, current, rfl⟩ := h
  have wellFormed {path : String} {r : Reading}
      (read : (Reading.ofNonEmptySource maxLines (.ofPath files path)).value = .ok r) :
      r.store.WellFormed :=
    (Store.Reachable.ofSource (Reading.ofSource_of_ofNonEmptySource read)).wellFormed
  exact Report.plain_compareStores p (wellFormed baseline) (wellFormed current)

/-! ## The errors of each course -/

lemma errorsOf_remarkLines_ofDiagnostics {path : String} (plain : ¬ Forges path)
    (diagnostics : List Diagnostic) :
    errorsOf (remarkLines o.remarks (Remark.ofDiagnostics path diagnostics)) = [] := by
  unfold remarkLines
  split
  · exact Remark.errorsOf_ofDiagnostics plain diagnostics
  · rfl

/-- Only the report for a terminal comes with errors. -/
lemma errorsOf_reportLines (asked : o.remarks = true) (plain : Report.Plain c) :
    errorsOf (reportLines o c) =
      if o.format = .console ∧ c.hasRegressions then regressionErrors c else [] := by
  cases format : o.format with
  | console =>
    have report := Report.errorsOf_eq_nil (Report.uncolonned_comparisonLines plain)
    have verdict : errorsOf ["", Report.verdict c] = [] := by
      apply Report.errorsOf_eq_nil
      rw [List.forall_mem_cons, List.forall_mem_singleton]
      exact ⟨by decide, Report.uncolonned_verdict c⟩
    have remarks : remarkLines o.remarks (Remark.ofComparison c) =
        (Remark.ofComparison c).map Remark.line := if_pos asked
    simp only [reportLines, format]
    rw [Report.errorsOf_append, Report.errorsOf_append, report, verdict, remarks,
      Remark.errorsOf_ofComparison plain, List.nil_append, List.append_nil]
    by_cases regressed : c.hasRegressions
    · rw [if_pos regressed, if_pos ⟨trivial, regressed⟩]
      rfl
    · have none : c.regressions = [] := by simpa [Comparison.hasRegressions] using regressed
      rw [if_neg regressed, if_neg (mt And.right regressed), none]
      rfl
  | json =>
    simp only [reportLines, format]
    rw [if_neg (by simp)]
    apply Report.errorsOf_eq_nil
    rw [List.forall_mem_singleton]
    exact Json.uncolonned_render _

/-- A failure is repeated as an error. -/
lemma errorsOf_failureLines (asked : o.remarks = true) (e : CommandError) :
    errorsOf (failureLines o.remarks (.error e)) ≠ [] := by
  rw [failureLines, remarkLines, if_pos asked]
  exact Remark.errorsOf_ofFailure e.message

/-- The errors of a course: there is one if it fails; else they are those of the report, behind any
that a path holds. -/
inductive Announced (files : FileSystem) (maxLines : Nat) (o : CompareOptions) :
    Ending → List (List Char) → Prop
  | failed {e : CommandError} {errors : List (List Char)} (some : errors ≠ []) :
      Announced files maxLines o (.error e) errors
  | compared {c : Comparison} {forged : List (List Char)} (compared : Compared files maxLines o c)
      (none : ¬ Forges o.baseline → ¬ Forges o.current → forged = []) :
      Announced files maxLines o (.ok (if c.hasRegressions then .regressed else .passed))
        (forged ++ if o.format = .console ∧ c.hasRegressions then regressionErrors c else [])

lemma Course.announced (h : Course files maxLines o ending lines) (asked : o.remarks = true) :
    Announced files maxLines o ending (errorsOf (lines ++ failureLines o.remarks ending)) := by
  have failed (e : CommandError) (lines : List String) :
      Announced files maxLines o (.error e)
        (errorsOf (lines ++ failureLines o.remarks (.error e))) := by
    apply Announced.failed
    rw [Report.errorsOf_append]
    exact List.append_ne_nil_of_right_ne_nil _ (errorsOf_failureLines asked e)
  cases h with
  | refused => exact failed _ _
  | noBaseline => exact failed _ _
  | noCurrent => exact failed _ _
  | @compared p r r' accepted baseline current =>
    have compared : Compared files maxLines o (compareStores r.store r'.store p) :=
      ⟨p, r, r', accepted, baseline, current, rfl⟩
    rw [failureLines, List.append_nil, ← List.append_assoc, Report.errorsOf_append,
      errorsOf_reportLines asked compared.plain]
    refine .compared compared ?_
    intro plain plain'
    rw [Report.errorsOf_append, errorsOf_remarkLines_ofDiagnostics plain,
      errorsOf_remarkLines_ofDiagnostics plain']
    rfl

/-- Every run of the command prints a text with the errors of its course. -/
lemma exists_announced (asked : o.remarks = true) (w : World) (maxLines : Nat) :
    ∃ ending w' text, (compare .ofWorld maxLines o).run w = (ending, w') ∧
      w'.output = w.output ++ text ∧ Announced w.files maxLines o ending (errorLines text) := by
  obtain ⟨ending, lines, course⟩ := exists_course w.files maxLines o
  obtain ⟨value, -, output⟩ := course.prints_compare w rfl
  refine ⟨_, _, _, Prod.ext value rfl, output, ?_⟩
  rw [Report.errorLines_join]
  exact course.announced asked

/-! ## The errors of the command -/

lemma regressionErrors_ne_nil (c : Comparison) : regressionErrors c ≠ [] := by
  rw [regressionErrors, List.map_append]
  exact List.append_ne_nil_of_right_ne_nil _ (List.cons_ne_nil _ _)

lemma not_terminal {p : Prop} (document : o.format = .json) : ¬ (o.format = .console ∧ p) := by
  rw [document]
  exact nofun

/-- On paths without error lines, a document comes without errors. -/
lemma Announced.silent {outcome : Outcome} {errors : List (List Char)}
    (h : Announced files maxLines o (.ok outcome) errors) (document : o.format = .json)
    (plain : ¬ Forges o.baseline) (plain' : ¬ Forges o.current) : errors = [] := by
  generalize same : (.ok outcome : Ending) = ending at h
  cases h with
  | failed => cases same
  | compared _ none =>
    rw [none plain plain', if_neg (not_terminal document)]
    rfl

/-- On such paths, the errors agree with the end unless a regression is reported as a document. -/
lemma Announced.announces_iff {text : String}
    (h : Announced files maxLines o ending (errorLines text)) (plain : ¬ Forges o.baseline)
    (plain' : ¬ Forges o.current) :
    Announces files maxLines o ending text ↔ ¬ (ending = .ok .regressed ∧ o.format = .json) := by
  generalize is : errorLines text = errors at h
  cases h with
  | failed some =>
    refine iff_of_true ⟨fun _ _ => ?_, nofun, nofun⟩ nofun
    rw [is]
    exact some
  | @compared c _ compared none =>
    rw [none plain plain', List.nil_append] at is
    by_cases regressed : c.hasRegressions
    · rw [if_pos regressed]
      cases format : o.format with
      | console =>
        rw [if_pos ⟨format, regressed⟩] at is
        exact iff_of_true ⟨nofun, fun _ => ⟨c, compared, is⟩, nofun⟩ nofun
      | json =>
        -- there is no error, but there would have to be the one that sums up
        rw [if_neg (not_terminal format)] at is
        refine iff_of_false ?_ fun h => h ⟨rfl, rfl⟩
        intro announces
        obtain ⟨c', -, errors⟩ := announces.regressed rfl
        exact regressionErrors_ne_nil c' (errors.symm.trans is)
    · rw [if_neg (mt And.right regressed)] at is
      rw [if_neg regressed]
      exact iff_of_true ⟨nofun, nofun, fun _ => is⟩ nofun

/-- Whatever the files hold and the options are, if remarks are asked for: a failure is announced as
an error, and regressions that are reported to a terminal are announced as errors, one each and one
that sums them up. If no path holds an error line, the errors agree with the end of the command
unless a regression is reported as a document. -/
theorem compare_announces (asked : o.remarks = true) (w : World) (maxLines : Nat) :
    ∃ ending w' text, (compare .ofWorld maxLines o).run w = (ending, w') ∧
      w'.output = w.output ++ text ∧
      (∀ e, ending = .error e → errorLines text ≠ []) ∧
      (ending = .ok .regressed → o.format = .console →
        ∃ c, Compared w.files maxLines o c ∧ (regressionErrors c).Sublist (errorLines text)) ∧
      (¬ Forges o.baseline → ¬ Forges o.current →
        (Announces w.files maxLines o ending text ↔
          ¬ (ending = .ok .regressed ∧ o.format = .json))) := by
  obtain ⟨ending, w', text, run, output, announced⟩ := exists_announced asked w maxLines
  refine ⟨ending, w', text, run, output, ?_, ?_, fun plain plain' =>
    announced.announces_iff plain plain'⟩
  · rintro e rfl
    cases announced with
    | failed some => exact some
  · intro regressed terminal
    generalize errorLines text = errors at announced
    cases announced with
    | failed => cases regressed
    | @compared c forged compared =>
      have slower : c.hasRegressions := by
        by_contra passed
        rw [if_neg passed] at regressed
        cases regressed
      refine ⟨c, compared, ?_⟩
      rw [if_pos ⟨terminal, slower⟩]
      exact List.sublist_append_right _ _

/-! ## A benchmark that takes twice the time -/

/-- A world with a baseline and a run that regressed. -/
def regressedWorld : World :=
  { sampleWorld with
    files := (FileSystem.empty.insert "a" (.file "x: 1\n".toUTF8)).insert "b"
      (.file "x: 2\n".toUTF8) }

/-- The run is to be compared with the baseline, with remarks. -/
def regressedOptions (format : ReportFormat) : CompareOptions :=
  ⟨"a", "b", 10, none, none, true, format⟩

lemma openRead_regressed :
    regressedWorld.files.openRead "a" = .ok (.bytes "x: 1\n".toUTF8) ∧
      regressedWorld.files.openRead "b" = .ok (.bytes "x: 2\n".toUTF8) := by
  have put : regressedWorld.files.get? "a" = some (.file "x: 1\n".toUTF8) := by
    rw [regressedWorld, FileSystem.get?_insert, if_neg (by decide), FileSystem.get?_insert,
      if_pos rfl]
  have put' : regressedWorld.files.get? "b" = some (.file "x: 2\n".toUTF8) := by
    rw [regressedWorld, FileSystem.get?_insert, if_pos rfl]
  constructor
  · apply FileSystem.openRead_of_resolve
    rw [FileSystem.resolve_of_step (by decide) rfl splitOn_sample.1 (by decide) (by decide), put]
  · apply FileSystem.openRead_of_resolve
    rw [FileSystem.resolve_of_step (by decide) rfl splitOn_sample.2 (by decide) (by decide), put']

lemma exists_course_regressed (format : ReportFormat) :
    ∃ lines, Course regressedWorld.files 10 (regressedOptions format) (.ok .regressed) lines := by
  have threshold : Policy.new 10 = .ok ⟨10, ∅⟩ := Policy.new_of_isValidPct (by decide +kernel)
  have accepted : (regressedOptions format).policy.value = .ok ⟨10, ∅⟩ := by
    rw [CompareOptions.policy_of_named (CompareOptions.named_none rfl), regressedOptions, threshold]
    rfl
  have baseline : (Reading.ofNonEmptySource 10 (.ofPath regressedWorld.files "a")).value =
      .ok (.ofText 10 "x: 1\n") :=
    Reading.ofNonEmptySource_of_text openRead_regressed.1 (by decide +kernel)
  have current : (Reading.ofNonEmptySource 10 (.ofPath regressedWorld.files "b")).value =
      .ok (.ofText 10 "x: 2\n") :=
    Reading.ofNonEmptySource_of_text openRead_regressed.2 (by decide +kernel)
  have slower : (compareStores (Reading.ofText 10 "x: 1\n").store (Reading.ofText 10 "x: 2\n").store
      ⟨10, ∅⟩).hasRegressions := by
    decide +kernel
  have course := Course.compared accepted baseline current
  rw [if_pos slower] at course
  exact ⟨_, course⟩

/-- The command finds the regression in either format. -/
lemma compare_regressed (format : ReportFormat) :
    ((compare .ofWorld 10 (regressedOptions format)).run regressedWorld).1 = .ok .regressed := by
  obtain ⟨lines, course⟩ := exists_course_regressed format
  exact (course.prints_compare regressedWorld rfl).1

theorem compare_announces_regressed :
    (regressedOptions .console).remarks = true ∧ ¬ Forges "a" ∧ ¬ Forges "b" ∧
      ∃ w' text, (compare .ofWorld 10 (regressedOptions .console)).run regressedWorld =
          (.ok .regressed, w') ∧ w'.output = text ∧
        Announces regressedWorld.files 10 (regressedOptions .console) (.ok .regressed) text := by
  have plain : ¬ Forges "a" := by decide
  have plain' : ¬ Forges "b" := by decide
  obtain ⟨ending, w', text, run, output, -, -, agrees⟩ :=
    compare_announces (o := regressedOptions .console) rfl regressedWorld 10
  have ended : ending = .ok .regressed := by
    rw [← compare_regressed .console, run]
  subst ended
  refine ⟨rfl, plain, plain', w', text, run, ?_, (agrees plain plain').2 nofun⟩
  rw [output]
  exact String.empty_append

/-- Reported as a document, the regression is not announced. -/
theorem compare_document_silent :
    (regressedOptions .json).remarks = true ∧
      ∃ w' text, (compare .ofWorld 10 (regressedOptions .json)).run regressedWorld =
          (.ok .regressed, w') ∧ w'.output = text ∧ errorLines text = [] ∧
        ¬ Announces regressedWorld.files 10 (regressedOptions .json) (.ok .regressed) text := by
  have plain : ¬ Forges "a" := by decide
  have plain' : ¬ Forges "b" := by decide
  obtain ⟨ending, w', text, run, output, announced⟩ :=
    exists_announced (o := regressedOptions .json) rfl regressedWorld 10
  have ended : ending = .ok .regressed := by
    rw [← compare_regressed .json, run]
  subst ended
  have silent := announced.silent rfl plain plain'
  refine ⟨rfl, w', text, run, ?_, silent, fun announces => ?_⟩
  · rw [output]
    exact String.empty_append
  · obtain ⟨c, -, errors⟩ := announces.regressed rfl
    exact regressionErrors_ne_nil c (errors.symm.trans silent)

end Command

end PerfGate
