import PerfGate.Proofs.Json
import PerfGate.Report.Console
import PerfGate.Report.Remark

/-!
# The error lines of reports

A build server takes a line that begins with `errorMark` for an error. No line of a report begins
with a colon, as long as the names in it do not break lines; of the remarks on a comparison those
are errors that say so (`errorLines_ofComparison`).
-/

namespace PerfGate

open Text (IsInline Uncolonned marked)

namespace Report

/-- The beginning of a line that is an error. -/
def errorMark : List Char := "::error::".toList

/-- The lines of a text that are errors. -/
def errorLines (text : String) : List (List Char) :=
  Text.linesWith errorMark text

/-- The errors that lines amount to when they are printed. -/
def errorsOf (lines : List String) : List (List Char) :=
  lines.flatMap fun line => marked errorMark line.toList

variable {lines : List String}

lemma errorLines_join (lines : List String) :
    errorLines (String.join (lines.map (· ++ "\n"))) = errorsOf lines := by
  rw [errorLines, Text.linesWith_join, List.flatMap_map]
  rfl

lemma errorsOf_append (lines lines' : List String) :
    errorsOf (lines ++ lines') = errorsOf lines ++ errorsOf lines' :=
  List.flatMap_append

lemma errorsOf_eq_nil (h : ∀ line ∈ lines, Uncolonned line) : errorsOf lines = [] := by
  -- all that matters of the mark is its colon
  have split : errorMark = ':' :: ":error::".toList := by decide
  rw [errorsOf, List.flatMap_eq_nil_iff]
  intro line mem
  rw [split]
  exact (h line mem).marked _

/-! ## Units and columns -/

lemma isInline_duration (ns : Float) : IsInline (duration ns) := by
  unfold duration
  split
  · exact (Decimal.isInline_fixed 2 _).append (by decide)
  · split
    · exact (Decimal.isInline_fixed 2 _).append (by decide)
    · exact (Decimal.isInline_fixed 2 _).append (by decide)

lemma exists_percentage (pct : Float) :
    ∃ digits, IsInline digits ∧ percentage pct = digits ++ "%" := by
  have inline (h : Bool) : IsInline (if h then Decimal.fixed 0 pct else Decimal.plain pct) := by
    cases h with
    | true => exact Decimal.isInline_fixed 0 pct
    | false => exact Decimal.isInline_plain pct
  exact ⟨_, inline _, rfl⟩

lemma isInline_percentage (pct : Float) : IsInline (percentage pct) := by
  obtain ⟨digits, inline, text⟩ := exists_percentage pct
  rw [text]
  exact inline.append (by decide)

lemma isInline_replicate {c : Char} (h : c ≠ '\n' ∧ c ≠ ':') (n : Nat) :
    IsInline (String.ofList (List.replicate n c)) := by
  intro d mem
  rw [String.toList_ofList] at mem
  rw [List.eq_of_mem_replicate mem]
  exact h

variable {s : String}

lemma isInline_padRight (width : Nat) (h : IsInline s) : IsInline (Text.padRight width s) :=
  h.append (isInline_replicate (by decide) _)

lemma isInline_padLeft (width : Nat) (h : IsInline s) : IsInline (Text.padLeft width s) :=
  (isInline_replicate (by decide) _).append h

/-! ## The report of a comparison -/

/-- No name in the comparison breaks a line or looks like the beginning of a mark. -/
structure Plain (c : Comparison) : Prop where
  regressions : ∀ e ∈ c.regressions, IsInline e.name
  improvements : ∀ e ∈ c.improvements, IsInline e.name
  new : ∀ name ∈ c.new, IsInline name
  missing : ∀ name ∈ c.missing, IsInline name

lemma isInline_entryHeading : IsInline entryHeading := by
  have first := isInline_padRight 40 (s := "Benchmark") (by decide)
  have second := isInline_padLeft 12 (s := "Baseline") (by decide)
  have third := isInline_padLeft 12 (s := "Current") (by decide)
  have last := isInline_padLeft 10 (s := "Delta") (by decide)
  exact ((first.spaced second).spaced third).spaced last

lemma isInline_entryRow (standard : Float) {e : Entry} (h : IsInline e.name) :
    IsInline (entryRow standard e) := by
  have before := isInline_padLeft 12 (isInline_duration e.baseline)
  have after := isInline_padLeft 12 (isInline_duration e.current)
  have change := isInline_padLeft 9 (Decimal.isInline_signedFixed 1 e.delta)
  have row := (((isInline_padRight 40 h).spaced before).spaced after).spaced change
  have limit (h : Bool) :
      IsInline (if h then "" else "  (threshold " ++ percentage e.threshold ++ ")") := by
    cases h with
    | true => exact (by decide : IsInline "")
    | false =>
      have opening : IsInline "  (threshold " := by decide
      exact (opening.append (isInline_percentage _)).append (by decide)
  exact (row.append (by decide)).append (limit _)

lemma uncolonned_entrySection {line : Char} (plain : line ≠ '\n' ∧ line ≠ ':') {title : String}
    (titled : IsInline title) (standard : Float) {entries : List Entry}
    (h : ∀ e ∈ entries, IsInline e.name) :
    ∀ text ∈ entrySection line title standard entries, Uncolonned text := by
  have rows : ∀ row ∈ entries.map (entryRow standard), Uncolonned row := by
    intro row mem
    obtain ⟨e, among, rfl⟩ := List.mem_map.1 mem
    exact (isInline_entryRow standard (h e among)).uncolonned
  have ruled := (isInline_replicate plain 70).uncolonned
  have ruled' : Uncolonned (Text.rule 76 '-') := (isInline_replicate (by decide) 76).uncolonned
  unfold entrySection
  split
  · exact List.forall_mem_nil _
  · simp only [banner, List.forall_mem_append, List.forall_mem_cons]
    exact ⟨⟨⟨⟨ruled, titled.uncolonned, ruled, List.forall_mem_nil _⟩,
      isInline_entryHeading.uncolonned, ruled', List.forall_mem_nil _⟩, rows⟩,
      by decide, List.forall_mem_nil _⟩

lemma uncolonned_nameSection {title : String} (titled : IsInline title) {names : List String}
    (h : ∀ name ∈ names, IsInline name) :
    ∀ text ∈ nameSection title names, Uncolonned text := by
  have indent : IsInline "  " := by decide
  have rows : ∀ row ∈ names.map ("  " ++ ·), Uncolonned row := by
    intro row mem
    obtain ⟨name, among, rfl⟩ := List.mem_map.1 mem
    exact (indent.append (h name among)).uncolonned
  have ruled : Uncolonned (Text.rule 70 '-') := (isInline_replicate (by decide) 70).uncolonned
  unfold nameSection
  split
  · exact List.forall_mem_nil _
  · simp only [banner, List.forall_mem_append, List.forall_mem_cons]
    exact ⟨⟨⟨ruled, titled.uncolonned, ruled, List.forall_mem_nil _⟩, rows⟩,
      by decide, List.forall_mem_nil _⟩

lemma uncolonned_countLine {label : String} (labelled : Uncolonned label) (names : List String) :
    ∀ text ∈ countLine label names, Uncolonned text := by
  unfold countLine
  split
  · exact List.forall_mem_nil _
  · rw [List.forall_mem_singleton]
    exact labelled.append (Decimal.isInline_toString _).uncolonned

/-- No line of a report begins with a colon. -/
lemma uncolonned_comparisonLines {c : Comparison} (h : Plain c) :
    ∀ line ∈ comparisonLines c, Uncolonned line := by
  have ruled : Uncolonned (Text.rule 70 '=') := (isInline_replicate (by decide) 70).uncolonned
  have title : Uncolonned
      s!"BENCHMARK COMPARISON REPORT (threshold: {percentage c.threshold})" := by
    have opening : Uncolonned "BENCHMARK COMPARISON REPORT (threshold: " := by decide
    exact (opening.append (isInline_percentage _).uncolonned).append (by decide)
  have count {label : String} (labelled : Uncolonned label) (n : Nat) :
      Uncolonned (label ++ toString n) :=
    labelled.append (Decimal.isInline_toString n).uncolonned
  simp only [comparisonLines, banner, List.forall_mem_append, List.forall_mem_cons]
  refine ⟨⟨⟨⟨⟨⟨⟨⟨⟨by decide, ruled, title, ruled, List.forall_mem_nil _⟩, ?counts⟩, ?new⟩,
    ?missing⟩, ⟨by decide, List.forall_mem_nil _⟩⟩, ?regressions⟩, ?improvements⟩, ?newNames⟩,
    ?missingNames⟩
  case counts =>
    exact ⟨count (by decide) _, count (by decide) _, count (by decide) _, count (by decide) _,
      List.forall_mem_nil _⟩
  case new => exact uncolonned_countLine (by decide) c.new
  case missing => exact uncolonned_countLine (by decide) c.missing
  case regressions => exact uncolonned_entrySection (by decide) (by decide) _ h.regressions
  case improvements => exact uncolonned_entrySection (by decide) (by decide) _ h.improvements
  case newNames => exact uncolonned_nameSection (by decide) h.new
  case missingNames => exact uncolonned_nameSection (by decide) h.missing

lemma uncolonned_verdict (c : Comparison) : Uncolonned (verdict c) := by
  have threshold := (isInline_percentage c.threshold).uncolonned
  have failed : Uncolonned "FAILED: " := by decide
  have passed : Uncolonned "PASSED: No regressions beyond " := by decide
  have count := (Decimal.isInline_toString c.regressions.length).uncolonned
  simp only [verdict]
  split
  · have counted := (failed.append count).append (t := " regression(s) exceed ") (by decide)
    exact (counted.append threshold).append (by decide)
  · exact (passed.append threshold).append (by decide)

/-- The error line of a regression. -/
def regressionLine (e : Entry) : String :=
  "::error::" ++ e.name ++ " regressed by " ++ Decimal.fixed 1 e.delta ++ "%"

/-- The error line that sums up the regressions. -/
def summaryLine (c : Comparison) : String :=
  s!"::error::{c.regressions.length} benchmark(s) regressed beyond " ++
    s!"{percentage c.threshold} threshold"

end Report

/-! ## Remarks -/

namespace Remark

open Report (errorMark errorsOf)

/-- The message is one line. -/
structure OneLine (r : Remark) : Prop where
  noFeed : '\n' ∉ r.message.toList
  last : ∀ c ∈ r.message.toList.getLast?, c ≠ '\r'

variable {r : Remark} {remarks : List Remark}

lemma errorMark_prefix_iff (r : Remark) :
    errorMark.isPrefixOf r.line.toList = (r.level == .error) := by
  rw [line, String.toList_append, String.toList_append, String.toList_append]
  cases r.level <;> rfl

lemma marked_line (h : r.OneLine) :
    marked errorMark r.line.toList = if r.level = .error then [r.line.toList] else [] := by
  have front : '\n' ∉ ("::" ++ r.level.word ++ "::").toList := by
    cases r.level <;> decide
  have feed : '\n' ∉ r.line.toList := by
    rw [line, String.toList_append]
    exact List.not_mem_append front h.noFeed
  have last : ∀ c ∈ r.line.toList.getLast?, c ≠ '\r' := by
    rw [line, String.toList_append, List.getLast?_append]
    cases ending : r.message.toList.getLast? with
    | some c => exact fun d same => h.last d (ending.trans same)
    | none =>
      rw [String.toList_append, List.getLast?_append]
      rintro c ⟨⟩
      decide
  rw [Text.marked_of_noFeed feed, Text.dropReturn_of_last last, List.filter_singleton,
    errorMark_prefix_iff]
  cases r.level <;> rfl

/-- Of remarks of one line each, those that are errors. -/
lemma errorsOf_map_line (h : ∀ r ∈ remarks, r.OneLine) :
    errorsOf (remarks.map line) = (remarks.filter (·.level = .error)).map (·.line.toList) := by
  induction remarks with
  | nil => rfl
  | cons r remarks ih =>
    obtain ⟨first, others⟩ := List.forall_mem_cons.1 h
    rw [List.map_cons, errorsOf, List.flatMap_cons, marked_line first]
    change _ ++ errorsOf (remarks.map line) = _
    rw [ih others, List.filter_cons]
    by_cases isError : r.level = .error
    · rw [if_pos isError, if_pos (decide_eq_true isError)]
      rfl
    · rw [if_neg isError, if_neg (mt of_decide_eq_true isError)]
      rfl

/-- A message that is made up of pieces of a line. -/
lemma oneLine_append {level : Level} {s t : String} (front : IsInline s) (back : IsInline t)
    (some : t ≠ "") (noReturn : '\r' ∉ t.toList) : OneLine ⟨level, s ++ t⟩ := by
  constructor
  · exact (front.append back).noFeed
  · rw [String.toList_append, List.getLast?_append]
    cases last : t.toList.getLast? with
    | none =>
      rw [List.getLast?_eq_none_iff, String.toList_eq_nil_iff] at last
      exact absurd last some
    | some c =>
      rintro d ⟨⟩ rfl
      exact noReturn (List.mem_of_getLast? last)

/-! ## Remarks on a comparison -/

variable {c : Comparison}

lemma oneLine_summary (c : Comparison) : ∀ r ∈ summary c, r.OneLine := by
  have threshold := Report.isInline_percentage c.threshold
  have slower := Decimal.isInline_toString c.regressions.length
  have faster := Decimal.isInline_toString c.improvements.length
  simp only [summary]
  split
  · rw [List.forall_mem_singleton]
    have front := slower.append (t := " benchmark(s) regressed beyond ") (by decide)
    exact oneLine_append (front.append threshold) (by decide) (by decide) (by decide)
  · split
    · exact List.forall_mem_nil _
    · rw [List.forall_mem_singleton]
      have front := faster.append (t := " benchmark(s) improved beyond ") (by decide)
      obtain ⟨digits, inline, text⟩ := Report.exists_percentage c.threshold
      show OneLine ⟨_, toString c.improvements.length ++ " benchmark(s) improved beyond " ++
        Report.percentage c.threshold⟩
      rw [text, ← String.append_assoc]
      exact oneLine_append (front.append inline) (by decide) (by decide) (by decide)

lemma oneLine_ofComparison (h : Report.Plain c) : ∀ r ∈ ofComparison c, r.OneLine := by
  simp only [ofComparison, List.forall_mem_append, List.forall_mem_map]
  refine ⟨⟨⟨?regressions, ?new⟩, ?missing⟩, oneLine_summary c⟩
  case regressions =>
    intro e mem
    have front := (h.regressions e mem).append (t := " regressed by ") (by decide)
    exact oneLine_append (front.append (Decimal.isInline_fixed 1 e.delta)) (by decide) (by decide)
      (by decide)
  case new =>
    intro name mem
    have front : IsInline "New benchmark '" := by decide
    exact oneLine_append (front.append (h.new name mem)) (by decide) (by decide)
      (by decide)
  case missing =>
    intro name mem
    have front : IsInline "Benchmark '" := by decide
    exact oneLine_append (front.append (h.missing name mem)) (by decide) (by decide)
      (by decide)

lemma line_error (message : String) : line ⟨.error, message⟩ = "::error::" ++ message := by
  have mark : "::" ++ Level.error.word ++ "::" = "::error::" := by decide
  rw [line, mark]

/-- The remark on a regression is its error line. -/
lemma map_line_regressions (es : List Entry) :
    ((es.map fun e => (⟨.error, e.name ++ " regressed by " ++ Decimal.fixed 1 e.delta ++
      "%"⟩ : Remark)).filter (·.level = .error)).map line = es.map Report.regressionLine := by
  rw [List.filter_eq_self.2, List.map_map]
  · apply List.map_congr_left
    intro e _
    rw [Function.comp_apply, line_error, Report.regressionLine]
    simp only [String.append_assoc]
  · rw [List.forall_mem_map]
    exact fun _ _ => rfl

/-- Remarks on names are no errors. -/
lemma filter_names {level : Level} (other : level ≠ .error) (message : String → String)
    (names : List String) :
    (names.map fun name => (⟨level, message name⟩ : Remark)).filter (·.level = .error) = [] := by
  rw [List.filter_eq_nil_iff, List.forall_mem_map]
  intro _ _ isError
  exact other (of_decide_eq_true isError)

lemma map_line_summary (c : Comparison) :
    ((summary c).filter (·.level = .error)).map line =
      if c.hasRegressions then [Report.summaryLine c] else [] := by
  simp only [summary]
  split
  · rw [List.filter_cons_of_pos rfl, List.filter_nil, List.map_singleton, line_error]
    show ["::error::" ++ (toString c.regressions.length ++ " benchmark(s) regressed beyond " ++
      Report.percentage c.threshold ++ " threshold")] = ["::error::" ++
        toString c.regressions.length ++ " benchmark(s) regressed beyond " ++
          (Report.percentage c.threshold ++ " threshold")]
    simp only [String.append_assoc]
  · split <;> rfl

/-- One remark is an error for each regression, and one sums them up. -/
lemma filter_ofComparison (c : Comparison) :
    ((ofComparison c).filter (·.level = .error)).map line =
      c.regressions.map Report.regressionLine ++
        if c.hasRegressions then [Report.summaryLine c] else [] := by
  rw [ofComparison, List.filter_append, List.filter_append, List.filter_append,
    filter_names (by decide), filter_names (by decide), List.append_nil, List.append_nil,
    List.map_append, map_line_regressions, map_line_summary]

/-- The errors that the remarks on a comparison amount to. -/
lemma errorsOf_ofComparison (h : Report.Plain c) :
    errorsOf ((ofComparison c).map line) = (c.regressions.map Report.regressionLine ++
      if c.hasRegressions then [Report.summaryLine c] else []).map String.toList := by
  rw [errorsOf_map_line (oneLine_ofComparison h), ← filter_ofComparison, List.map_map]
  rfl

/-! ## Other remarks -/

/-- A warning about a file, if its path does not hold an error line of its own. -/
lemma marked_warning {path front back : String} (plain : ¬ '\n' :: errorMark <:+: path.toList)
    (before : IsInline front) (after : IsInline back) :
    marked errorMark (line ⟨.warning, front ++ " " ++ path ++ " " ++ back⟩).toList = [] := by
  have start : ¬ errorMark <+: (line ⟨.warning, front ++ " " ++ path ++ " " ++ back⟩).toList := by
    rw [← List.isPrefixOf_iff_prefix, errorMark_prefix_iff]
    exact nofun
  have text : (line ⟨.warning, front ++ " " ++ path ++ " " ++ back⟩).toList =
      ("::warning::" ++ front).toList ++ ' ' :: (path.toList ++ ' ' :: back.toList) := by
    have mark : "::" ++ Level.warning.word ++ "::" = "::warning::" := by decide
    rw [line, mark]
    simp only [String.toList_append, List.append_assoc]
    rfl
  rw [text] at start ⊢
  -- the path stands between two spaces, and the mark has none
  refine Text.marked_between (by decide) start ?_ after.noFeed plain
  rw [String.toList_append]
  exact List.not_mem_append (by decide) before.noFeed

/-- The remarks on a file. -/
lemma errorsOf_ofDiagnostics {path : String} (plain : ¬ '\n' :: errorMark <:+: path.toList)
    (diagnostics : List Diagnostic) :
    errorsOf ((ofDiagnostics path diagnostics).map line) = [] := by
  rw [errorsOf, List.flatMap_map, List.flatMap_eq_nil_iff]
  intro r mem
  obtain ⟨d, -, is⟩ := List.mem_filterMap.1 mem
  cases d with
  | truncated maxLines =>
    cases is
    have back : IsInline ("after " ++ toString maxLines ++ " lines") :=
      (IsInline.append (by decide) (Decimal.isInline_toString maxLines)).append (by decide)
    have text : s!"Truncated {path} after {maxLines} lines" =
        "Truncated" ++ " " ++ path ++ " " ++ ("after " ++ toString maxLines ++ " lines") := by
      have left : "Truncated " = "Truncated" ++ " " := by decide
      have right : " after " = " " ++ "after " := by decide
      show "Truncated " ++ path ++ " after " ++ toString maxLines ++ " lines" = _
      rw [left, right]
      simp only [String.append_assoc]
    rw [text]
    exact marked_warning plain (by decide) back
  | negativeValue number name value =>
    cases is
    have back : IsInline ("line " ++ toString number) :=
      IsInline.append (by decide) (Decimal.isInline_toString number)
    have text : s!"Negative benchmark value in {path} line {number}" =
        "Negative benchmark value in" ++ " " ++ path ++ " " ++ ("line " ++ toString number) := by
      have left : "Negative benchmark value in " = "Negative benchmark value in" ++ " " := by decide
      have right : " line " = " " ++ "line " := by decide
      show "Negative benchmark value in " ++ path ++ " line " ++ toString number = _
      rw [left, right]
      simp only [String.append_assoc]
    rw [text]
    exact marked_warning plain (by decide) back
  | _ => cases is

lemma errorsOf_ofFailure (message : String) : errorsOf [(ofFailure message).line] ≠ [] := by
  rw [errorsOf, List.flatMap_singleton, ofFailure, line_error, String.toList_append]
  apply Text.marked_ne_nil (List.prefix_append _ _) (by decide)
  rintro c ⟨⟩
  decide

end Remark

end PerfGate
