import Mathlib.Data.List.TakeWhile
import PerfGate.Proofs.Measurement.Store
import PerfGate.Proofs.ResultFile.Measured

/-!
# What is reported about a result file

A line is blank, a comment, a measurement, or at fault by the first check that it fails
(`Line.Saying`). What it leads to depends on the lines before it only if it is a measurement, which
may repeat a name (`Reports`).

`Accounts` ties what has been read to the lines that were read. It holds at the start and is kept by
every line, so it holds of the lines up to the cap; `ofText_accounted` adds what is said about the
lines beyond.
-/

namespace PerfGate

namespace Diagnostic

/-- A name was measured before. -/
def isDuplicate : Diagnostic → Bool
  | duplicate .. => true
  | _ => false

/-- The number of the line, if the report is about one. -/
def line? : Diagnostic → Option Nat
  | missingSeparator line _ | emptyName line _ | malformedValue line _ => some line
  | negativeValue line .. | duplicate line _ => some line
  | truncated _ => none

end Diagnostic

namespace ResultFile

open Text (trimChars isBlank)

variable {line : List Char} {lines earlier : List (List Char)} {name : String} {value : Float}
  {number : Nat}

/-! ## Single lines -/

/-- The line is neither blank nor a comment. -/
def Speaks (line : List Char) : Prop :=
  trimChars line ≠ [] ∧ (trimChars line).head? ≠ some '#'

/-- The first colon of the line stands between these two parts. -/
def Divides (line before after : List Char) : Prop :=
  trimChars line = before ++ ':' :: after ∧ ':' ∉ before

/-- What a line says, in terms of its characters. -/
inductive Line.Saying (line : List Char) : Line → Prop
  | blank (h : trimChars line = []) : Saying line .silent
  | comment (h : (trimChars line).head? = some '#') : Saying line .silent
  | missingSeparator (speaks : Speaks line) (h : ':' ∉ trimChars line) :
      Saying line .missingSeparator
  | emptyName {before after : List Char} (speaks : Speaks line)
      (divides : Divides line before after) (h : trimChars before = []) : Saying line .emptyName
  | malformedValue {before after : List Char} (speaks : Speaks line)
      (divides : Divides line before after) (named : trimChars before ≠ [])
      (h : ∀ value, Decimal.readFloat (String.ofList (trimChars after)) = some value →
        ¬ Decimal.isFinite value) : Saying line .malformedValue
  | measurement {name : String} {value : Float} (h : Measures line name value) :
      Saying line (.measurement name value)

lemma Speaks.isSilent (speaks : Speaks line) :
    ((trimChars line).isEmpty || (trimChars line).head? == some '#') = false := by
  obtain ⟨some, noMark⟩ := speaks
  rw [Bool.or_eq_false_iff, List.isEmpty_eq_false_iff]
  exact ⟨some, beq_false_of_ne noMark⟩

/-- What is decided about a line that speaks and has a colon. -/
lemma Divides.ofTrimmed {before after : List Char} (divides : Divides line before after)
    (speaks : Speaks line) :
    Line.ofTrimmed (trimChars line) =
      if (trimChars before).isEmpty then .emptyName
      else
        match Decimal.readFloat (String.ofList (trimChars after)) with
        | some value =>
          if Decimal.isFinite value then .measurement (String.ofList (trimChars before)) value
          else .malformedValue
        | none => .malformedValue := by
  obtain ⟨whole, plain⟩ := divides
  obtain ⟨taken, dropped⟩ := cut_at_colon plain after
  rw [Line.ofTrimmed, speaks.isSilent, whole, taken, dropped]
  rfl

namespace Line

variable {entry : Line}

/-- Every line says something. -/
lemma exists_saying (line : List Char) : ∃ entry, Saying line entry := by
  by_cases blank : trimChars line = []
  · exact ⟨_, .blank blank⟩
  by_cases mark : (trimChars line).head? = some '#'
  · exact ⟨_, .comment mark⟩
  have speaks : Speaks line := ⟨blank, mark⟩
  by_cases colon : ':' ∈ trimChars line
  · obtain ⟨before, after, whole, plain⟩ := List.eq_append_cons_of_mem colon
    by_cases named : trimChars before = []
    · exact ⟨_, .emptyName speaks ⟨whole, plain⟩ named⟩
    by_cases read : ∃ value, Decimal.readFloat (String.ofList (trimChars after)) = some value ∧
        Decimal.isFinite value
    · obtain ⟨value, read, finite⟩ := read
      refine ⟨_, .measurement ⟨before, after, whole, plain, ?_, rfl, ?_, read, finite⟩⟩
      · intro first
        rw [whole, List.head?_append, first] at mark
        exact mark rfl
      · exact fun empty => named (String.ofList_eq_empty_iff.1 empty)
    · exact ⟨_, .malformedValue speaks ⟨whole, plain⟩ named fun value is finite =>
        read ⟨value, is, finite⟩⟩
  · exact ⟨_, .missingSeparator speaks colon⟩

lemma Saying.ofTrimmed (h : Saying line entry) : ofTrimmed (trimChars line) = entry := by
  cases h with
  | blank empty =>
    rw [empty]
    rfl
  | comment mark =>
    rw [Line.ofTrimmed, mark]
    simp
  | missingSeparator speaks plain =>
    have dropped : (trimChars line).dropWhile (· != ':') = [] :=
      List.dropWhile_eq_nil_iff.2 (ne_colon_of_not_mem plain)
    rw [Line.ofTrimmed, speaks.isSilent, dropped]
    rfl
  | emptyName speaks divides blank =>
    rw [divides.ofTrimmed speaks, blank]
    rfl
  | malformedValue speaks divides named bad =>
    rw [divides.ofTrimmed speaks, if_neg (mt List.isEmpty_iff.1 named)]
    split
    · rename_i value read
      exact if_neg (bad value read)
    · rfl
  | measurement measured => exact measures_iff.1 measured

/-- What is decided about a line is what it says, and it says nothing else. -/
theorem saying_iff : Saying line entry ↔ ofTrimmed (trimChars line) = entry := by
  refine ⟨Saying.ofTrimmed, ?_⟩
  rintro rfl
  obtain ⟨entry, h⟩ := exists_saying line
  rwa [h.ofTrimmed]

end Line

/-- The line is a measurement. -/
def IsMeasurement (line : List Char) : Prop :=
  ∃ name value, Measures line name value

lemma isMeasurement_iff :
    IsMeasurement line ↔ ∃ name value, Line.ofTrimmed (trimChars line) = .measurement name value :=
  exists₂_congr fun _ _ => measures_iff

instance : DecidablePred IsMeasurement := fun line =>
  decidable_of_iff (Line.ofTrimmed (trimChars line) matches .measurement ..) <| by
    rw [isMeasurement_iff]
    cases Line.ofTrimmed (trimChars line) <;> simp

/-! ## Several lines -/

/-- What is reported about a measurement in any case. -/
def negative (number : Nat) (name : String) (value : Float) : List Diagnostic :=
  if value < 0 then [.negativeValue number name value] else []

/-- What is reported about a line that says this, has this number and stands after these earlier
ones. -/
inductive Reports (earlier : List (List Char)) (number : Nat) (line : List Char) :
    Line → List Diagnostic → Prop
  | silent : Reports earlier number line .silent []
  | missingSeparator : Reports earlier number line .missingSeparator
      [.missingSeparator number (String.ofList (trimChars line))]
  | emptyName : Reports earlier number line .emptyName
      [.emptyName number (String.ofList (trimChars line))]
  | malformedValue : Reports earlier number line .malformedValue
      [.malformedValue number (String.ofList (trimChars line))]
  | fresh {name : String} {value : Float}
      (new : ¬ ∃ other ∈ earlier, ∃ value, Measures other name value) :
      Reports earlier number line (.measurement name value) (negative number name value)
  | repeated {name : String} {value : Float}
      (old : ∃ other ∈ earlier, ∃ value, Measures other name value) :
      Reports earlier number line (.measurement name value)
        (negative number name value ++ [.duplicate number name])

namespace Reports

variable {entry : Line} {ds ds' : List Diagnostic}

lemma unique (h : Reports earlier number line entry ds)
    (h' : Reports earlier number line entry ds') : ds = ds' := by
  cases h with
  | fresh new =>
    cases h' with
    | fresh => rfl
    | repeated old => exact absurd old new
  | repeated old =>
    cases h' with
    | fresh new => exact absurd old new
    | repeated => rfl
  | _ =>
    cases h'
    rfl

/-- Everything that is reported about a line has its number. -/
lemma line?_eq (h : Reports earlier number line entry ds) : ∀ d ∈ ds, d.line? = some number := by
  have below (name : String) (value : Float) :
      ∀ d ∈ negative number name value, d.line? = some number := by
    intro d mem
    rw [negative, List.mem_ite_nil_right, List.mem_singleton] at mem
    rw [mem.2]
    rfl
  cases h with
  | silent => exact fun _ mem => nomatch mem
  | missingSeparator | emptyName | malformedValue =>
    rw [List.forall_mem_singleton]
    rfl
  | fresh => exact below _ _
  | repeated =>
    rw [List.forall_mem_append, List.forall_mem_singleton]
    exact ⟨below _ _, rfl⟩

end Reports

/-- A name has a last measurement if it has one at all. -/
lemma exists_lastMeasured_iff : (∃ value, LastMeasured lines name value) ↔
    ∃ line ∈ lines, ∃ value, Measures line name value := by
  simp only [← lastMeasured_iff, ← Option.isSome_iff_exists, List.findSome?_isSome_iff,
    List.mem_reverse, ← measured?_eq_some]

namespace Reading

/-- The name has been read if and only if one of these lines is a measurement of it. -/
def Knows (r : Reading) (earlier : List (List Char)) : Prop :=
  ∀ name, r.store.contains name ↔ ∃ line ∈ earlier, ∃ value, Measures line name value

lemma toList_report (r : Reading) (d : Diagnostic) :
    (r.report d).diagnostics.toList = r.diagnostics.toList ++ [d] :=
  Array.toList_push

/-- What a measurement does: it is put into the store, and reported if it is negative or repeats a
name. -/
lemma add_measurement {r : Reading} (measured : Measures line name value) (number : Nat) :
    (r.add number line).store = r.store.insert name value ∧
      (r.add number line).diagnostics.toList = r.diagnostics.toList ++
        (negative number name value ++
          if r.store.contains name then [.duplicate number name] else []) := by
  rw [measures_iff] at measured
  have below : (if value < 0 then r.report (.negativeValue number name value) else
      r).diagnostics.toList = r.diagnostics.toList ++ negative number name value := by
    unfold negative
    split
    · exact toList_report _ _
    · exact (List.append_nil _).symm
  rw [← List.append_assoc, ← below]
  unfold add
  simp only [measured]
  refine ⟨trivial, ?_⟩
  split
  · exact toList_report _ _
  · exact (List.append_nil _).symm

/-- What a line that is no measurement leads to. -/
lemma add_of_not_measurement {r : Reading} (none : ¬ IsMeasurement line) (number : Nat) :
    (r.add number line).store = r.store ∧
      ∃ ds, Reports earlier number line (Line.ofTrimmed (trimChars line)) ds ∧
        (r.add number line).diagnostics.toList = r.diagnostics.toList ++ ds ∧
        ds.countP Diagnostic.isDuplicate = 0 := by
  unfold add
  simp only
  cases entry : Line.ofTrimmed (trimChars line) with
  | silent => exact ⟨rfl, _, .silent, (List.append_nil _).symm, rfl⟩
  | missingSeparator => exact ⟨rfl, _, .missingSeparator, toList_report _ _, rfl⟩
  | emptyName => exact ⟨rfl, _, .emptyName, toList_report _ _, rfl⟩
  | malformedValue => exact ⟨rfl, _, .malformedValue, toList_report _ _, rfl⟩
  | measurement name value => exact absurd ⟨name, value, measures_iff.2 entry⟩ none

/-- A measurement adds a name, or is reported as a duplicate. -/
lemma add_of_measurement {r : Reading} (knows : r.Knows earlier)
    (measured : Measures line name value) (number : Nat) :
    ∃ ds, Reports earlier number line (.measurement name value) ds ∧
      (r.add number line).diagnostics.toList = r.diagnostics.toList ++ ds ∧
      (r.add number line).store.size + ds.countP Diagnostic.isDuplicate = r.store.size + 1 := by
  have others : (negative number name value).countP Diagnostic.isDuplicate = 0 := by
    unfold negative
    split <;> rfl
  obtain ⟨store, added⟩ := add_measurement measured number
  rw [store, added, Store.size_insert]
  by_cases old : r.store.contains name
  · rw [if_pos old, if_pos old]
    refine ⟨_, .repeated ((knows name).1 old), rfl, ?_⟩
    rw [List.countP_append, others]
    rfl
  · rw [if_neg old, if_neg old]
    refine ⟨_, .fresh (mt (knows name).2 old), ?_, ?_⟩
    · rw [List.append_nil]
    · rw [others]

/-- What a line leads to. -/
lemma add_reports {r : Reading} (knows : r.Knows earlier) (number : Nat) (line : List Char) :
    ∃ ds, Reports earlier number line (Line.ofTrimmed (trimChars line)) ds ∧
      (r.add number line).diagnostics.toList = r.diagnostics.toList ++ ds ∧
      (r.add number line).store.size + ds.countP Diagnostic.isDuplicate =
        r.store.size + if IsMeasurement line then 1 else 0 := by
  by_cases measured : IsMeasurement line
  · rw [if_pos measured]
    obtain ⟨name, value, measures⟩ := measured
    rw [measures_iff.1 measures]
    exact add_of_measurement knows measures number
  · obtain ⟨store, ds, reports, added, none⟩ := add_of_not_measurement measured number
    rw [if_neg measured, store]
    exact ⟨ds, reports, added, by rw [none]⟩

end Reading

/-- These are the reports about each of the lines, line by line. -/
structure ReportedBy (lines : List (List Char)) (blocks : List (List Diagnostic)) : Prop where
  length_eq : blocks.length = lines.length
  each : ∀ i line ds, lines[i]? = some line → (blocks[i]? = some ds ↔
    ∃ entry, Line.Saying line entry ∧ Reports (lines.take i) (i + 1) line entry ds)

namespace ReportedBy

variable {blocks : List (List Diagnostic)}

lemma nil : ReportedBy [] [] := ⟨rfl, nofun⟩

/-- The reports about a further line come behind the others. -/
lemma concat (h : ReportedBy lines blocks) {ds : List Diagnostic}
    (reports : Reports lines (lines.length + 1) line (Line.ofTrimmed (trimChars line)) ds) :
    ReportedBy (lines ++ [line]) (blocks ++ [ds]) where
  length_eq := by
    rw [List.length_append, List.length_append, h.length_eq]
    rfl
  each i other ds' found := by
    rcases Nat.lt_or_ge i lines.length with earlier | last
    · rw [List.getElem?_append_left earlier] at found
      rw [List.getElem?_append_left (h.length_eq ▸ earlier),
        List.take_append_of_le_length earlier.le]
      exact h.each i other ds' found
    · obtain rfl : i = lines.length := by
        have bound := (List.getElem?_eq_some_iff.1 found).1
        rw [List.length_append, List.length_singleton] at bound
        omega
      obtain rfl : line = other := by
        rw [List.getElem?_concat_length] at found
        exact Option.some_inj.1 found
      rw [← h.length_eq, List.getElem?_concat_length, h.length_eq, List.take_left, Option.some_inj]
      constructor
      · rintro rfl
        exact ⟨_, Line.saying_iff.2 rfl, reports⟩
      · rintro ⟨entry, saying, reports'⟩
        rw [← saying.ofTrimmed] at reports'
        exact reports.unique reports'

/-- A report has the number of the line that it is about. -/
lemma line?_eq (h : ReportedBy lines blocks) {i : Nat} {ds : List Diagnostic}
    (found : blocks[i]? = some ds) : ∀ d ∈ ds, d.line? = some (i + 1) := by
  have bound : i < lines.length := h.length_eq ▸ (List.getElem?_eq_some_iff.1 found).1
  obtain ⟨entry, -, reports⟩ := (h.each i _ ds (List.getElem?_eq_getElem bound)).1 found
  exact reports.line?_eq

lemma line?_isSome (h : ReportedBy lines blocks) : ∀ d ∈ blocks.flatten, d.line?.isSome := by
  intro d mem
  obtain ⟨ds, listed, mem⟩ := List.mem_flatten.1 mem
  obtain ⟨i, found⟩ := List.mem_iff_getElem?.1 listed
  rw [h.line?_eq found d mem]
  rfl

/-- Reports stand in the order of the lines. -/
lemma ordered (h : ReportedBy lines blocks) :
    (blocks.flatten.filterMap Diagnostic.line?).Pairwise (· ≤ ·) := by
  rw [List.pairwise_filterMap, List.pairwise_flatten, List.pairwise_iff_getElem]
  constructor
  · intro ds listed
    obtain ⟨i, found⟩ := List.mem_iff_getElem?.1 listed
    refine List.pairwise_of_forall_mem_list fun d mem e mem' m hm n hn => ?_
    rw [h.line?_eq found d mem] at hm
    rw [h.line?_eq found e mem'] at hn
    cases hm
    cases hn
    exact Nat.le_refl _
  · intro i j hi hj before d mem e mem' m hm n hn
    rw [h.line?_eq (List.getElem?_eq_getElem hi) d mem] at hm
    rw [h.line?_eq (List.getElem?_eq_getElem hj) e mem'] at hn
    cases hm
    cases hn
    omega

end ReportedBy

/-- What has been read agrees with the lines that were read. -/
structure Accounts (lines : List (List Char)) (r : Reading) : Prop where
  values : ∀ name value, r.store.get? name = some value ↔ LastMeasured lines name value
  reports : ∃ blocks, ReportedBy lines blocks ∧ r.diagnostics.toList = blocks.flatten
  balance : lines.countP (IsMeasurement ·) =
    r.store.size + r.diagnostics.toList.countP Diagnostic.isDuplicate

namespace Accounts

variable {r : Reading}

lemma start : Accounts [] .start where
  values name value := by
    rw [← lastMeasured_iff, Reading.start, Store.get?_empty]
    rfl
  reports := ⟨[], .nil, rfl⟩
  balance := by
    rw [Reading.start, ← Store.length_names]
    rfl

lemma knows (h : Accounts lines r) : r.Knows lines := by
  intro name
  rw [← exists_lastMeasured_iff]
  simp only [← h.values]
  exact Store.contains_iff

/-- A further line is accounted for. -/
lemma add (h : Accounts lines r) (line : List Char) :
    Accounts (lines ++ [line]) (r.add (lines.length + 1) line) := by
  obtain ⟨ds, reported, added, size⟩ := Reading.add_reports h.knows (lines.length + 1) line
  obtain ⟨blocks, own, reports⟩ := h.reports
  refine ⟨fun name value => ?_, ⟨blocks ++ [ds], own.concat reported, ?_⟩, ?_⟩
  · have before : r.store.get? name = lines.reverse.findSome? (measured? name) :=
      Option.ext fun value => (h.values name value).trans lastMeasured_iff.symm
    rw [Reading.get?_add, before, ← lastMeasured_iff, List.reverse_append, List.findSome?_append,
      List.reverse_singleton, List.findSome?_singleton]
  · rw [added, reports, List.flatten_append, List.flatten_singleton]
  · have balance := h.balance
    rw [added, List.countP_append, List.countP_append, List.countP_singleton, balance]
    simp only [decide_eq_true_eq]
    omega

/-- Further lines are accounted for. -/
theorem addFrom (h : Accounts earlier r) (lines : List (List Char)) :
    Accounts (earlier ++ lines) (r.addFrom (earlier.length + 1) lines) := by
  induction lines generalizing earlier r with
  | nil =>
    rw [List.append_nil]
    exact h
  | cons line lines ih =>
    have more := ih (h.add line)
    rw [List.length_append, List.append_assoc] at more
    exact more

end Accounts

/-- Every line is accounted for in what was read of the lines up to the cap. -/
structure Accounted (maxLines : Nat) (lines : List (List Char)) (r : Reading) : Prop where
  /-- The last measurement of a name counts, and nothing else has an effect on the values. -/
  values : ∀ name value, r.store.get? name = some value ↔
    LastMeasured (lines.take maxLines) name value
  /-- Every line up to the cap has its own reports; of the lines beyond there is one report. -/
  reports : ∃ blocks, ReportedBy (lines.take maxLines) blocks ∧ r.diagnostics.toList =
    blocks.flatten ++ if maxLines < lines.length then [.truncated maxLines] else []
  ordered : (r.diagnostics.toList.filterMap Diagnostic.line?).Pairwise (· ≤ ·)
  truncated_iff : ∀ n, .truncated n ∈ r.diagnostics.toList ↔ n = maxLines ∧ maxLines < lines.length
  /-- A measurement gives a new name, or is reported as a duplicate. -/
  balance : (lines.take maxLines).countP (IsMeasurement ·) =
    r.store.size + r.diagnostics.toList.countP Diagnostic.isDuplicate

/-- The lines of a text are all accounted for. -/
theorem ofText_accounted (maxLines : Nat) (text : String) :
    Accounted maxLines (Text.lines text) (Reading.ofText maxLines text) := by
  have h := Accounts.start.addFrom ((Text.lines text).take maxLines)
  rw [List.nil_append, List.length_nil, Nat.zero_add] at h
  obtain ⟨blocks, own, reports⟩ := h.reports
  have whole : (Reading.ofText maxLines text).store =
      (Reading.start.addFrom 1 ((Text.lines text).take maxLines)).store ∧
      (Reading.ofText maxLines text).diagnostics.toList = blocks.flatten ++
        if maxLines < (Text.lines text).length then [.truncated maxLines] else [] := by
    rw [← reports, Reading.ofText, Reading.ofLines]
    split
    · exact ⟨rfl, Reading.toList_report _ _⟩
    · exact ⟨rfl, (List.append_nil _).symm⟩
  obtain ⟨store, diagnostics⟩ := whole
  refine ⟨?_, ⟨blocks, own, diagnostics⟩, ?_, fun n => ?_, ?_⟩
  · rw [store]
    exact h.values
  · rw [diagnostics, List.filterMap_append]
    have last : (if maxLines < (Text.lines text).length then
        [Diagnostic.truncated maxLines] else []).filterMap Diagnostic.line? = [] := by
      split <;> rfl
    rw [last, List.append_nil]
    exact own.ordered
  · rw [diagnostics, List.mem_append, List.mem_ite_nil_right, List.mem_singleton]
    have apart : .truncated n ∉ blocks.flatten := fun mem => absurd (own.line?_isSome _ mem) nofun
    rw [or_iff_right apart, Diagnostic.truncated.injEq, and_comm]
  · rw [store, diagnostics, List.countP_append, h.balance, reports]
    split <;> rfl

end ResultFile

end PerfGate
