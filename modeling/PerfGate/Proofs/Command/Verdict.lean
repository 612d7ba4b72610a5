import PerfGate.Proofs.Command.Printed
import PerfGate.Proofs.Gate.Partition
import PerfGate.Proofs.ResultFile.Measured

/-!
# The verdict of the command `compare`

The command fails if its options are `Misconfigured`, and this before it looks at a file, or if one
of the files is unusable. Otherwise it finds a regression if and only if the last measurements of
some name are positive in both files and the change between them is beyond the `Limit` of the name
(`compare_verdict`).
-/

namespace PerfGate

lemma Text.trimChars_eq_nil_iff {cs : List Char} :
    Text.trimChars cs = [] ↔ ∀ c ∈ cs, Text.isBlank c := by
  rw [trimChars, List.reverse_eq_nil_iff, List.dropWhile_eq_nil_iff]
  constructor
  · intro blank
    cases kept : cs.dropWhile isBlank with
    | nil => exact List.dropWhile_eq_nil_iff.1 kept
    | cons c rest =>
      have first := List.head?_dropWhile_not isBlank cs
      rw [kept] at first blank
      change isBlank c = false at first
      rw [blank c (List.mem_reverse.2 List.mem_cons_self)] at first
      cases first
  · intro blank c mem
    exact blank c ((List.dropWhile_sublist isBlank).mem (List.mem_reverse.1 mem))

lemma Decimal.not_le_zero_iff {x : Float} (finite : Decimal.isFinite x) : ¬ x ≤ 0 ↔ 0 < x := by
  have bound := (lt_infinityBits_of_isFinite finite).le
  rw [le_zero_iff_value bound, pos_iff_value bound, not_le]

lemma ResultFile.FileMeasures.isFinite {files : FileSystem} {maxLines : Nat} {path name : String}
    {x : Float} (h : FileMeasures files maxLines path name x) : Decimal.isFinite x := by
  obtain ⟨_, _, _, _, _, _, measured, _⟩ := h
  exact measured.isFinite

/-! ## Names of a list -/

namespace Policy

/-- A name is empty if its piece of the list is blank. -/
lemma any_isEmpty_namePieces {raw : String} : (namePieces raw).any String.isEmpty ↔
    ∃ piece ∈ raw.toList.splitOn ',', ∀ c ∈ piece, Text.isBlank c := by
  rw [namePieces, List.any_map, List.any_eq_true]
  refine exists_congr fun piece => and_congr_right fun _ => ?_
  rw [Function.comp_apply, String.isEmpty_iff, ← String.toList_inj, String.toList_ofList,
    ← Text.trimChars_eq_nil_iff]
  rfl

/-- A list with a blank piece is refused, and only such a list is. -/
lemma parseNames_eq_error_iff {raw : String} {f : Failure} :
    parseNames raw = .error f ↔
      f = .invalidConfig "relaxed-benchmarks" s!"malformed benchmark list '{raw}'" ∧
        ∃ piece ∈ raw.toList.splitOn ',', ∀ c ∈ piece, Text.isBlank c := by
  rw [← any_isEmpty_namePieces]
  by_cases blank : (namePieces raw).any String.isEmpty
  · rw [parseNames, if_pos blank]
    constructor
    · rintro ⟨⟩
      exact ⟨rfl, blank⟩
    · rintro ⟨rfl, -⟩
      rfl
  · rw [parseNames, if_neg blank]
    constructor
    · rintro ⟨⟩
    · rintro ⟨-, blank'⟩
      exact absurd blank' blank

/-- Any other list is read as its pieces. -/
lemma parseNames_of_not_blank {raw : String}
    (h : ¬ ∃ piece ∈ raw.toList.splitOn ',', ∀ c ∈ piece, Text.isBlank c) :
    parseNames raw = .ok (namePieces raw) := by
  rw [parseNames, if_neg (mt any_isEmpty_namePieces.1 h)]

lemma namePieces_ne_nil (raw : String) : namePieces raw ≠ [] := by
  rw [namePieces, ne_eq, List.map_eq_nil_iff]
  exact List.splitOn_ne_nil ',' _

end Policy

namespace Command

namespace CompareOptions

/-- The name is one of those to which the relaxed threshold applies. -/
def Lists (o : CompareOptions) (name : String) : Prop :=
  ∃ raw, o.relaxedNames = some raw ∧
    ∃ piece ∈ raw.toList.splitOn ',', name = String.ofList (Text.trimChars piece)

/-- The threshold of a name: the relaxed one if the name is listed, else the default. -/
inductive Limit (o : CompareOptions) (name : String) : Float → Prop
  | relaxed {pct : Float} (listed : o.Lists name) (given : o.relaxedThreshold = some pct) :
      Limit o name pct
  | default (unlisted : ¬ o.Lists name) : Limit o name o.threshold

/-- Why the options are refused. -/
inductive Misconfigured (o : CompareOptions) : Prop
  | blankName {raw : String} {piece : List Char} (given : o.relaxedNames = some raw)
      (mem : piece ∈ raw.toList.splitOn ',') (blank : ∀ c ∈ piece, Text.isBlank c)
  | threshold (invalid : ¬ Policy.isValidPct o.threshold)
  | noRelaxedThreshold {raw : String} (given : o.relaxedNames = some raw)
      (absent : o.relaxedThreshold = none)
  | relaxedThreshold {pct : Float} (given : o.relaxedThreshold = some pct)
      (invalid : ¬ Policy.isValidPct pct)

variable {o : CompareOptions}

/-- The names to which the relaxed threshold applies, if any are given and each of them can be
told. -/
def Named (o : CompareOptions) (names : Option (List String)) : Prop :=
  o.relaxedNames.mapM Policy.parseNames = .ok names

lemma named_none (absent : o.relaxedNames = none) : o.Named none := by
  rw [Named, absent]
  rfl

lemma named_some {raw : String} (given : o.relaxedNames = some raw)
    (h : ¬ ∃ piece ∈ raw.toList.splitOn ',', ∀ c ∈ piece, Text.isBlank c) :
    o.Named (some (Policy.namePieces raw)) := by
  rw [Named, given, Option.mapM_some, Policy.parseNames_of_not_blank h]
  rfl

lemma policy_of_named {names : Option (List String)} (h : o.Named names) :
    o.policy.value = match Policy.new o.threshold with
      | .error f => .error f
      | .ok p => (p.relax o.relaxedThreshold names).value := by
  rw [policy, h]
  cases Policy.new o.threshold <;> rfl

lemma lists_iff {raw : String} (given : o.relaxedNames = some raw) (name : String) :
    o.Lists name ↔ name ∈ Policy.namePieces raw := by
  rw [Policy.namePieces, List.mem_map]
  constructor
  · rintro ⟨raw', given', piece, mem, rfl⟩
    rw [given] at given'
    cases given'
    exact ⟨piece, mem, rfl⟩
  · rintro ⟨piece, mem, rfl⟩
    exact ⟨raw, given, piece, mem, rfl⟩

lemma not_lists (absent : o.relaxedNames = none) (name : String) : ¬ o.Lists name := by
  rintro ⟨raw, given, -⟩
  rw [absent] at given
  cases given

lemma limit_of_listed {name : String} {pct t : Float} (listed : o.Lists name)
    (given : o.relaxedThreshold = some pct) : o.Limit name t ↔ pct = t := by
  constructor
  · rintro (⟨-, given'⟩ | ⟨unlisted⟩)
    · exact Option.some_inj.1 (given.symm.trans given')
    · exact absurd listed unlisted
  · rintro rfl
    exact .relaxed listed given

lemma limit_of_not_listed {name : String} {t : Float} (unlisted : ¬ o.Lists name) :
    o.Limit name t ↔ o.threshold = t := by
  constructor
  · rintro (⟨listed, -⟩ | -)
    · exact absurd listed unlisted
    · rfl
  · rintro rfl
    exact .default unlisted

/-- What becomes of the options. -/
inductive Configured (o : CompareOptions) : Except Failure Policy → Prop
  | refused {parameter reason : String} (fault : o.Misconfigured) :
      Configured o (.error (.invalidConfig parameter reason))
  | accepted {p : Policy} (sound : ¬ o.Misconfigured)
      (limits : ∀ name t, o.Limit name t ↔ p.effective name = t) : Configured o (.ok p)

lemma sound_of_valid (valid : Policy.isValidPct o.threshold)
    (named : ∀ raw, o.relaxedNames = some raw →
      ¬ (∃ piece ∈ raw.toList.splitOn ',', ∀ c ∈ piece, Text.isBlank c) ∧
        o.relaxedThreshold ≠ none)
    (relaxed : ∀ pct, o.relaxedThreshold = some pct → Policy.isValidPct pct) :
    ¬ o.Misconfigured := by
  intro fault
  cases fault with
  | blankName given mem blank => exact (named _ given).1 ⟨_, mem, blank⟩
  | threshold invalid => exact invalid valid
  | noRelaxedThreshold given absent => exact (named _ given).2 absent
  | relaxedThreshold given invalid => exact invalid (relaxed _ given)

/-- Without names, a relaxed threshold is checked but has no effect. -/
lemma configured_without_names (absent : o.relaxedNames = none)
    (valid : Policy.isValidPct o.threshold) :
    o.Configured ((⟨o.threshold, ∅⟩ : Policy).relax o.relaxedThreshold none).value := by
  have limits : ∀ name t, o.Limit name t ↔ (⟨o.threshold, ∅⟩ : Policy).effective name = t := by
    intro name t
    rw [limit_of_not_listed (not_lists absent name), effective_default]
  have named : ∀ raw, o.relaxedNames = some raw →
      ¬ (∃ piece ∈ raw.toList.splitOn ',', ∀ c ∈ piece, Text.isBlank c) ∧
        o.relaxedThreshold ≠ none := by
    intro raw given
    rw [absent] at given
    cases given
  cases relaxed : o.relaxedThreshold with
  | none =>
    refine .accepted (sound_of_valid valid named ?_) limits
    intro pct given
    rw [relaxed] at given
    cases given
  | some pct =>
    by_cases validPct : Policy.isValidPct pct
    · rw [Policy.relax, Policy.validate_of_isValidPct _ validPct]
      refine .accepted (sound_of_valid valid named ?_) limits
      intro pct' given
      rw [relaxed] at given
      cases given
      exact validPct
    · obtain ⟨reason, refused⟩ := Policy.validate_of_not_isValidPct "relaxed-threshold" validPct
      rw [Policy.relax, refused]
      exact .refused (.relaxedThreshold relaxed validPct)

/-- With names there must be a relaxed threshold, which is checked as there is a name at least. -/
lemma configured_with_names {raw : String} (given : o.relaxedNames = some raw)
    (h : ¬ ∃ piece ∈ raw.toList.splitOn ',', ∀ c ∈ piece, Text.isBlank c)
    (valid : Policy.isValidPct o.threshold) :
    o.Configured ((⟨o.threshold, ∅⟩ : Policy).relax o.relaxedThreshold
      (some (Policy.namePieces raw))).value := by
  cases relaxed : o.relaxedThreshold with
  | none => exact .refused (.noRelaxedThreshold given relaxed)
  | some pct =>
    by_cases validPct : Policy.isValidPct pct
    · obtain ⟨q, made, effective⟩ :=
        Policy.overrides_of_isValidPct ⟨o.threshold, ∅⟩ (Policy.namePieces raw) validPct
      rw [Policy.relax, Logged.value_pure, made]
      refine .accepted (sound_of_valid valid ?_ ?_) fun name t => ?_
      · intro raw' given'
        rw [given] at given'
        cases given'
        exact ⟨h, by rw [relaxed]; exact Option.some_ne_none pct⟩
      · intro pct' given'
        rw [relaxed] at given'
        cases given'
        exact validPct
      · rw [effective, effective_default]
        by_cases listed : name ∈ Policy.namePieces raw
        · rw [if_pos listed, limit_of_listed ((lists_iff given name).2 listed) relaxed]
        · rw [if_neg listed, limit_of_not_listed (mt (lists_iff given name).1 listed)]
    · obtain ⟨reason, refused⟩ := Policy.overrides_of_not_isValidPct ⟨o.threshold, ∅⟩
        (Policy.namePieces_ne_nil raw) validPct
      rw [Policy.relax, Logged.value_pure, refused]
      exact .refused (.relaxedThreshold relaxed validPct)

/-- The options are refused, or they give every name its limit. -/
lemma configured_policy (o : CompareOptions) : o.Configured o.policy.value := by
  cases given : o.relaxedNames with
  | none =>
    rw [policy_of_named (named_none given)]
    by_cases valid : Policy.isValidPct o.threshold
    · rw [Policy.new_of_isValidPct valid]
      exact configured_without_names given valid
    · obtain ⟨reason, refused⟩ := Policy.new_of_not_isValidPct valid
      rw [refused]
      exact .refused (.threshold valid)
  | some raw =>
    by_cases blank : ∃ piece ∈ raw.toList.splitOn ',', ∀ c ∈ piece, Text.isBlank c
    · have refused := Policy.parseNames_eq_error_iff.2 ⟨rfl, blank⟩
      obtain ⟨piece, mem, blank⟩ := blank
      rw [policy, given, Option.mapM_some, refused]
      exact .refused (.blankName given mem blank)
    · rw [policy_of_named (named_some given blank)]
      by_cases valid : Policy.isValidPct o.threshold
      · rw [Policy.new_of_isValidPct valid]
        exact configured_with_names given blank valid
      · obtain ⟨reason, refused⟩ := Policy.new_of_not_isValidPct valid
        rw [refused]
        exact .refused (.threshold valid)

/-- A policy that the options give is valid. -/
lemma isValid_policy {p : Policy} (h : o.policy.value = .ok p) : p.IsValid := by
  cases named : o.relaxedNames.mapM Policy.parseNames with
  | error f =>
    rw [policy, named] at h
    cases h
  | ok names =>
    rw [policy_of_named named] at h
    cases made : Policy.new o.threshold with
    | error f =>
      rw [made] at h
      cases h
    | ok p' =>
      rw [made] at h
      exact (Policy.isValid_of_new made).of_relax h

end CompareOptions

/-! ## Running the command -/

open ResultFile (Unusable FileMeasures Reading)

/-- In every world with these files the computation gives the value, and it leaves the files. -/
def Yields {α : Type} (files : FileSystem) (x : StateM World α) (a : α) : Prop :=
  ∀ w, w.files = files → (x.run w).1 = a ∧ (x.run w).2.files = files

variable {files : FileSystem} {maxLines : Nat} {o : CompareOptions}

lemma Prints.yields {α : Type} {x : StateM World α} {a : α} {lines : List String}
    (h : Prints files x a lines) : Yields files x a :=
  fun w same => ⟨(h w same).1, (h w same).2.1⟩

/-- The command ends as the comparison of the files does. -/
lemma yields_compare {ending : Ending}
    (h : Yields files (compareFiles Host.ofWorld maxLines o) ending) :
    Yields files (compare Host.ofWorld maxLines o) ending := by
  intro w same
  obtain ⟨value, kept⟩ := h w same
  rw [compare, run_bind, value]
  exact (prints_remarkFailure o.remarks ending).yields _ kept

lemma yields_refused {f : Failure} (h : o.policy.value = .error f) :
    Yields files (compareFiles Host.ofWorld maxLines o) (.error (.failed f)) :=
  (Course.refused h).prints.yields

section Accepted

variable {p : Policy} (accepted : o.policy.value = .ok p)
include accepted

lemma yields_baseline_error {f : Failure}
    (h : (Reading.ofNonEmptySource maxLines (.ofPath files o.baseline)).value = .error f) :
    Yields files (compareFiles Host.ofWorld maxLines o) (.error (.failed f)) :=
  (Course.noBaseline accepted h).prints.yields

variable {r : Reading}
  (baseline : (Reading.ofNonEmptySource maxLines (.ofPath files o.baseline)).value = .ok r)
include baseline

lemma yields_current_error {f : Failure}
    (h : (Reading.ofNonEmptySource maxLines (.ofPath files o.current)).value = .error f) :
    Yields files (compareFiles Host.ofWorld maxLines o) (.error (.failed f)) :=
  (Course.noCurrent accepted baseline h).prints.yields

lemma yields_compared {r' : Reading}
    (current : (Reading.ofNonEmptySource maxLines (.ofPath files o.current)).value = .ok r') :
    Yields files (compareFiles Host.ofWorld maxLines o)
      (.ok (if (compareStores r.store r'.store p).hasRegressions then .regressed
        else .passed)) :=
  (Course.compared accepted baseline current).prints.yields

end Accepted

/-! ## The verdict -/

/-- Some name got slower than its limit allows. -/
def Regresses (files : FileSystem) (maxLines : Nat) (o : CompareOptions) : Prop :=
  ∃ name b c t, FileMeasures files maxLines o.baseline name b ∧
    FileMeasures files maxLines o.current name c ∧ 0 < b ∧ 0 < c ∧ o.Limit name t ∧
    t < (c - b) / b * 100

/-- How a comparison of two files has to end. -/
structure Decides (files : FileSystem) (maxLines : Nat) (o : CompareOptions) (ending : Ending) :
    Prop where
  failed : (∃ e, ending = .error e) ↔
    o.Misconfigured ∨ Unusable files maxLines o.baseline ∨ Unusable files maxLines o.current
  refused : (∃ f, ending = .error (.failed f) ∧ f.isConfig) ↔ o.Misconfigured
  regressed : ending = .ok .regressed ↔
    ¬ (o.Misconfigured ∨ Unusable files maxLines o.baseline ∨ Unusable files maxLines o.current) ∧
      Regresses files maxLines o
  passed : ending = .ok .passed ↔
    ¬ (o.Misconfigured ∨ Unusable files maxLines o.baseline ∨ Unusable files maxLines o.current) ∧
      ¬ Regresses files maxLines o
  status_passed : exitStatus ending = 0 ↔ ending = .ok .passed
  status_regressed : exitStatus ending = 1 ↔ ending = .ok .regressed
  status_failed : exitStatus ending = 2 ↔ ∃ e, ending = .error e

lemma decides_refused {parameter reason : String} (fault : o.Misconfigured) :
    Decides files maxLines o (.error (.failed (.invalidConfig parameter reason))) where
  failed := iff_of_true ⟨_, rfl⟩ (.inl fault)
  refused := iff_of_true ⟨_, rfl, rfl⟩ fault
  regressed := iff_of_false nofun fun h => h.1 (.inl fault)
  passed := iff_of_false nofun fun h => h.1 (.inl fault)
  status_passed := iff_of_false nofun nofun
  status_regressed := iff_of_false nofun nofun
  status_failed := iff_of_true rfl ⟨_, rfl⟩

lemma decides_unusable {f : Failure} (sound : ¬ o.Misconfigured) (other : f.isConfig = false)
    (h : Unusable files maxLines o.baseline ∨ Unusable files maxLines o.current) :
    Decides files maxLines o (.error (.failed f)) where
  failed := iff_of_true ⟨_, rfl⟩ (.inr h)
  refused := by
    refine iff_of_false ?_ sound
    rintro ⟨_, ⟨⟩, config⟩
    rw [other] at config
    cases config
  regressed := iff_of_false nofun fun h' => h'.1 (.inr h)
  passed := iff_of_false nofun fun h' => h'.1 (.inr h)
  status_passed := iff_of_false nofun nofun
  status_regressed := iff_of_false nofun nofun
  status_failed := iff_of_true rfl ⟨_, rfl⟩

lemma decides_compared {c : Comparison} (sound : ¬ o.Misconfigured)
    (baseline : ¬ Unusable files maxLines o.baseline)
    (current : ¬ Unusable files maxLines o.current)
    (h : c.hasRegressions ↔ Regresses files maxLines o) :
    Decides files maxLines o (.ok (if c.hasRegressions then .regressed else .passed)) := by
  have faultless : ¬ (o.Misconfigured ∨ Unusable files maxLines o.baseline ∨
      Unusable files maxLines o.current) := by
    rintro (fault | fault | fault)
    · exact sound fault
    · exact baseline fault
    · exact current fault
  by_cases regresses : c.hasRegressions
  · rw [if_pos regresses]
    rw [iff_true_left regresses] at h
    exact ⟨iff_of_false nofun faultless, iff_of_false nofun sound, iff_of_true rfl ⟨faultless, h⟩,
      iff_of_false nofun fun h' => h'.2 h, iff_of_false nofun nofun, iff_of_true rfl rfl,
      iff_of_false nofun nofun⟩
  · rw [if_neg regresses]
    rw [iff_false_left regresses] at h
    exact ⟨iff_of_false nofun faultless, iff_of_false nofun sound,
      iff_of_false nofun fun h' => h h'.2, iff_of_true rfl ⟨faultless, h⟩, iff_of_true rfl rfl,
      iff_of_false nofun nofun, iff_of_false nofun nofun⟩

lemma hasRegressions_iff {baseline current : Store} {p : Policy} :
    (compareStores baseline current p).hasRegressions ↔
      ∃ e, Comparison.IsEntry baseline current p e ∧ e.threshold < e.delta := by
  rw [Comparison.hasRegressions, Bool.not_eq_true', List.isEmpty_eq_false_iff_exists_mem]
  exact exists_congr fun _ => Comparison.mem_regressions

/-- Two stores with the last measurements of the files show whether a name got slower. -/
lemma hasRegressions_iff_regresses {baseline current : Store} {p : Policy}
    (stored : ∀ name b, baseline.get? name = some b ↔ FileMeasures files maxLines o.baseline name b)
    (stored' : ∀ name c, current.get? name = some c ↔ FileMeasures files maxLines o.current name c)
    (limits : ∀ name t, o.Limit name t ↔ p.effective name = t) :
    (compareStores baseline current p).hasRegressions ↔ Regresses files maxLines o := by
  rw [hasRegressions_iff]
  constructor
  · rintro ⟨e, entry, above⟩
    have measured := (stored _ _).1 entry.stored
    have measured' := (stored' _ _).1 entry.stored'
    rw [entry.delta] at above
    refine ⟨e.name, e.baseline, e.current, e.threshold, measured, measured', ?_, ?_,
      (limits _ _).2 entry.threshold.symm, above⟩
    · exact (Decimal.not_le_zero_iff measured.isFinite).1 entry.baseline_pos
    · exact (Decimal.not_le_zero_iff measured'.isFinite).1 entry.current_pos
  · rintro ⟨name, b, c, t, measured, measured', hb, hc, limit, above⟩
    obtain rfl := (limits name t).1 limit
    refine ⟨.new name b c (p.effective name), ?_, above⟩
    refine Comparison.isEntry_new ((stored _ _).2 measured) ((stored' _ _).2 measured') ?_ ?_
    · exact (Decimal.not_le_zero_iff measured.isFinite).2 hb
    · exact (Decimal.not_le_zero_iff measured'.isFinite).2 hc

lemma compareFiles_decides (files : FileSystem) (maxLines : Nat) (o : CompareOptions) :
    ∃ ending, Yields files (compareFiles Host.ofWorld maxLines o) ending ∧
      Decides files maxLines o ending := by
  -- the options are looked at before the files, and the baseline before the current file
  have configured := o.configured_policy
  generalize made : o.policy.value = result at configured
  cases configured with
  | refused fault => exact ⟨_, yields_refused made, decides_refused fault⟩
  | @accepted p sound limits =>
    by_cases unusable : Unusable files maxLines o.baseline
    · obtain ⟨f, failed, other⟩ := Reading.ofNonEmptySource_of_unusable unusable
      exact ⟨_, yields_baseline_error made failed, decides_unusable sound other (.inl unusable)⟩
    obtain ⟨r, baseline, stored⟩ := Reading.ofNonEmptySource_of_usable unusable
    by_cases unusable' : Unusable files maxLines o.current
    · obtain ⟨f, failed, other⟩ := Reading.ofNonEmptySource_of_unusable unusable'
      exact ⟨_, yields_current_error made baseline failed,
        decides_unusable sound other (.inr unusable')⟩
    obtain ⟨r', current, stored'⟩ := Reading.ofNonEmptySource_of_usable unusable'
    exact ⟨_, yields_compared made baseline current, decides_compared sound unusable unusable'
      (hasRegressions_iff_regresses stored stored' limits)⟩

/-- Whatever the files hold, whatever the cap and the options are: the command ends as it has to. -/
theorem compare_verdict (w : World) (maxLines : Nat) (o : CompareOptions) :
    Decides w.files maxLines o ((compare Host.ofWorld maxLines o).run w).1 := by
  obtain ⟨ending, yields, decides⟩ := compareFiles_decides w.files maxLines o
  obtain ⟨value, -⟩ := yields_compare yields w rfl
  rw [value]
  exact decides

end Command

end PerfGate
