import ConsumerCheck.Proofs.Staging.RepeatedRules

/-!
# Rules for other systems

A rule is for the systems of one naming convention, and every system follows exactly one. If the rules for
other systems are left out, staging does what it does for the list without them: such a rule is not looked at,
so that neither its files nor a fault in it count. All that is left of it is its pattern in the report.

* `Platform.appleSystems` — the systems of the second convention;
* `Staging.filtering`, `Staging.keeping` — the same options with the rules for other systems left out while
  staging, and with the list cut down before it;
* `Staging.omitted` — the patterns of the rules that are left out.

Principal results: `Platform.matchesOs_unique` — the conventions are a partition of the systems;
`surveyRules_filtering` — the first phase with and without the rules for other systems; `stage_filtering`.
-/

namespace ConsumerCheck

/-! ## The system of a convention -/

namespace Platform

/-- The normal forms of the systems whose libraries are named as those of macOS. -/
def appleSystems : List String := ["macos", "ios", "watchos", "tvos"]

variable {os : String}

theorem matchesOs_windows : windows.matchesOs os = true ↔ normalizeOs os = "windows" :=
  beq_iff_eq

theorem matchesOs_macos : macos.matchesOs os = true ↔ normalizeOs os ∈ appleSystems :=
  List.contains_iff_mem

/-- Every system that no other convention names follows the last one. -/
theorem matchesOs_unix : unix.matchesOs os = true ↔ normalizeOs os ∉ "windows" :: appleSystems := by
  simp [matchesOs, appleSystems]

/-- **Every system follows exactly one convention**: no name is in two of the tests, and the last one takes
what the others leave. -/
theorem matchesOs_unique (os : String) : ∃! p : Platform, p.matchesOs os = true := by
  by_cases hwindows : normalizeOs os = "windows"
  · refine ⟨windows, matchesOs_windows.2 hwindows, fun p hp => ?_⟩
    cases p with
    | windows => rfl
    | macos => exact absurd (hwindows ▸ matchesOs_macos.1 hp) (by decide)
    | unix => exact absurd (hwindows ▸ List.mem_cons_self) (matchesOs_unix.1 hp)
  · by_cases happle : normalizeOs os ∈ appleSystems
    · refine ⟨macos, matchesOs_macos.2 happle, fun p hp => ?_⟩
      cases p with
      | windows => exact absurd (matchesOs_windows.1 hp) hwindows
      | macos => rfl
      | unix => exact absurd (List.mem_cons_of_mem _ happle) (matchesOs_unix.1 hp)
    · have hother : normalizeOs os ∉ "windows" :: appleSystems := by
        simp [hwindows, happle]
      refine ⟨unix, matchesOs_unix.2 hother, fun p hp => ?_⟩
      cases p with
      | windows => exact absurd (matchesOs_windows.1 hp) hwindows
      | macos => exact absurd (matchesOs_macos.1 hp) happle
      | unix => rfl

end Platform

namespace Staging

variable {fs : FileSystem} {wd : Location} {options : ImportOptions} {settings : Settings}
  {rule : CopyRule} {rules : List CopyRule} {s t : Survey}

/-- The rule is for the system that the settings name. -/
def isForSystem (settings : Settings) (rule : CopyRule) : Bool :=
  rule.platform.matchesOs settings.os

/-- The same options, with the rules for other systems left out while staging. -/
def filtering (options : ImportOptions) : ImportOptions :=
  { options with filterHostPlatform := true }

/-- The same options, with nothing but the rules for the system, none of which is left out. -/
def keeping (options : ImportOptions) (settings : Settings) : ImportOptions :=
  { options with
    rules := options.rules.filter (isForSystem settings)
    filterHostPlatform := false }

/-- The patterns of the rules for other systems, in their order. -/
def omitted (settings : Settings) (rules : List CopyRule) : List String :=
  (rules.filter fun rule => !isForSystem settings rule).map (·.pattern)

theorem isFilteredOut_filtering (options : ImportOptions) (settings : Settings) (rule : CopyRule) :
    isFilteredOut (filtering options) settings rule = !isForSystem settings rule := by
  simp [isFilteredOut, filtering, isForSystem]

theorem isFilteredOut_keeping (options : ImportOptions) (settings : Settings) (rule : CopyRule) :
    isFilteredOut (keeping options settings) settings rule = false := by
  simp [isFilteredOut, keeping]

/-! ## The first phase -/

/-- What a rule for the system adds to a plan is the same either way, and it is not noted as left out. -/
theorem surveyRule_filtering (h : isForSystem settings rule = true) (hplan : s.plan = t.plan) :
    (surveyRule fs wd (filtering options) settings rule s).1 =
      (surveyRule fs wd (keeping options settings) settings rule t).1.map
        fun next => ⟨next.plan, s.filteredOut⟩ := by
  unfold surveyRule
  rw [isFilteredOut_filtering, h, Bool.not_true, isFilteredOut_keeping, hplan]
  dsimp only [filtering, keeping]
  cases Pattern.parse rule.pattern with
  | error e => rfl
  | ok pattern =>
    by_cases hdir : fs.isDirectory wd (options.packageFolder.join rule.src) = true
    · cases hfound : fs.findMatching wd (options.packageFolder.join rule.src) pattern with
      | error e => simp [hdir, hfound, Except.map]
      | ok found => simp [hdir, hfound, Except.map]
    · simp [hdir, Except.map, ← hplan]

/-- **A rule for another system adds nothing to the plan, fails for no reason and takes no place from another
rule**: the first phase is that of the list without such rules. -/
theorem surveyRules_filtering (rules : List CopyRule) (hplan : s.plan = t.plan) :
    (surveyRules fs wd (filtering options) settings rules s).1 =
      (surveyRules fs wd (keeping options settings) settings
        (rules.filter (isForSystem settings)) t).1.map
          fun last => ⟨last.plan, s.filteredOut ++ omitted settings rules⟩ := by
  induction rules generalizing s t with
  | nil => simp [surveyRules, omitted, Except.map, ← hplan]
  | cons rule rules ih =>
    rw [surveyRules_cons_result]
    by_cases hmatch : isForSystem settings rule = true
    · -- the rule is looked at either way, and both surveys go on from one plan
      have homitted : omitted settings (rule :: rules) = omitted settings rules := by
        simp [omitted, hmatch]
      rw [List.filter_cons_of_pos hmatch, surveyRules_cons_result, homitted,
        surveyRule_filtering hmatch hplan]
      cases (surveyRule fs wd (keeping options settings) settings rule t).1 with
      | error f => rfl
      | ok next => exact ih rfl
    · -- nothing but its pattern is left of the rule: the plan stays, and the other survey has no step for it
      have hout : isFilteredOut (filtering options) settings rule = true := by
        simp [isFilteredOut_filtering, hmatch]
      have homitted : omitted settings (rule :: rules) = rule.pattern :: omitted settings rules := by
        simp [omitted, hmatch]
      have hnoted : (surveyRule fs wd (filtering options) settings rule s).1 =
          .ok ⟨s.plan, s.filteredOut ++ [rule.pattern]⟩ := by
        rw [surveyRule, if_pos hout]
      have hrest := ih (s := ⟨s.plan, s.filteredOut ++ [rule.pattern]⟩) hplan
      rw [List.append_assoc, List.singleton_append] at hrest
      rw [List.filter_cons_of_neg hmatch, hnoted, homitted]
      exact hrest

theorem survey_filtering (hdst : ∀ rule ∈ options.rules, Path.Same rule.dst runtimeDir) :
    (survey fs wd (filtering options) settings).1 =
      (survey fs wd (keeping options settings) settings).1.map
        fun last => ⟨last.plan, omitted settings options.rules⟩ := by
  have hnone : foreignRule? options.rules = none := foreignRule?_eq_none_iff.2 hdst
  have hnone' : foreignRule? (keeping options settings).rules = none :=
    foreignRule?_eq_none_iff.2 fun rule hrule => hdst rule (List.mem_of_mem_filter hrule)
  unfold survey
  rw [hnone', show foreignRule? (filtering options).rules = none from hnone]
  dsimp only [filtering, keeping]
  cases fs.checkReadableDirectory wd options.packageFolder with
  | error e => rfl
  | ok u => exact surveyRules_filtering options.rules rfl

/-! ## Both phases -/

/-- What was left out is noted in the report, and plays no part in the rest of it. -/
theorem stage_withFilteredOut {options options' : ImportOptions} (patterns : List String)
    (hroot : options'.destRoot = options.destRoot)
    (h : (survey fs wd options' settings).1 =
      (survey fs wd options settings).1.map fun last => ⟨last.plan, patterns⟩) :
    (stage fs wd options' settings).1 =
        (stage fs wd options settings).1.map (fun report => ⟨report.copied, patterns⟩) ∧
      (stage fs wd options' settings).2.1 = (stage fs wd options settings).2.1 := by
  cases hs : (survey fs wd options settings).1 with
  | error f =>
    rw [hs] at h
    obtain ⟨hresult, hfiles⟩ := stage_of_survey_error hs
    obtain ⟨hresult', hfiles'⟩ := stage_of_survey_error h
    rw [hresult, hresult', hfiles, hfiles']
    exact ⟨rfl, rfl⟩
  | ok s =>
    rw [hs] at h
    obtain ⟨hresult, hfiles⟩ := stage_of_survey hs
    obtain ⟨hresult', hfiles'⟩ := stage_of_survey h
    rw [hresult, hresult', hfiles, hfiles', hroot]
    refine ⟨?_, rfl⟩
    cases (carryOut wd options.destRoot s.plan fs).1 <;> rfl

/-- **Staging without the rules for other systems**: every system follows exactly one convention, and to leave
out the rules of the others is to stage the list without them, with the same outcome and the same files
afterwards. The report names the patterns that were left out, in the order of their rules. -/
theorem stage_filtering :
    (∀ os, (∃! p : Platform, p.matchesOs os = true) ∧
      (Platform.windows.matchesOs os = true ↔ normalizeOs os = "windows") ∧
      (Platform.macos.matchesOs os = true ↔ normalizeOs os ∈ Platform.appleSystems) ∧
      (Platform.unix.matchesOs os = true ↔ normalizeOs os ∉ "windows" :: Platform.appleSystems)) ∧
    ∀ (fs : FileSystem) (wd : Location) (options : ImportOptions) (settings : Settings),
      (∀ rule ∈ options.rules, Path.Same rule.dst runtimeDir) →
      (stage fs wd (filtering options) settings).1 =
          (stage fs wd (keeping options settings) settings).1.map
            (fun report => ⟨report.copied, omitted settings options.rules⟩) ∧
        (stage fs wd (filtering options) settings).2.1 =
          (stage fs wd (keeping options settings) settings).2.1 :=
  ⟨fun os => ⟨Platform.matchesOs_unique os, Platform.matchesOs_windows, Platform.matchesOs_macos,
      Platform.matchesOs_unix⟩,
    fun _ _ options settings hdst =>
      stage_withFilteredOut (omitted settings options.rules) rfl (survey_filtering hdst)⟩

/-- Of the rules for a package, two are for Windows: the pattern of the first is malformed, and the last finds a file
for a place that the rule between them has one for too. -/
def otherSystems : ImportOptions where
  packageFolder := ⟨[0x70]⟩
  destRoot := ⟨[0x78]⟩
  rules := [⟨.windows, "[", ⟨[0x6C]⟩, runtimeDir⟩, ⟨.unix, "*", ⟨[0x6D]⟩, runtimeDir⟩,
    ⟨.windows, "*", ⟨[0x6C]⟩, runtimeDir⟩]
  filterHostPlatform := false

/-- Neither the fault of the first rule nor the files of the last count. -/
theorem stage_filtering_otherSystems :
    (stage doubled [] (filtering otherSystems) .detect).1 =
        .ok ⟨[runtimeDir.join ⟨[0x61]⟩], ["[", "*"]⟩ ∧
      (stage doubled [] otherSystems .detect).1.isOk = false ∧
      (stage doubled [] (filtering otherSystems) .detect).1 =
        (stage doubled [] (keeping otherSystems .detect) .detect).1.map
          (fun report => ⟨report.copied, omitted .detect otherSystems.rules⟩) ∧
      (stage doubled [] (filtering otherSystems) .detect).2.1 =
        (stage doubled [] (keeping otherSystems .detect) .detect).2.1 :=
  ⟨by decide +kernel, by decide +kernel,
    stage_filtering.2 doubled [] otherSystems .detect (by decide)⟩

end Staging

end ConsumerCheck
