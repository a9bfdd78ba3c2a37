import ConsumerCheck.Proofs.FileSystem.Walk
import ConsumerCheck.Proofs.Staging.Order

/-!
# Why nothing is staged

The first phase asks three questions at different times: where the rules lead, for all of them and before anything
else; whether the package folder can be read, once; and then of one rule after the other whether its pattern is
well formed and its directory can be searched. What it fails for is the first that is answered in the negative.

* `Staging.Fault` — what is wrong with a rule that is in force;
* `Staging.Refusal` — what the first phase fails for;
* `Staging.SourcesReadable` — the directories that a rule in force leads to can be read with all below them.

Principal results: `survey_error_iff` — the first phase fails for what is refused first and for nothing else;
`stage_refused`; `stage_refused_readable` — a package folder that can be read throughout is not enough for a walk
to succeed.
-/

namespace ConsumerCheck.Staging

variable {fs : FileSystem} {wd : Location} {options : ImportOptions} {settings : Settings}
  {rule : CopyRule} {rules : List CopyRule} {s : Survey} {f : Failure}

/-! ## What is wrong with one rule -/

/-- What is wrong with a rule that is in force. -/
inductive Fault (fs : FileSystem) (wd : Location) (options : ImportOptions) (settings : Settings)
    (rule : CopyRule) : Failure → Prop where
  /-- Its pattern is malformed, whether there is a directory for it or not. -/
  | pattern {e : PatternError} (active : isFilteredOut options settings rule = false)
      (h : Pattern.parse rule.pattern = .error e) :
      Fault fs wd options settings rule (.config (.badPattern rule.pattern e))
  /-- Its directory is there, and the walk below it fails. -/
  | walk {pattern : Pattern} {cause : IoError} (active : isFilteredOut options settings rule = false)
      (hpattern : Pattern.parse rule.pattern = .ok pattern)
      (hdir : fs.isDirectory wd (options.packageFolder.join rule.src) = true)
      (h : fs.findMatching wd (options.packageFolder.join rule.src) pattern = .error cause) :
      Fault fs wd options settings rule (.filesystem (options.packageFolder.join rule.src) cause)

theorem surveyRule_error_iff : (surveyRule fs wd options settings rule s).1 = .error f ↔
    Fault fs wd options settings rule f := by
  constructor
  · intro h
    unfold surveyRule at h
    split at h
    · cases h
    rename_i hactive
    rw [Bool.not_eq_true] at hactive
    split at h
    · rename_i e hpattern
      cases h
      exact .pattern hactive hpattern
    rename_i pattern hpattern
    dsimp only at h
    split at h
    · rename_i hdir
      split at h
      · rename_i cause hfound
        cases h
        exact .walk hactive hpattern hdir hfound
      · cases h
    · cases h
  · intro h
    cases h with
    | pattern active hpattern => simp [surveyRule, active, hpattern]
    | walk active hpattern hdir hfound => simp [surveyRule, active, hpattern, hdir, hfound]

/-- A rule that has nothing wrong with it is left out, or it has a pattern and its directory can be searched. -/
theorem searched_iff : Searched fs wd options settings rule ↔ ∀ f, ¬Fault fs wd options settings rule f := by
  rw [← surveyRule_ok_iff (s := ⟨[], []⟩)]
  simp only [← surveyRule_error_iff (s := ⟨[], []⟩)]
  cases (surveyRule fs wd options settings rule ⟨[], []⟩).1 <;> simp

/-- The first rule with a fault ends the survey of the rules. -/
theorem surveyRules_error_iff : (surveyRules fs wd options settings rules s).1 = .error f ↔
    ∃ front rule back, rules = front ++ rule :: back ∧
      (∀ r ∈ front, Searched fs wd options settings r) ∧ Fault fs wd options settings rule f := by
  constructor
  · intro h
    induction rules generalizing s with
    | nil => cases h
    | cons rule rules ih =>
      rw [surveyRules_cons_result] at h
      cases hrule : (surveyRule fs wd options settings rule s).1 with
      | error g =>
        -- nothing behind the rule is looked at
        rw [hrule] at h
        cases h
        exact ⟨[], rule, rules, rfl, by simp, surveyRule_error_iff.1 hrule⟩
      | ok next =>
        rw [hrule] at h
        obtain ⟨front, other, back, rfl, hfront, hfault⟩ := ih h
        have hsearched := surveyRule_ok_iff.1 ⟨next, hrule⟩
        exact ⟨rule :: front, other, back, rfl, List.forall_mem_cons.2 ⟨hsearched, hfront⟩, hfault⟩
  · rintro ⟨front, rule, back, rfl, hfront, hfault⟩
    -- the rules in front are surveyed to their end, and the fault is met from wherever they lead
    obtain ⟨between, hbetween⟩ := surveyRules_ok_iff (s := s).2 hfront
    rw [surveyRules_append, hbetween]
    dsimp only [Except.bind]
    rw [surveyRules_cons_result, surveyRule_error_iff.2 hfault]
    rfl

/-! ## What is refused first -/

/-- What the first phase fails for. -/
inductive Refusal (fs : FileSystem) (wd : Location) (options : ImportOptions) (settings : Settings) :
    Failure → Prop where
  /-- The first rule that leads elsewhere than to the runtime directory. It may be one that is left out, and the
  package folder need not be there. -/
  | target {front back : List CopyRule} {rule : CopyRule} (hrules : options.rules = front ++ rule :: back)
      (hfront : ∀ r ∈ front, Path.Same r.dst runtimeDir) (hdst : ¬Path.Same rule.dst runtimeDir) :
      Refusal fs wd options settings (.config (.foreignTarget rule.pattern rule.dst))
  /-- The package folder. No rule has been looked at. -/
  | folder {cause : IoError} (hdst : ∀ rule ∈ options.rules, Path.Same rule.dst runtimeDir)
      (h : fs.checkReadableDirectory wd options.packageFolder = .error cause) :
      Refusal fs wd options settings (.filesystem options.packageFolder cause)
  /-- The first rule with a fault. -/
  | rule {front back : List CopyRule} {rule : CopyRule} {f : Failure}
      (hdst : ∀ rule ∈ options.rules, Path.Same rule.dst runtimeDir)
      (hfolder : fs.checkReadableDirectory wd options.packageFolder = .ok ())
      (hrules : options.rules = front ++ rule :: back)
      (hfront : ∀ r ∈ front, Searched fs wd options settings r)
      (hfault : Fault fs wd options settings rule f) : Refusal fs wd options settings f

theorem foreignRule?_eq_some_iff : foreignRule? rules = some rule ↔
    ∃ front back, rules = front ++ rule :: back ∧ (∀ r ∈ front, Path.Same r.dst runtimeDir) ∧
      ¬Path.Same rule.dst runtimeDir := by
  unfold foreignRule?
  rw [List.find?_eq_some_iff_append]
  simp only [bne_iff_ne, Bool.not_eq_true', bne_eq_false_iff_eq, Path.Same]
  constructor
  · rintro ⟨hdst, front, back, hrules, hfront⟩
    exact ⟨front, back, hrules, hfront, hdst⟩
  · rintro ⟨front, back, hrules, hfront, hdst⟩
    exact ⟨hdst, front, back, hrules, hfront⟩

/-- **The first phase fails for what is refused first, and for nothing else.** -/
theorem survey_error_iff : (survey fs wd options settings).1 = .error f ↔
    Refusal fs wd options settings f := by
  constructor
  · intro h
    unfold survey at h
    split at h
    · rename_i rule hforeign
      cases h
      obtain ⟨front, back, hrules, hfront, hdst⟩ := foreignRule?_eq_some_iff.1 hforeign
      exact .target hrules hfront hdst
    rename_i hforeign
    have hdst := foreignRule?_eq_none_iff.1 hforeign
    split at h
    · rename_i cause hfolder
      cases h
      exact .folder hdst hfolder
    · rename_i hfolder
      obtain ⟨front, rule, back, hrules, hfront, hfault⟩ := surveyRules_error_iff.1 h
      exact .rule hdst hfolder hrules hfront hfault
  · intro h
    unfold survey
    cases h with
    | target hrules hfront hdst =>
      rw [foreignRule?_eq_some_iff.2 ⟨_, _, hrules, hfront, hdst⟩]
    | folder hdst hfolder =>
      rw [foreignRule?_eq_none_iff.2 hdst]
      dsimp only
      rw [hfolder]
    | rule hdst hfolder hrules hfront hfault =>
      rw [foreignRule?_eq_none_iff.2 hdst]
      dsimp only
      rw [hfolder]
      exact surveyRules_error_iff.2 ⟨_, _, _, hrules, hfront, hfault⟩

/-! ## Directories that can be read -/

/-- The package folder can be read if it is a directory, and so can the directory of each rule in force, with all
directories that are reached from it. -/
structure SourcesReadable (fs : FileSystem) (wd : Location) (options : ImportOptions)
    (settings : Settings) : Prop where
  folder : fs.isDirectory wd options.packageFolder = true →
    fs.checkReadableDirectory wd options.packageFolder = .ok ()
  sources : ∀ rule ∈ options.rules, isFilteredOut options settings rule = false →
    fs.isDirectory wd (options.packageFolder.join rule.src) = true →
    fs.TreeReadable wd (options.packageFolder.join rule.src)

theorem findMatching_error_iff {base : Path} {pattern : Pattern} (hdir : fs.isDirectory wd base = true) :
    (∃ cause, fs.findMatching wd base pattern = .error cause) ↔ ¬fs.TreeReadable wd base := by
  have hok : (∃ found, fs.findMatching wd base pattern = .ok found) ↔ fs.TreeReadable wd base :=
    FileSystem.findMatching_ok_iff_treeReadable hdir
  rw [← hok]
  cases fs.findMatching wd base pattern <;> simp

/-- Where all directories can be read, a rule is at fault for its pattern only. -/
theorem SourcesReadable.fault_iff (h : SourcesReadable fs wd options settings)
    (hrule : rule ∈ options.rules) : Fault fs wd options settings rule f ↔
      isFilteredOut options settings rule = false ∧
        ∃ e, Pattern.parse rule.pattern = .error e ∧ f = .config (.badPattern rule.pattern e) := by
  constructor
  · intro hfault
    cases hfault with
    | pattern active hpattern => exact ⟨active, _, hpattern, rfl⟩
    | walk active hpattern hdir hfound =>
      exact absurd (h.sources rule hrule active hdir) ((findMatching_error_iff hdir).1 ⟨_, hfound⟩)
  · rintro ⟨active, e, hpattern, rfl⟩
    exact .pattern active hpattern

theorem refused_iff : (∃ f, Refusal fs wd options settings f) ↔
    (∃ rule ∈ options.rules, ¬Path.Same rule.dst runtimeDir) ∨
      fs.checkReadableDirectory wd options.packageFolder ≠ .ok () ∨
      ∃ rule ∈ options.rules, ∃ f, Fault fs wd options settings rule f := by
  have hfails : (∃ f, Refusal fs wd options settings f) ↔
      ¬∃ s, (survey fs wd options settings).1 = .ok s := by
    simp only [← survey_error_iff]
    cases (survey fs wd options settings).1 <;> simp
  rw [hfails, survey_ok_iff, not_and_or, not_and_or]
  simp only [searched_iff, not_forall, not_not, exists_prop]

/-- Where all directories can be read, three causes are left. -/
theorem SourcesReadable.refused_iff (h : SourcesReadable fs wd options settings) :
    (∃ f, Refusal fs wd options settings f) ↔
      (∃ rule ∈ options.rules, ¬Path.Same rule.dst runtimeDir) ∨
        fs.isDirectory wd options.packageFolder = false ∨
        ∃ rule ∈ options.rules, isFilteredOut options settings rule = false ∧
          ∃ e, Pattern.parse rule.pattern = .error e := by
  have hfolder : fs.checkReadableDirectory wd options.packageFolder ≠ .ok () ↔
      fs.isDirectory wd options.packageFolder = false := by
    rw [← Bool.not_eq_true, not_iff_not]
    refine ⟨fun hread => ?_, h.folder⟩
    obtain ⟨-, -, -, -, -, hdir⟩ := FileSystem.located_of_readable hread
    exact hdir
  rw [Staging.refused_iff, hfolder]
  refine or_congr_right (or_congr_right (exists_congr fun rule => and_congr_right fun hrule => ?_))
  simp only [h.fault_iff hrule]
  constructor
  · rintro ⟨f, active, e, hpattern, -⟩
    exact ⟨active, e, hpattern⟩
  · rintro ⟨active, e, hpattern⟩
    exact ⟨_, active, e, hpattern, rfl⟩

/-- A rule that is left out, and a rule with a pattern for which there is no directory or no file, have nothing
wrong with them. -/
theorem not_fault (h : isFilteredOut options settings rule = true ∨
      ∃ pattern, Pattern.parse rule.pattern = .ok pattern ∧
        (fs.isDirectory wd (options.packageFolder.join rule.src) = false ∨
          fs.findMatching wd (options.packageFolder.join rule.src) pattern = .ok [])) :
    ¬Fault fs wd options settings rule f := by
  refine searched_iff.1 ?_ f
  rcases h with hout | ⟨pattern, hpattern, hnone | hempty⟩
  · exact .inl hout
  · exact .inr ⟨pattern, hpattern, fun hdir => absurd hdir (by simp [hnone])⟩
  · exact .inr ⟨pattern, hpattern, fun _ => ⟨[], hempty⟩⟩

/-- **What is refused first keeps everything from being staged, and nothing else does**: the first rule that leads
elsewhere, be it left out or not; then the package folder; then the first rule in force whose pattern is
malformed, be there a directory for it or not, or whose directory cannot be walked. Files are left as they are. A
rule that is left out, a directory that is not there and a pattern that nothing matches are no faults. A walk fails
exactly if a directory on it cannot be read; where all can be, three causes are left. -/
theorem stage_refused (fs : FileSystem) (wd : Location) (options : ImportOptions) (settings : Settings) :
    (∀ f, (survey fs wd options settings).1 = .error f ↔ Refusal fs wd options settings f) ∧
    (∀ f, Refusal fs wd options settings f →
      (stage fs wd options settings).1 = .error f ∧ (stage fs wd options settings).2.1 = fs) ∧
    (∀ rule, (isFilteredOut options settings rule = true ∨
        ∃ pattern, Pattern.parse rule.pattern = .ok pattern ∧
          (fs.isDirectory wd (options.packageFolder.join rule.src) = false ∨
            fs.findMatching wd (options.packageFolder.join rule.src) pattern = .ok [])) →
      ∀ f, ¬Fault fs wd options settings rule f) ∧
    (∀ base pattern, fs.isDirectory wd base = true →
      ((∃ cause, fs.findMatching wd base pattern = .error cause) ↔ ¬fs.TreeReadable wd base)) ∧
    (SourcesReadable fs wd options settings →
      ((∃ f, Refusal fs wd options settings f) ↔
        (∃ rule ∈ options.rules, ¬Path.Same rule.dst runtimeDir) ∨
          fs.isDirectory wd options.packageFolder = false ∨
          ∃ rule ∈ options.rules, isFilteredOut options settings rule = false ∧
            ∃ e, Pattern.parse rule.pattern = .error e) ∧
      ∀ rule ∈ options.rules, ∀ f, Fault fs wd options settings rule f ↔
        isFilteredOut options settings rule = false ∧
          ∃ e, Pattern.parse rule.pattern = .error e ∧ f = .config (.badPattern rule.pattern e)) :=
  ⟨fun _ => survey_error_iff, fun _ h => stage_of_survey_error (survey_error_iff.2 h),
    fun _ h _ => not_fault h, fun _ _ => findMatching_error_iff,
    fun h => ⟨h.refused_iff, fun _ hrule _ => h.fault_iff hrule⟩⟩

/-- Rules with several faults. There is no directory for the first; the second is for another system, and its
pattern is malformed, like those of the others. There is no directory for the third. -/
def faulty : ImportOptions where
  packageFolder := ⟨[0x70]⟩
  destRoot := ⟨[0x78]⟩
  rules := [⟨.unix, "*", ⟨[0x6E]⟩, runtimeDir⟩, ⟨.windows, "[", ⟨[0x6C]⟩, runtimeDir⟩,
    ⟨.unix, "[", ⟨[0x6E]⟩, runtimeDir⟩, ⟨.unix, "**a", ⟨[0x6C]⟩, runtimeDir⟩]
  filterHostPlatform := true

/-- The third rule is refused. -/
theorem stage_refused_faulty :
    SourcesReadable doubled [] faulty .detect ∧
      Refusal doubled [] faulty .detect (.config (.badPattern "[" ⟨0, .invalidRange⟩)) ∧
      (stage doubled [] faulty .detect).1 = .error (.config (.badPattern "[" ⟨0, .invalidRange⟩)) ∧
      (stage doubled [] faulty .detect).2.1 = doubled ∧
      ¬Fault doubled [] faulty .detect ⟨.windows, "[", ⟨[0x6C]⟩, runtimeDir⟩
        (.config (.badPattern "[" ⟨0, .invalidRange⟩)) ∧
      Fault doubled [] faulty .detect ⟨.unix, "**a", ⟨[0x6C]⟩, runtimeDir⟩
        (.config (.badPattern "**a" ⟨2, .recursiveWildcards⟩)) := by
  have hreadable : SourcesReadable doubled [] faulty .detect := by
    refine ⟨fun _ => by decide +kernel, fun rule hrule hactive hdir => ?_⟩
    have hplace : doubled.locate [] (faulty.packageFolder.join rule.src) = .ok [[0x70], [0x6C]] := by
      revert rule
      decide +kernel
    refine FileSystem.treeReadable_of_open (m := .folder) hplace (by decide +kernel) (by decide +kernel)
      (by decide +kernel) ?_
    revert rule
    decide +kernel
  obtain ⟨hsurvey, hstage, hharmless, -, hreaches⟩ := stage_refused doubled [] faulty .detect
  have hrefusal := (hsurvey (.config (.badPattern "[" ⟨0, .invalidRange⟩))).1 (by decide +kernel)
  obtain ⟨-, hfault⟩ := hreaches hreadable
  exact ⟨hreadable, hrefusal, (hstage _ hrefusal).1, (hstage _ hrefusal).2,
    hharmless _ (.inl (by decide +kernel)) _,
    (hfault _ (by decide) _).2 ⟨by decide +kernel, _, by decide +kernel, rfl⟩⟩

/-- A package `p` with the directory `l`, and in that nothing but the empty directory `s`. -/
def nested : FileSystem :=
  ((FileSystem.empty.put [[0x70]] (.directory .folder)).put [[0x70], [0x6C]] (.directory .folder)).put
    [[0x70], [0x6C], [0x73]] (.directory .folder)

/-- A rule that spells the directory `l` with as many slashes as a path may have. No path with its spelling leads
below it. -/
def overlong : ImportOptions where
  packageFolder := ⟨[0x70]⟩
  destRoot := ⟨[0x78]⟩
  rules := [⟨.unix, "*", ⟨[0x6C] ++ List.replicate (FileSystem.maxPath - 4) Path.slash⟩, runtimeDir⟩]
  filterHostPlatform := false

/-- **That all directories of the package can be read is not enough**: a rule may spell its own so that the walk
cannot read what is in it. -/
theorem stage_refused_readable :
    ¬∀ (fs : FileSystem) (wd : Location) (options : ImportOptions) (settings : Settings),
      (fs.isDirectory wd options.packageFolder = true → fs.TreeReadable wd options.packageFolder) →
      ((∃ f, (survey fs wd options settings).1 = .error f) ↔
        (∃ rule ∈ options.rules, ¬Path.Same rule.dst runtimeDir) ∨
          fs.isDirectory wd options.packageFolder = false ∨
          ∃ rule ∈ options.rules, isFilteredOut options settings rule = false ∧
            ∃ e, Pattern.parse rule.pattern = .error e) := by
  intro h
  have hplace : nested.locate [] overlong.packageFolder = .ok [[0x70]] := by decide +kernel
  have hreadable : nested.TreeReadable [] overlong.packageFolder :=
    FileSystem.treeReadable_of_open (m := .folder) hplace (by decide +kernel) (by decide +kernel)
      (by decide +kernel) (by decide +kernel)
  have hpatterns : ∀ rule ∈ overlong.rules, Pattern.parse rule.pattern = .ok ⟨[.anySequence]⟩ := by
    decide +kernel
  have herror {x : Except Failure Survey} (hx : x.isOk = false) : ∃ f, x = .error f := by
    cases x with
    | error f => exact ⟨f, rfl⟩
    | ok s => cases hx
  have hfails : (survey nested [] overlong .detect).1.isOk = false := by decide +kernel
  rcases (h nested [] overlong .detect fun _ => hreadable).1 (herror hfails) with
    htarget | hfolder | hrule
  · exact absurd htarget (by decide +kernel)
  · exact absurd hfolder (by decide +kernel)
  · obtain ⟨rule, hrule, -, e, he⟩ := hrule
    rw [hpatterns rule hrule] at he
    cases he

end ConsumerCheck.Staging
