import ConsumerCheck.Proofs.Staging.CarryOut
import ConsumerCheck.Proofs.Staging.Layout

/-!
# Which file goes to which place

A survey looks at the rules one after the other. A rule that is in force supplies a place if it finds a file
for it, and the last rule that does decides where the file is taken from. How a rule spells the
runtime directory plays no part in which place it is.

* `Plan.source?` — the source that a plan has for a place;
* `Staging.Finds`, `Staging.Supplies` — what a rule finds, and the places that it has a file for;
* `Staging.LastSupplies` — the last of some rules that has a file for a place.

Principal results: `source?_insert` — a plan as a map from places to sources; `survey_source?` — the
source of a place is that of the last rule which supplies it; `stage_copied` — what staging reports.
-/

namespace ConsumerCheck

/-! ## A plan as a map -/

namespace Plan

variable {plan : Plan} {dest source place : Path}

/-- The source that a plan has for a place, however the place is spelled. -/
def source? (plan : Plan) (place : Path) : Option Path :=
  (plan.find? fun e => decide (Path.Same e.1 place)).map (·.2)

theorem source?_cons (e : Path × Path) (plan : Plan) (place : Path) :
    source? (e :: plan) place = if Path.Same e.1 place then some e.2 else source? plan place := by
  unfold source?
  by_cases h : Path.Same e.1 place
  · rw [List.find?_cons_of_pos (by simpa using h), if_pos h]
    rfl
  · rw [List.find?_cons_of_neg (by simpa using h), if_neg h]

/-- A file that is planned for a place replaces the one that was planned for it, and no other. -/
theorem source?_insert (dest source : Path) (plan : Plan) (place : Path) :
    source? (Plan.insert dest source plan) place =
      if Path.Same dest place then some source else source? plan place := by
  induction plan with
  | nil => exact source?_cons ..
  | cons head rest ih =>
    obtain ⟨d, s⟩ := head
    unfold Plan.insert
    split
    · rename_i hsame
      simp only [source?_cons, Path.Same, hsame]
      split <;> rfl
    · rename_i hne
      split
      · exact source?_cons ..
      · rw [source?_cons, ih, source?_cons]
        -- the entry that stays in front has another place
        by_cases hd : Path.Same d place
        · have hdest : ¬Path.Same dest place := fun hdest => hne (hd.trans hdest.symm)
          rw [if_pos hd, if_neg hdest, if_pos hd]
        · rw [if_neg hd, if_neg hd]

theorem mem_of_source? (h : plan.source? place = some source) :
    ∃ p, (p, source) ∈ plan ∧ Path.Same p place := by
  obtain ⟨e, he, rfl⟩ := Option.map_eq_some_iff.1 h
  exact ⟨e.1, List.mem_of_find?_eq_some he, by simpa using List.find?_some he⟩

/-- In a plan that is in order, each entry is the only one of its place. -/
theorem Sorted.source?_eq (h : Sorted plan) {e : Path × Path} (he : e ∈ plan) :
    plan.source? e.1 = some e.2 := by
  induction plan with
  | nil => cases he
  | cons head rest ih =>
    unfold Sorted at h
    rw [List.map_cons, List.pairwise_cons] at h
    rw [source?_cons]
    rcases List.mem_cons.1 he with rfl | he
    · exact if_pos rfl
    · have hne : ¬Path.Same head.1 e.1 :=
        FileSystem.components_ne_of_before (h.1 _ (List.mem_map_of_mem he))
      rw [if_neg hne]
      exact ih h.2 he

theorem mem_places_iff : (∃ p ∈ plan.map (·.1), Path.Same p place) ↔
    ∃ source, plan.source? place = some source := by
  constructor
  · rintro ⟨p, hp, hsame⟩
    obtain ⟨e, he, rfl⟩ := List.mem_map.1 hp
    rw [← Option.isSome_iff_exists, source?, Option.isSome_map, List.find?_isSome]
    exact ⟨e, he, by simpa using hsame⟩
  · rintro ⟨source, h⟩
    obtain ⟨p, hp, hsame⟩ := mem_of_source? h
    exact ⟨p, List.mem_map_of_mem hp, hsame⟩

end Plan

namespace Staging

variable {fs fs' : FileSystem} {wd : Location} {options : ImportOptions} {settings : Settings}
  {rule : CopyRule} {rules : List CopyRule} {s s' : Survey} {events : List Event}
  {place source rel : Path}

/-! ## What a rule supplies -/

/-- The rule is in force, and a walk of its directory finds the file `rel`. -/
structure Finds (fs : FileSystem) (wd : Location) (options : ImportOptions) (settings : Settings)
    (rule : CopyRule) (rel : Path) : Prop where
  active : isFilteredOut options settings rule = false
  directory : fs.isDirectory wd (options.packageFolder.join rule.src) = true
  found : ∃ pattern paths, Pattern.parse rule.pattern = .ok pattern ∧
    fs.findMatching wd (options.packageFolder.join rule.src) pattern = .ok paths ∧ rel ∈ paths

/-- The rule finds a file for the place, at `source`. -/
def Supplies (fs : FileSystem) (wd : Location) (options : ImportOptions) (settings : Settings)
    (rule : CopyRule) (place source : Path) : Prop :=
  ∃ rel, Finds fs wd options settings rule rel ∧ Path.Same (rule.dst.join rel) place ∧
    source = (options.packageFolder.join rule.src).join rel

/-- Of the rules, the last one that supplies the place supplies it from `source`. -/
def LastSupplies (fs : FileSystem) (wd : Location) (options : ImportOptions) (settings : Settings)
    (rules : List CopyRule) (place source : Path) : Prop :=
  ∃ front rule back, rules = front ++ rule :: back ∧
    Supplies fs wd options settings rule place source ∧
    ∀ r ∈ back, ∀ other, ¬Supplies fs wd options settings r place other

theorem LastSupplies.cons (h : LastSupplies fs wd options settings rules place source)
    (rule : CopyRule) : LastSupplies fs wd options settings (rule :: rules) place source := by
  obtain ⟨front, last, back, rfl, hlast, hback⟩ := h
  exact ⟨rule :: front, last, back, rfl, hlast, hback⟩

/-- What a rule finds is named by names. -/
theorem Finds.names (h : Finds fs wd options settings rule rel) :
    ∃ names, names ≠ [] ∧ names.all isName = true ∧ rel = (⟨[]⟩ : Path).extend names := by
  obtain ⟨pattern, paths, -, hfound, hrel⟩ := h.found
  obtain ⟨names, hne, hnames, hpath, -⟩ := FileSystem.findMatching_names h.directory hfound hrel
  exact ⟨names, hne, hnames, hpath⟩

/-- What is found below a directory has the components of the directory in front of its own. -/
theorem Finds.components_join (h : Finds fs wd options settings rule rel) (p : Path) :
    (p.join rel).components = p.components ++ rel.components := by
  obtain ⟨names, hne, hnames, rfl⟩ := h.names
  rw [Path.join_extend_nil p hnames hne, Path.components_extend p hnames,
    Path.components_extend ⟨[]⟩ hnames]
  rfl

/-- All spellings of the runtime directory lead to the same place. -/
theorem Finds.same_join (h : Finds fs wd options settings rule rel) {p q : Path}
    (hsame : Path.Same p q) : Path.Same (p.join rel) (q.join rel) := by
  unfold Path.Same at hsame ⊢
  rw [h.components_join, h.components_join, hsame]

/-- Rules for one directory that have a file for the same place have found it under the same names. -/
theorem Finds.unique {rule' : CopyRule} {rel' : Path} (h : Finds fs wd options settings rule rel)
    (h' : Finds fs wd options settings rule' rel') (hdst : Path.Same rule.dst rule'.dst)
    (hsame : Path.Same (rule.dst.join rel) (rule'.dst.join rel')) : rel = rel' := by
  have hcomponents : rule.dst.components ++ rel.components = rule'.dst.components ++ rel'.components := by
    rw [← h.components_join, ← h'.components_join]
    exact hsame
  have hrel : rel.components = rel'.components := by
    rw [hdst] at hcomponents
    exact List.append_cancel_left hcomponents
  obtain ⟨names, -, hnames, rfl⟩ := h.names
  obtain ⟨names', -, hnames', rfl⟩ := h'.names
  rw [Path.extend_injective _ hnames hnames' hrel]

/-- A rule has at most one file for a place. -/
theorem Supplies.unique {other : Path} (h : Supplies fs wd options settings rule place source)
    (h' : Supplies fs wd options settings rule place other) : source = other := by
  obtain ⟨rel, hfinds, hsame, rfl⟩ := h
  obtain ⟨rel', hfinds', hsame', rfl⟩ := h'
  rw [hfinds.unique hfinds' rfl (hsame.trans hsame'.symm)]

theorem LastSupplies.unique {other : Path}
    (h : LastSupplies fs wd options settings rules place source)
    (h' : LastSupplies fs wd options settings rules place other) : source = other := by
  obtain ⟨front, rule, back, rfl, hlast, hback⟩ := h
  obtain ⟨front', rule', back', hrules, hlast', hback'⟩ := h'
  -- the two splits are at one rule, or the rule of one is behind that of the other
  rcases List.append_eq_append_iff.1 hrules with ⟨between, -, htail⟩ | ⟨between, -, htail⟩
  · cases between with
    | nil =>
      cases htail
      exact hlast.unique hlast'
    | cons r between =>
      rw [List.cons_append, List.cons.injEq] at htail
      exact absurd hlast' (hback rule' (htail.2 ▸ List.mem_append_cons_self) other)
  · cases between with
    | nil =>
      cases htail
      exact hlast.unique hlast'
    | cons r between =>
      rw [List.cons_append, List.cons.injEq] at htail
      exact absurd hlast (hback' rule (htail.2 ▸ List.mem_append_cons_self) source)

/-! ## The fold over the rules -/

theorem foldl_insert_source? (dst src : Path) (found : List Path) (plan : Plan) (place : Path) :
    (∃ rel ∈ found, Path.Same (dst.join rel) place ∧
      (found.foldl (fun plan p => Plan.insert (dst.join p) (src.join p) plan) plan).source? place =
        some (src.join rel)) ∨
    ((∀ rel ∈ found, ¬Path.Same (dst.join rel) place) ∧
      (found.foldl (fun plan p => Plan.insert (dst.join p) (src.join p) plan) plan).source? place =
        plan.source? place) := by
  induction found generalizing plan with
  | nil => exact .inr ⟨by simp, rfl⟩
  | cons p found ih =>
    rw [List.foldl_cons]
    rcases ih (Plan.insert (dst.join p) (src.join p) plan) with
      ⟨rel, hrel, hsame, hsource⟩ | ⟨hnone, hsource⟩
    · exact .inl ⟨rel, List.mem_cons_of_mem _ hrel, hsame, hsource⟩
    · rw [Plan.source?_insert] at hsource
      by_cases hp : Path.Same (dst.join p) place
      · rw [if_pos hp] at hsource
        exact .inl ⟨p, List.mem_cons_self, hp, hsource⟩
      · rw [if_neg hp] at hsource
        refine .inr ⟨?_, hsource⟩
        intro rel hrel
        rcases List.mem_cons.1 hrel with rfl | hrel
        · exact hp
        · exact hnone rel hrel

/-- After one rule, a place that the rule supplies has its source from there; any other has the one it
had. -/
theorem surveyRule_source? (h : surveyRule fs wd options settings rule s = (.ok s', events))
    (place : Path) :
    (∃ source, Supplies fs wd options settings rule place source ∧
      s'.plan.source? place = some source) ∨
    ((∀ source, ¬Supplies fs wd options settings rule place source) ∧
      s'.plan.source? place = s.plan.source? place) := by
  unfold surveyRule at h
  split at h
  · rename_i hfiltered
    cases h
    refine .inr ⟨?_, rfl⟩
    rintro source ⟨rel, hfinds, -⟩
    exact absurd hfiltered (by simp [hfinds.active])
  rename_i hactive
  split at h
  · cases h
  rename_i pattern hpattern
  dsimp only at h
  split at h
  · rename_i hdir
    split at h
    · cases h
    rename_i found hfound
    cases h
    have hfinds : ∀ rel, Finds fs wd options settings rule rel ↔ rel ∈ found := by
      intro rel
      constructor
      · rintro ⟨-, -, pattern', paths, hpattern', hpaths, hrel⟩
        rw [hpattern, Except.ok.injEq] at hpattern'
        subst hpattern'
        rw [hfound, Except.ok.injEq] at hpaths
        exact hpaths ▸ hrel
      · intro hrel
        exact ⟨by simpa using hactive, hdir, pattern, found, hpattern, hfound, hrel⟩
    rcases foldl_insert_source? rule.dst (options.packageFolder.join rule.src) found s.plan place with
      ⟨rel, hrel, hsame, hsource⟩ | ⟨hnone, hsource⟩
    · exact .inl ⟨_, ⟨rel, (hfinds rel).2 hrel, hsame, rfl⟩, hsource⟩
    · refine .inr ⟨?_, hsource⟩
      rintro source ⟨rel, hrel, hsame, -⟩
      exact hnone rel ((hfinds rel).1 hrel) hsame
  · rename_i hdir
    cases h
    refine .inr ⟨?_, rfl⟩
    rintro source ⟨rel, hfinds, -⟩
    exact hdir hfinds.directory

theorem surveyRules_cons_result (rule : CopyRule) (rules : List CopyRule) (s : Survey) :
    (surveyRules fs wd options settings (rule :: rules) s).1 =
      (surveyRule fs wd options settings rule s).1.bind
        fun next => (surveyRules fs wd options settings rules next).1 := by
  rw [surveyRules]
  rcases surveyRule fs wd options settings rule s with ⟨_ | next, events⟩ <;> rfl

/-- The rules behind others are surveyed from where those lead, if they lead anywhere. -/
theorem surveyRules_append (rules more : List CopyRule) (s : Survey) :
    (surveyRules fs wd options settings (rules ++ more) s).1 =
      (surveyRules fs wd options settings rules s).1.bind
        fun s' => (surveyRules fs wd options settings more s').1 := by
  induction rules generalizing s with
  | nil => rfl
  | cons rule rules ih =>
    rw [List.cons_append, surveyRules_cons_result, surveyRules_cons_result]
    cases (surveyRule fs wd options settings rule s).1 with
    | error f => rfl
    | ok next => exact ih next

theorem surveyRules_cons
    (h : surveyRules fs wd options settings (rule :: rules) s = (.ok s', events)) :
    ∃ next first more, surveyRule fs wd options settings rule s = (.ok next, first) ∧
      surveyRules fs wd options settings rules next = (.ok s', more) := by
  unfold surveyRules at h
  split at h
  · cases h
  · rename_i next first hrule
    dsimp only at h
    cases hrest : surveyRules fs wd options settings rules next with
    | mk result more =>
      rw [hrest] at h
      cases h
      exact ⟨next, first, more, hrule, hrest⟩

theorem surveyRules_source? (h : surveyRules fs wd options settings rules s = (.ok s', events))
    (place : Path) :
    (∃ source, LastSupplies fs wd options settings rules place source ∧
      s'.plan.source? place = some source) ∨
    ((∀ rule ∈ rules, ∀ source, ¬Supplies fs wd options settings rule place source) ∧
      s'.plan.source? place = s.plan.source? place) := by
  induction rules generalizing s events with
  | nil =>
    cases h
    exact .inr ⟨by simp, rfl⟩
  | cons rule rules ih =>
    obtain ⟨next, _, _, hrule, hrest⟩ := surveyRules_cons h
    rcases ih hrest with ⟨source, hlast, hsource⟩ | ⟨hnone, hsource⟩
    · exact .inl ⟨source, hlast.cons rule, hsource⟩
    -- no later rule supplies the place, so this one decides if it does
    rcases surveyRule_source? hrule place with ⟨source, hsupplies, hnext⟩ | ⟨hnot, hnext⟩
    · exact .inl ⟨source, ⟨[], rule, rules, rfl, hsupplies, hnone⟩, hsource.trans hnext⟩
    · refine .inr ⟨?_, hsource.trans hnext⟩
      intro r hr
      rcases List.mem_cons.1 hr with rfl | hr
      · exact hnot
      · exact hnone r hr

theorem survey_ok_cases (h : (survey fs wd options settings).1 = .ok s) :
    (∀ rule ∈ options.rules, Path.Same rule.dst runtimeDir) ∧
      fs.checkReadableDirectory wd options.packageFolder = .ok () ∧
      ∃ events, surveyRules fs wd options settings options.rules ⟨[], []⟩ = (.ok s, events) := by
  unfold survey at h
  split at h
  · cases h
  rename_i hforeign
  split at h
  · cases h
  rename_i hreadable
  refine ⟨?_, hreadable, _, Prod.ext h rfl⟩
  intro rule hrule
  unfold Path.Same
  simpa using List.find?_eq_none.1 hforeign rule hrule

/-- **The source that a survey plans for a place is the one of the last rule that supplies the
place.** -/
theorem survey_source? (h : (survey fs wd options settings).1 = .ok s) (place source : Path) :
    s.plan.source? place = some source ↔
      LastSupplies fs wd options settings options.rules place source := by
  obtain ⟨-, -, events, hrules⟩ := survey_ok_cases h
  rcases surveyRules_source? hrules place with ⟨planned, hlast, hsource⟩ | ⟨hnone, hsource⟩
  · constructor
    · intro hplanned
      rw [hsource, Option.some.injEq] at hplanned
      exact hplanned ▸ hlast
    · intro hother
      rw [hsource, Option.some.injEq]
      exact hlast.unique hother
  · constructor
    · intro hplanned
      rw [hsource] at hplanned
      cases hplanned
    · rintro ⟨front, rule, back, hrules, hsupplies, -⟩
      exact absurd hsupplies (hnone rule (hrules ▸ List.mem_append_cons_self) source)

theorem survey_supplied_iff (h : (survey fs wd options settings).1 = .ok s) (place : Path) :
    (∃ source, s.plan.source? place = some source) ↔
      ∃ rule ∈ options.rules, ∃ source, Supplies fs wd options settings rule place source := by
  constructor
  · rintro ⟨source, hsource⟩
    obtain ⟨front, rule, back, hrules, hsupplies, -⟩ := (survey_source? h place source).1 hsource
    exact ⟨rule, hrules ▸ List.mem_append_cons_self, source, hsupplies⟩
  · rintro ⟨rule, hrule, source, hsupplies⟩
    obtain ⟨-, -, events, hrules⟩ := survey_ok_cases h
    rcases surveyRules_source? hrules place with ⟨planned, -, hplanned⟩ | ⟨hnone, -⟩
    · exact ⟨planned, hplanned⟩
    · exact absurd hsupplies (hnone rule hrule source)

/-- Each entry of a plan is supplied by a rule. -/
theorem supplied_of_planned (h : (survey fs wd options settings).1 = .ok s) {e : Path × Path}
    (he : e ∈ s.plan) :
    ∃ rule ∈ options.rules, Supplies fs wd options settings rule e.1 e.2 := by
  obtain ⟨front, rule, back, hrules, hsupplies, -⟩ :=
    (survey_source? h e.1 e.2).1 ((survey_sound h).sorted.source?_eq he)
  exact ⟨rule, hrules ▸ List.mem_append_cons_self, hsupplies⟩

/-! ## What is reported -/

variable {report : ImportReport}

/-- **Staging reports, in the order of their components and each once, the places below the runtime
directory for which a rule in force finds a file**, and for each of them the last such rule decides
which file it is. -/
theorem stage_copied (h : stage fs wd options settings = (.ok report, fs', events)) :
    report.copied.Pairwise (fun p q => FileSystem.before p q = true) ∧
    (∀ place, (∃ p ∈ report.copied, Path.Same p place) ↔
      ∃ rule ∈ options.rules, ∃ rel, Finds fs wd options settings rule rel ∧
        Path.Same (runtimeDir.join rel) place) ∧
    (∀ p ∈ report.copied, ∃ names, names ≠ [] ∧ names.all isName = true ∧
      p.components = .name runtimeDir.octets :: names.map .name) ∧
    ∃ s, (survey fs wd options settings).1 = .ok s ∧ report.copied = s.plan.map (·.1) ∧
      ∀ e ∈ s.plan, LastSupplies fs wd options settings options.rules e.1 e.2 := by
  obtain ⟨s, more, hsurvey, rfl, -⟩ := stage_ok_cases h
  have hsound := survey_sound hsurvey
  obtain ⟨hdst, -, -⟩ := survey_ok_cases hsurvey
  refine ⟨hsound.sorted, ?_, ?_, s, hsurvey, rfl, ?_⟩
  · intro place
    rw [Plan.mem_places_iff, survey_supplied_iff hsurvey]
    constructor
    · rintro ⟨rule, hrule, source, rel, hfinds, hsame, -⟩
      exact ⟨rule, hrule, rel, hfinds, (hfinds.same_join (hdst rule hrule)).symm.trans hsame⟩
    · rintro ⟨rule, hrule, rel, hfinds, hsame⟩
      exact ⟨rule, hrule, _, rel, hfinds, (hfinds.same_join (hdst rule hrule)).trans hsame, rfl⟩
  · intro p hp
    obtain ⟨dst, names, hsame, hne, hnames, rfl⟩ := hsound.places p hp
    refine ⟨names, hne, hnames, ?_⟩
    rw [Path.components_extend dst hnames, hsame, Path.components_runtimeDir]
    rfl
  · intro e he
    exact (survey_source? hsurvey _ _).1 (hsound.sorted.source?_eq he)

/-- A package `p` with the files `a` and `b` in its directory `l`, and another file `a` in its
directory `m`. -/
def doubled : FileSystem :=
  (((((FileSystem.empty.put [[0x70]] (.directory .folder)).put [[0x70], [0x6C]]
    (.directory .folder)).put [[0x70], [0x6C], [0x61]] (.file [1] .plain)).put
    [[0x70], [0x6C], [0x62]] (.file [2] .plain)).put [[0x70], [0x6D]] (.directory .folder)).put
    [[0x70], [0x6D], [0x61]] (.file [3] .plain)

/-- The files of both directories are staged; the second rule spells the runtime directory
`bin/.`. -/
def doubledOptions : ImportOptions where
  packageFolder := ⟨[0x70]⟩
  destRoot := ⟨Path.dot⟩
  rules := [⟨.unix, "*", ⟨[0x6C]⟩, runtimeDir⟩, ⟨.unix, "*", ⟨[0x6D]⟩, runtimeDir.join ⟨Path.dot⟩⟩]
  filterHostPlatform := false

/-- The file `a` is planned from `m`, though its place was first planned, and spelled, by the rule for
`l`. -/
def doubledSurvey : Survey where
  plan := [
    (runtimeDir.join ⟨[0x61]⟩, ⟨[0x70, 0x2F, 0x6D, 0x2F, 0x61]⟩),
    (runtimeDir.join ⟨[0x62]⟩, ⟨[0x70, 0x2F, 0x6C, 0x2F, 0x62]⟩)]
  filteredOut := []

/-- Two rules have a file for the place of `a`, and the later one supplies it. -/
theorem stage_copied_doubled :
    ∃ report fs' events, stage doubled [] doubledOptions .detect = (.ok report, fs', events) ∧
      report.copied = doubledSurvey.plan.map (·.1) ∧
      (∀ place, (∃ p ∈ report.copied, Path.Same p place) ↔
        ∃ rule ∈ doubledOptions.rules, ∃ rel, Finds doubled [] doubledOptions .detect rule rel ∧
          Path.Same (runtimeDir.join rel) place) ∧
      ∀ e ∈ doubledSurvey.plan,
        LastSupplies doubled [] doubledOptions .detect doubledOptions.rules e.1 e.2 := by
  have hok : (stage doubled [] doubledOptions .detect).1 =
      .ok ⟨doubledSurvey.plan.map (·.1), []⟩ := by
    decide +kernel
  have hsurvey : (survey doubled [] doubledOptions .detect).1 = .ok doubledSurvey := by
    decide +kernel
  have hstage := Prod.ext (y := (Except.ok _, _, _)) hok rfl
  obtain ⟨-, hplaces, -, s, hs, hcopied, hlast⟩ := stage_copied hstage
  rw [hsurvey, Except.ok.injEq] at hs
  subst hs
  exact ⟨_, _, _, hstage, hcopied, hplaces, hlast⟩

end Staging

end ConsumerCheck
