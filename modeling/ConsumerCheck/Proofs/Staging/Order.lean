import ConsumerCheck.Proofs.Staging.Sources
import Mathlib.Data.List.Forall2
import Mathlib.Data.List.Perm.Basic

/-!
# The order of the rules

The rules say what to stage, and their order says which of them wins where two have a file for one
place. It plays no part in whether the first phase fails and in which places are written. It plays none
in what is written either if rules that find the same file spell its place alike and have the same in it.

* `Staging.Reordered` — the same options with the rules in another order;
* `Staging.Apart`, `Staging.Agreeing` — what is staged is not written to, and overlapping rules agree.

Principal results: `survey_ok_iff` — when the first phase succeeds, rule by rule;
`surveyRules_induction` — what holds of a plan with every file that is put into it; `carryOut_alike` —
two plans for the same places with sources that read the same do the same; `stage_reordered`;
`stage_not_reordered` — rules that disagree.
-/

namespace ConsumerCheck

/-- No place occurs twice in a plan that is in order. -/
theorem Plan.Sorted.nodup {plan : Plan} (h : plan.Sorted) : (plan.map (·.1)).Nodup :=
  List.Pairwise.imp (fun hbefore heq => FileSystem.components_ne_of_before hbefore (congrArg _ heq)) h

namespace Staging

variable {fs fs' next : FileSystem} {wd loc q : Location} {destRoot place source source' rel : Path}
  {plan plan' rest : Plan} {options options' : ImportOptions} {settings : Settings}
  {rule : CopyRule} {rules : List CopyRule} {s s' : Survey} {events : List Event}

/-! ## When the first phase succeeds -/

/-- The rule is left out, or it has a pattern and its directory, if there is one, can be searched. -/
def Searched (fs : FileSystem) (wd : Location) (options : ImportOptions) (settings : Settings)
    (rule : CopyRule) : Prop :=
  isFilteredOut options settings rule = true ∨
    ∃ pattern, Pattern.parse rule.pattern = .ok pattern ∧
      (fs.isDirectory wd (options.packageFolder.join rule.src) = true →
        ∃ found, fs.findMatching wd (options.packageFolder.join rule.src) pattern = .ok found)

theorem surveyRule_ok_iff : (∃ s', (surveyRule fs wd options settings rule s).1 = .ok s') ↔
    Searched fs wd options settings rule := by
  unfold surveyRule Searched
  by_cases hfiltered : isFilteredOut options settings rule = true
  · simp [hfiltered]
  rw [if_neg hfiltered]
  cases hpattern : Pattern.parse rule.pattern with
  | error e => simp [hfiltered]
  | ok pattern =>
    dsimp only
    by_cases hdir : fs.isDirectory wd (options.packageFolder.join rule.src) = true
    · rw [if_pos hdir]
      cases hfound : fs.findMatching wd (options.packageFolder.join rule.src) pattern with
      | error e => simp [hfiltered, hdir, hfound]
      | ok found => simp [hfiltered, hdir, hfound]
    · simp [hfiltered, hdir]

theorem surveyRules_ok_iff : (∃ s', (surveyRules fs wd options settings rules s).1 = .ok s') ↔
    ∀ rule ∈ rules, Searched fs wd options settings rule := by
  induction rules generalizing s with
  | nil => simp [surveyRules]
  | cons rule rules ih =>
    rw [List.forall_mem_cons, ← surveyRule_ok_iff (s := s), surveyRules_cons_result]
    cases (surveyRule fs wd options settings rule s).1 with
    | error f => simp [Except.bind]
    | ok next => simpa [Except.bind] using ih

theorem foreignRule?_eq_none_iff : foreignRule? rules = none ↔
    ∀ rule ∈ rules, Path.Same rule.dst runtimeDir := by
  simp [foreignRule?, Path.Same]

/-- The first phase succeeds if it does for each rule, and the rules are looked at in any order. -/
theorem survey_ok_iff : (∃ s, (survey fs wd options settings).1 = .ok s) ↔
    (∀ rule ∈ options.rules, Path.Same rule.dst runtimeDir) ∧
      fs.checkReadableDirectory wd options.packageFolder = .ok () ∧
      ∀ rule ∈ options.rules, Searched fs wd options settings rule := by
  rw [← foreignRule?_eq_none_iff, ← surveyRules_ok_iff (s := ⟨[], []⟩), survey]
  cases foreignRule? options.rules with
  | some rule => simp
  | none =>
    cases fs.checkReadableDirectory wd options.packageFolder with
    | error e => simp
    | ok u => simp

/-! ## What is planned -/

theorem surveyRule_induction {motive : Plan → Prop}
    (h : surveyRule fs wd options settings rule s = (.ok s', events)) (hs : motive s.plan)
    (hinsert : ∀ rel plan, Finds fs wd options settings rule rel → motive plan →
      motive (Plan.insert (rule.dst.join rel) ((options.packageFolder.join rule.src).join rel) plan)) :
    motive s'.plan := by
  unfold surveyRule at h
  split at h
  · cases h
    exact hs
  rename_i hactive
  split at h
  · cases h
  rename_i pattern hpattern
  dsimp only at h
  split at h
  · rename_i hdir
    split at h
    · cases h
    rename_i found hfound
    cases h
    have hall : ∀ rel ∈ found, Finds fs wd options settings rule rel := fun rel hrel =>
      ⟨by simpa using hactive, hdir, pattern, found, hpattern, hfound, hrel⟩
    exact List.foldlRecOn found _ hs fun plan hplan rel hrel => hinsert rel plan (hall rel hrel) hplan
  · cases h
    exact hs

theorem surveyRules_induction {motive : Plan → Prop}
    (h : surveyRules fs wd options settings rules s = (.ok s', events)) (hs : motive s.plan)
    (hinsert : ∀ rule ∈ rules, ∀ rel plan, Finds fs wd options settings rule rel → motive plan →
      motive (Plan.insert (rule.dst.join rel) ((options.packageFolder.join rule.src).join rel) plan)) :
    motive s'.plan := by
  induction rules generalizing s events with
  | nil =>
    cases h
    exact hs
  | cons rule rules ih =>
    obtain ⟨next, first, more, hrule, hrest⟩ := surveyRules_cons h
    exact ih hrest (surveyRule_induction hrule hs (hinsert rule List.mem_cons_self))
      fun r hr => hinsert r (List.mem_cons_of_mem _ hr)

/-- Each place of a plan is spelled as a rule spells it that finds a file for it. -/
theorem survey_places (h : (survey fs wd options settings).1 = .ok s) {p : Path}
    (hp : p ∈ s.plan.map (·.1)) :
    ∃ rule ∈ options.rules, ∃ rel, Finds fs wd options settings rule rel ∧ p = rule.dst.join rel := by
  obtain ⟨-, -, events, hrules⟩ := survey_ok_cases h
  refine surveyRules_induction (motive := fun plan => ∀ p ∈ plan.map (·.1), ∃ rule ∈ options.rules,
    ∃ rel, Finds fs wd options settings rule rel ∧ p = rule.dst.join rel) hrules (by simp) ?_ p hp
  intro rule hrule rel plan hfinds hplan p hp
  obtain ⟨e, he, rfl⟩ := List.mem_map.1 hp
  rcases List.mem_cons.1 (Plan.mem_insert he).1 with heq | hmem
  · exact ⟨rule, hrule, rel, hfinds, heq⟩
  · exact hplan _ hmem

/-! ## Rules in another order -/

/-- The same options, with the rules in another order. -/
structure Reordered (options options' : ImportOptions) : Prop where
  packageFolder : options'.packageFolder = options.packageFolder
  destRoot : options'.destRoot = options.destRoot
  filterHostPlatform : options'.filterHostPlatform = options.filterHostPlatform
  rules : options.rules.Perm options'.rules

namespace Reordered

theorem symm (h : Reordered options options') : Reordered options' options :=
  ⟨h.packageFolder.symm, h.destRoot.symm, h.filterHostPlatform.symm, h.rules.symm⟩

theorem filtered (h : Reordered options options') (settings : Settings) (rule : CopyRule) :
    isFilteredOut options' settings rule = isFilteredOut options settings rule := by
  rw [isFilteredOut, h.filterHostPlatform, isFilteredOut]

theorem finds (h : Reordered options options') (hfinds : Finds fs wd options settings rule rel) :
    Finds fs wd options' settings rule rel := by
  obtain ⟨hactive, hdir, hfound⟩ := hfinds
  rw [← h.filtered] at hactive
  rw [← h.packageFolder] at hdir hfound
  exact ⟨hactive, hdir, hfound⟩

theorem searched (h : Reordered options options') (hsearched : Searched fs wd options settings rule) :
    Searched fs wd options' settings rule := by
  unfold Searched at hsearched ⊢
  rw [h.filtered, h.packageFolder]
  exact hsearched

/-- The first phase fails in any order or in none. -/
theorem survey_ok (h : Reordered options options')
    (hok : ∃ s, (survey fs wd options settings).1 = .ok s) :
    ∃ s, (survey fs wd options' settings).1 = .ok s := by
  obtain ⟨hdst, hreadable, hsearched⟩ := survey_ok_iff.1 hok
  refine survey_ok_iff.2 ⟨fun rule hrule => hdst rule (h.rules.mem_iff.2 hrule), ?_,
    fun rule hrule => h.searched (hsearched rule (h.rules.mem_iff.2 hrule))⟩
  rw [h.packageFolder]
  exact hreadable

/-- The same places are planned in any order. -/
theorem places (h : Reordered options options') (hs : (survey fs wd options settings).1 = .ok s)
    (hs' : (survey fs wd options' settings).1 = .ok s')
    (hplace : ∃ p ∈ s.plan.map (·.1), Path.Same p place) :
    ∃ p ∈ s'.plan.map (·.1), Path.Same p place := by
  rw [Plan.mem_places_iff, survey_supplied_iff hs] at hplace
  obtain ⟨rule, hrule, source, rel, hfinds, hsame, hsource⟩ := hplace
  rw [Plan.mem_places_iff, survey_supplied_iff hs']
  exact ⟨rule, h.rules.mem_iff.1 hrule, _, rel, h.finds hfinds, hsame, rfl⟩

end Reordered

/-! ## Rules that agree -/

/-- The files that the rules find are not written to. -/
def Apart (fs : FileSystem) (wd : Location) (options : ImportOptions) (settings : Settings) : Prop :=
  ∀ s, (survey fs wd options settings).1 = .ok s → ∀ rule ∈ options.rules, ∀ rel,
    Finds fs wd options settings rule rel → ∀ loc,
    fs.locate wd ((options.packageFolder.join rule.src).join rel) = .ok loc →
    ¬Written wd options.destRoot s.plan fs loc

/-- Rules that find files under the same names spell the places of these alike, and find the same in
them. -/
structure Agreeing (fs : FileSystem) (wd : Location) (options : ImportOptions) (settings : Settings) :
    Prop where
  spelled : ∀ rule ∈ options.rules, ∀ rule' ∈ options.rules, ∀ rel,
    Finds fs wd options settings rule rel → Finds fs wd options settings rule' rel →
    rule.dst = rule'.dst
  same : ∀ rule ∈ options.rules, ∀ rule' ∈ options.rules, ∀ rel,
    Finds fs wd options settings rule rel → Finds fs wd options settings rule' rel →
    fs.stat wd ((options.packageFolder.join rule.src).join rel) =
      fs.stat wd ((options.packageFolder.join rule'.src).join rel)

theorem Agreeing.reordered (hagree : Agreeing fs wd options settings)
    (h : Reordered options options') : Agreeing fs wd options' settings where
  spelled rule hrule rule' hrule' rel hfinds hfinds' :=
    hagree.spelled rule (h.rules.mem_iff.2 hrule) rule' (h.rules.mem_iff.2 hrule') rel
      (h.symm.finds hfinds) (h.symm.finds hfinds')
  same rule hrule rule' hrule' rel hfinds hfinds' := by
    rw [h.packageFolder]
    exact hagree.same rule (h.rules.mem_iff.2 hrule) rule' (h.rules.mem_iff.2 hrule') rel
      (h.symm.finds hfinds) (h.symm.finds hfinds')

section Plans

variable (hagree : Agreeing fs wd options settings) (h : Reordered options options')
  (hs : (survey fs wd options settings).1 = .ok s)
  (hs' : (survey fs wd options' settings).1 = .ok s')
include hagree h hs hs'

theorem place_mem_of_agreeing {p : Path} (hp : p ∈ s.plan.map (·.1)) : p ∈ s'.plan.map (·.1) := by
  obtain ⟨rule, hrule, rel, hfinds, rfl⟩ := survey_places hs hp
  obtain ⟨p', hp', hsame⟩ := h.places hs hs' ⟨_, hp, rfl⟩
  obtain ⟨rule', hrule', rel', hfinds', rfl⟩ := survey_places hs' hp'
  have hrule' := h.rules.mem_iff.2 hrule'
  have hfinds' := h.symm.finds hfinds'
  obtain ⟨hdst, -⟩ := survey_ok_cases hs
  obtain rfl := hfinds'.unique hfinds ((hdst rule' hrule').trans (hdst rule hrule).symm) hsame
  rw [hagree.spelled rule hrule rule' hrule' rel' hfinds hfinds']
  exact hp'

/-- Where rules agree on how a place is spelled, the same places are planned, spelled the same. -/
theorem places_eq_of_agreeing : s.plan.map (·.1) = s'.plan.map (·.1) := by
  have hsorted : s.plan.Sorted := (survey_sound hs).sorted
  have hsorted' : s'.plan.Sorted := (survey_sound hs').sorted
  have hperm : (s.plan.map (·.1)).Perm (s'.plan.map (·.1)) := by
    rw [List.perm_ext_iff_of_nodup hsorted.nodup hsorted'.nodup]
    exact fun p => ⟨place_mem_of_agreeing hagree h hs hs',
      place_mem_of_agreeing (hagree.reordered h) h.symm hs' hs⟩
  refine hperm.eq_of_pairwise ?_ hsorted hsorted'
  intro p q _ _ hpq hqp
  exact absurd rfl (FileSystem.components_ne_of_before (FileSystem.before_trans hpq hqp))

/-- Where rules agree on what they find, the sources of a place read the same. -/
theorem stat_eq_of_agreeing {e e' : Path × Path} (he : e ∈ s.plan) (he' : e' ∈ s'.plan)
    (hplace : e.1 = e'.1) : fs.stat wd e.2 = fs.stat wd e'.2 := by
  obtain ⟨rule, hrule, rel, hfinds, hsame, hsource⟩ := supplied_of_planned hs he
  obtain ⟨rule', hrule', rel', hfinds', hsame', hsource'⟩ := supplied_of_planned hs' he'
  have hrule' := h.rules.mem_iff.2 hrule'
  have hfinds' := h.symm.finds hfinds'
  obtain ⟨hdst, -⟩ := survey_ok_cases hs
  rw [← hplace] at hsame'
  obtain rfl := hfinds.unique hfinds' ((hdst rule hrule).trans (hdst rule' hrule').symm)
    (hsame.trans hsame'.symm)
  rw [hsource, hsource', h.packageFolder]
  exact hagree.same rule hrule rule' hrule' rel hfinds hfinds'

end Plans

/-! ## Plans with sources that read the same -/

/-- Two sources read the same, and are not written to while a plan is carried out. -/
def Alike (wd : Location) (destRoot : Path) (plan : Plan) (fs : FileSystem) (source source' : Path) :
    Prop :=
  ∃ loc loc' contents permissions,
    fs.locate wd source = .ok loc ∧ fs.get? loc = some (.file contents permissions) ∧
    fs.locate wd source' = .ok loc' ∧ fs.get? loc' = some (.file contents permissions) ∧
    ¬Written wd destRoot plan fs loc ∧ ¬Written wd destRoot plan fs loc'

theorem Carried.untouched (h : Carried wd destRoot place source fs next)
    (hq : ¬Written wd destRoot ((place, source) :: rest) fs q) : fs.Untouched next q :=
  carryOut_frame (h.carryOut_cons []) fun hw => hq (hw.append rest)

/-- What reads the same before an entry does so after it. -/
theorem Alike.after {first second : Path} (hcarried : Carried wd destRoot place source fs next)
    (hfs : fs.Consistent) (h : Alike wd destRoot ((place, source) :: rest) fs first second) :
    Alike wd destRoot rest next first second := by
  obtain ⟨loc, loc', contents, permissions, hlocate, hfile, hlocate', hfile', hnot, hnot'⟩ := h
  have hkeeps := (hcarried.keeps hfs).2.1
  have hkept : ∀ {q}, fs.get? q = some (.file contents permissions) →
      ¬Written wd destRoot ((place, source) :: rest) fs q →
      next.get? q = some (.file contents permissions) := by
    intro q hq hw
    rcases hcarried.untouched hw with hsame | ⟨hnone, -⟩
    · rw [hsame, hq]
    · rw [hq] at hnone
      cases hnone
  exact ⟨loc, loc', contents, permissions, hkeeps.locate hlocate, hkept hfile hnot,
    hkeeps.locate hlocate', hkept hfile' hnot', fun hw => hnot (.tail hcarried hw),
    fun hw => hnot' (.tail hcarried hw)⟩

/-- A copy of what reads the same is the same copy, and fails in the same way. -/
theorem Alike.copyFile_eq (h : Alike wd destRoot ((place, source) :: rest) fs source source')
    {made : FileSystem} (hparent : makeParent fs wd (destRoot.join place) = (.ok (), made)) :
    made.copyFile wd source (destRoot.join place) =
      made.copyFile wd source' (destRoot.join place) := by
  obtain ⟨loc, loc', contents, permissions, hlocate, hfile, hlocate', hfile', hnot, hnot'⟩ := h
  have hgrown := makeParent_grown hparent
  have hmade := hgrown.kept hfile
  have hmade' := hgrown.kept hfile'
  have hcontents : made.contentsAt loc = made.contentsAt loc' := by
    simp only [FileSystem.contentsAt, hmade, hmade']
  unfold FileSystem.copyFile FileSystem.copyEnds
  rw [FileSystem.copySource_of_file (hgrown.keeps.locate hlocate) hmade,
    FileSystem.copySource_of_file (hgrown.keeps.locate hlocate') hmade']
  by_cases hread : permissions.mayRead = true
  · rw [if_pos hread, if_pos hread]
    cases htarget : made.target wd (destRoot.join place) with
    | error e => rfl
    | ok target =>
      obtain ⟨hcopy, hpart⟩ := FileSystem.copy_congr (fun hq => hnot (.head hparent htarget hq))
        (fun hq => hnot' (.head hparent htarget hq)) hcontents permissions
      simp only [bind, Except.bind, FileSystem.breakOff?, hcontents, hcopy, hpart]
  · rw [if_neg hread, if_neg hread]

/-- **Two plans for the same places, with sources that read the same, do the same.** -/
theorem carryOut_alike (hfs : fs.Consistent)
    (h : List.Forall₂ (fun e e' => e.1 = e'.1 ∧ Alike wd destRoot plan fs e.2 e'.2) plan plan') :
    (carryOut wd destRoot plan fs).1.toOption = (carryOut wd destRoot plan' fs).1.toOption ∧
      (carryOut wd destRoot plan fs).2.1 = (carryOut wd destRoot plan' fs).2.1 := by
  induction plan generalizing fs plan' with
  | nil =>
    cases h
    exact ⟨rfl, rfl⟩
  | cons entry rest ih =>
    obtain ⟨place, source⟩ := entry
    cases h with
    | cons hentry hrest =>
      rename_i entry' rest'
      obtain ⟨place', source'⟩ := entry'
      obtain ⟨rfl, halike⟩ := hentry
      rw [carryOut, carryOut]
      dsimp only
      rcases hparent : makeParent fs wd (destRoot.join place) with ⟨_ | ⟨⟩, made⟩
      · exact ⟨rfl, rfl⟩
      dsimp only
      rw [← halike.copyFile_eq hparent]
      rcases hnext : made.copyFile wd source (destRoot.join place) with ⟨_ | ⟨⟩, next⟩
      · exact ⟨rfl, rfl⟩
      · have hcarried : Carried wd destRoot place source fs next := ⟨made, hparent, hnext⟩
        exact ih (hcarried.keeps hfs).1
          (hrest.imp fun e e' he => ⟨he.1, he.2.after hcarried hfs⟩)

/-! ## Staging in another order -/

/-- The plans for two orders of rules that agree have the same places, and sources that read the same. -/
theorem alike_of_agreeing (hagree : Agreeing fs wd options settings)
    (hapart : Apart fs wd options settings) (h : Reordered options options')
    (hs : (survey fs wd options settings).1 = .ok s)
    (hs' : (survey fs wd options' settings).1 = .ok s') :
    List.Forall₂ (fun e e' => e.1 = e'.1 ∧ Alike wd options.destRoot s.plan fs e.2 e'.2) s.plan
      s'.plan := by
  have hplaces : List.Forall₂ (fun e e' => e.1 = e'.1) s.plan s'.plan := by
    have heq := places_eq_of_agreeing hagree h hs hs'
    rwa [← List.forall₂_eq_eq_eq, List.forall₂_map_left_iff, List.forall₂_map_right_iff] at heq
  rw [List.forall₂_iff_zip] at hplaces ⊢
  refine ⟨hplaces.1, fun {e e'} hzip => ?_⟩
  have hplace := hplaces.2 hzip
  obtain ⟨he, he'⟩ := List.of_mem_zip hzip
  have hstat := stat_eq_of_agreeing hagree h hs hs' he he' hplace
  obtain ⟨rule, hrule, rel, hfinds, -, hsource⟩ := supplied_of_planned hs he
  obtain ⟨rule', hrule', rel', hfinds', -, hsource'⟩ := supplied_of_planned hs' he'
  rw [h.packageFolder] at hsource'
  have hlocated : ∀ {source : Path} {r : CopyRule} {rel : Path}, r ∈ options.rules →
      Finds fs wd options settings r rel →
      source = (options.packageFolder.join r.src).join rel →
      ∃ loc contents permissions, fs.locate wd source = .ok loc ∧
        fs.get? loc = some (.file contents permissions) ∧
        fs.stat wd source = .ok (.file contents permissions) ∧
        ¬Written wd options.destRoot s.plan fs loc := by
    rintro source r rel hr hfinds rfl
    obtain ⟨loc, contents, permissions, hlocate, hfile⟩ := hfinds.located
    exact ⟨loc, contents, permissions, hlocate, hfile, FileSystem.stat_of_locate hlocate hfile,
      hapart s hs r hr rel hfinds loc hlocate⟩
  obtain ⟨loc, contents, permissions, hlocate, hfile, hread, hnot⟩ := hlocated hrule hfinds hsource
  obtain ⟨loc', contents', permissions', hlocate', hfile', hread', hnot'⟩ :=
    hlocated (h.rules.mem_iff.2 hrule') (h.symm.finds hfinds') hsource'
  rw [hread, hread', Except.ok.injEq] at hstat
  cases hstat
  exact ⟨hplace, loc, loc', contents, permissions, hlocate, hfile, hlocate', hfile', hnot, hnot'⟩

theorem copied_of_survey (h : (survey fs wd options settings).1 = .ok s) :
    (stage fs wd options settings).1.toOption.map (·.copied) =
      (carryOut wd options.destRoot s.plan fs).1.toOption.map fun _ => s.plan.map (·.1) := by
  rw [(stage_of_survey h).1]
  cases (carryOut wd options.destRoot s.plan fs).1 <;> rfl

/-- Rules that agree have the same outcome in any order. -/
theorem stage_eq_of_agreeing (hfs : fs.Consistent) (hapart : Apart fs wd options settings)
    (hagree : Agreeing fs wd options settings) (h : Reordered options options') :
    (stage fs wd options settings).1.toOption.map (·.copied) =
        (stage fs wd options' settings).1.toOption.map (·.copied) ∧
      (stage fs wd options settings).2.1 = (stage fs wd options' settings).2.1 := by
  cases hs : (survey fs wd options settings).1 with
  | error f =>
    cases hs' : (survey fs wd options' settings).1 with
    | error f' =>
      obtain ⟨hresult, hfiles⟩ := stage_of_survey_error hs
      obtain ⟨hresult', hfiles'⟩ := stage_of_survey_error hs'
      rw [hresult, hresult', hfiles, hfiles']
      exact ⟨rfl, rfl⟩
    | ok s' =>
      obtain ⟨s, hs''⟩ := h.symm.survey_ok ⟨s', hs'⟩
      rw [hs] at hs''
      cases hs''
  | ok s =>
    obtain ⟨s', hs'⟩ := h.survey_ok ⟨s, hs⟩
    obtain ⟨hresult, hfiles⟩ := carryOut_alike hfs (alike_of_agreeing hagree hapart h hs hs')
    rw [copied_of_survey hs, copied_of_survey hs', (stage_of_survey hs).2, (stage_of_survey hs').2,
      h.destRoot, hresult, hfiles, places_eq_of_agreeing hagree h hs hs']
    exact ⟨rfl, rfl⟩

/-- **The order of the rules decides neither whether the first phase fails nor which places are written**,
and it decides nothing about the files if rules that find the same agree on it and what they find is not
written to. -/
theorem stage_reordered (h : Reordered options options') :
    ((∃ s, (survey fs wd options settings).1 = .ok s) ↔
      ∃ s, (survey fs wd options' settings).1 = .ok s) ∧
    (∀ report report', (stage fs wd options settings).1 = .ok report →
      (stage fs wd options' settings).1 = .ok report' →
      ∀ place, (∃ p ∈ report.copied, Path.Same p place) ↔ ∃ p ∈ report'.copied, Path.Same p place) ∧
    (fs.Consistent → Apart fs wd options settings → Agreeing fs wd options settings →
      (stage fs wd options settings).1.toOption.map (·.copied) =
          (stage fs wd options' settings).1.toOption.map (·.copied) ∧
        (stage fs wd options settings).2.1 = (stage fs wd options' settings).2.1) := by
  refine ⟨⟨h.survey_ok, h.symm.survey_ok⟩, ?_, fun hfs hapart hagree =>
    stage_eq_of_agreeing hfs hapart hagree h⟩
  intro report report' hstage hstage' place
  obtain ⟨s, -, hs, rfl, -⟩ := stage_ok_cases (Prod.ext (y := (Except.ok _, _, _)) hstage rfl)
  obtain ⟨s', -, hs', rfl, -⟩ := stage_ok_cases (Prod.ext (y := (Except.ok _, _, _)) hstage' rfl)
  exact ⟨h.places hs hs', h.symm.places hs' hs⟩

/-- What is staged is not written to if a computation finds it so. -/
theorem apart_of_writes (hs : (survey fs wd options settings).1 = .ok s)
    (h : ∀ rule ∈ options.rules, ∀ rel ∈ filesFound fs wd options settings rule,
      ∀ loc ∈ (fs.locate wd ((options.packageFolder.join rule.src).join rel)).toOption,
        loc ∉ writes wd options.destRoot s.plan fs) : Apart fs wd options settings := by
  intro s' hs' rule hrule rel hfinds loc hlocate
  rw [hs, Except.ok.injEq] at hs'
  subst hs'
  rw [written_iff]
  exact h rule hrule rel (finds_iff.1 hfinds) loc (by rw [hlocate]; rfl)

/-- A package `p` with the files `a` and `b` in its directory `l`, and the same file `a` once more in its
directory `m`. -/
def mirrored : FileSystem := doubled.put [[0x70], [0x6D], [0x61]] (.file [1] .plain)

/-- The files of both directories are staged below `x`, and both rules have a file `a`. -/
def overlapping : ImportOptions where
  packageFolder := ⟨[0x70]⟩
  destRoot := ⟨[0x78]⟩
  rules := [⟨.unix, "*", ⟨[0x6C]⟩, runtimeDir⟩, ⟨.unix, "*", ⟨[0x6D]⟩, runtimeDir⟩]
  filterHostPlatform := false

/-- The same options with the last rule first. -/
def reversed (options : ImportOptions) : ImportOptions :=
  { options with rules := options.rules.reverse }

theorem reordered_reversed (options : ImportOptions) : Reordered options (reversed options) :=
  ⟨rfl, rfl, rfl, (List.reverse_perm _).symm⟩

/-- Both rules have the same in the file `a`, and it does not matter which of them wins. -/
theorem stage_reordered_mirrored :
    (stage mirrored [] overlapping .detect).1.toOption.map (·.copied) =
        some [runtimeDir.join ⟨[0x61]⟩, runtimeDir.join ⟨[0x62]⟩] ∧
      (stage mirrored [] overlapping .detect).1.toOption.map (·.copied) =
        (stage mirrored [] (reversed overlapping) .detect).1.toOption.map (·.copied) ∧
      (stage mirrored [] overlapping .detect).2.1 =
        (stage mirrored [] (reversed overlapping) .detect).2.1 := by
  have hconsistent : mirrored.Consistent := .of_plain (by decide +kernel) (by decide +kernel)
  have hsurvey : (survey mirrored [] overlapping .detect).1 = .ok doubledSurvey := by
    decide +kernel
  have hagree : ∀ rule ∈ overlapping.rules, ∀ rule' ∈ overlapping.rules,
      ∀ rel ∈ filesFound mirrored [] overlapping .detect rule,
      rel ∈ filesFound mirrored [] overlapping .detect rule' → rule.dst = rule'.dst ∧
        mirrored.stat [] ((overlapping.packageFolder.join rule.src).join rel) =
          mirrored.stat [] ((overlapping.packageFolder.join rule'.src).join rel) := by
    decide +kernel
  refine ⟨by decide +kernel, (stage_reordered (reordered_reversed overlapping)).2.2 hconsistent
    (apart_of_writes hsurvey (by decide +kernel)) ⟨?_, ?_⟩⟩
  · exact fun rule hrule rule' hrule' rel hfinds hfinds' =>
      (hagree rule hrule rule' hrule' rel (finds_iff.1 hfinds) (finds_iff.1 hfinds')).1
  · exact fun rule hrule rule' hrule' rel hfinds hfinds' =>
      (hagree rule hrule rule' hrule' rel (finds_iff.1 hfinds) (finds_iff.1 hfinds')).2

/-- One directory is staged below `x` by two rules, of which the second spells the runtime directory with so
many slashes that no path leads below it. -/
def overstretched : ImportOptions where
  packageFolder := ⟨[0x70]⟩
  destRoot := ⟨[0x78]⟩
  rules := [⟨.unix, "*", ⟨[0x6C]⟩, runtimeDir⟩,
    ⟨.unix, "*", ⟨[0x6C]⟩, ⟨runtimeDir.octets ++ List.replicate FileSystem.maxPath Path.slash⟩⟩]
  filterHostPlatform := false

/-- **The order of the rules matters where they disagree**: on what they have in a file, for then the later
rule wins, and on how they spell its place, for then the earlier rule decides how long the path is. -/
theorem stage_not_reordered :
    (¬∀ (fs : FileSystem) (wd : Location) (options options' : ImportOptions) (settings : Settings),
      fs.Consistent → Reordered options options' → Apart fs wd options settings →
      (∀ rule ∈ options.rules, ∀ rule' ∈ options.rules, rule.dst = rule'.dst) →
      ∀ q, (stage fs wd options settings).2.1.get? q = (stage fs wd options' settings).2.1.get? q) ∧
    ¬∀ (fs : FileSystem) (wd : Location) (options options' : ImportOptions) (settings : Settings),
      fs.Consistent → Reordered options options' → Apart fs wd options settings →
      (∀ rule ∈ options.rules, ∀ rule' ∈ options.rules, rule.src = rule'.src) →
      (stage fs wd options settings).1.isOk = (stage fs wd options' settings).1.isOk := by
  have hconsistent : doubled.Consistent := .of_plain (by decide +kernel) (by decide +kernel)
  constructor
  · intro h
    have hsurvey : (survey doubled [] overlapping .detect).1 = .ok doubledSurvey := by
      decide +kernel
    have hsame := h doubled [] overlapping _ .detect hconsistent (reordered_reversed overlapping)
      (apart_of_writes hsurvey (by decide +kernel)) (by decide) [[0x78], runtimeDir.octets, [0x61]]
    exact absurd hsame (by decide +kernel)
  · intro h
    have hsurvey : (survey doubled [] overstretched .detect).1 = .ok ⟨[
        (runtimeDir.join ⟨[0x61]⟩, ⟨[0x70, 0x2F, 0x6C, 0x2F, 0x61]⟩),
        (runtimeDir.join ⟨[0x62]⟩, ⟨[0x70, 0x2F, 0x6C, 0x2F, 0x62]⟩)], []⟩ := by
      decide +kernel
    have hsame := h doubled [] overstretched _ .detect hconsistent (reordered_reversed overstretched)
      (apart_of_writes hsurvey (by decide +kernel)) (by simp [overstretched])
    exact absurd hsame (by decide +kernel)

end Staging

end ConsumerCheck
