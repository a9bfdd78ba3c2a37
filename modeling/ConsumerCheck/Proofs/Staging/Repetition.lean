import ConsumerCheck.Proofs.FileSystem.Matching
import ConsumerCheck.Proofs.Staging.Sources

/-!
# Staging that is repeated

Staging again makes the same plan if the first run has changed nothing that it had looked at. Each entry
of the plan then finds its directory made and its destination where the first run put it, reads what
the first run read, and so writes what is there already.

* `Staging.Probed` — the locations that the first phase looks at;
* `Staging.Pursues` — how far a second run has come, against the first.

Principal results: `survey_congr` — the first phase depends on these locations alone; `carryOut_again` —
a plan that is carried out twice in a row changes nothing the second time; `stage_idempotent`;
`stage_not_idempotent` — a run that stages files to where it looks finds them the second time.
-/

namespace ConsumerCheck.Staging

open FileSystem (Keeps Replaced)

/-! ## What the first phase looks at -/

/-- The first phase looks at this location: on the way to the package folder, on the way to the directory
of a rule in force, below that directory, or on a way over something that is below it. -/
inductive Probed (fs : FileSystem) (wd : Location) (options : ImportOptions) (settings : Settings) :
    Location → Prop where
  | package {q} (hq : q ∈ fs.probes wd options.packageFolder) : Probed fs wd options settings q
  | directory {rule q} (hrule : rule ∈ options.rules)
      (hactive : isFilteredOut options settings rule = false)
      (hq : q ∈ fs.probes wd (options.packageFolder.join rule.src)) : Probed fs wd options settings q
  | below {rule base q} (hrule : rule ∈ options.rules)
      (hactive : isFilteredOut options settings rule = false)
      (hbase : fs.locate wd (options.packageFolder.join rule.src) = .ok base) (hq : base <+: q) :
      Probed fs wd options settings q
  | entry {rule base e q} (hrule : rule ∈ options.rules)
      (hactive : isFilteredOut options settings rule = false)
      (hbase : fs.locate wd (options.packageFolder.join rule.src) = .ok base) (he : e ∈ fs.below base)
      (hq : q ∈ fs.probes wd ((options.packageFolder.join rule.src).extend e.1)) :
      Probed fs wd options settings q

/-- Whether the first phase looks at a location, computed. -/
def looksAt (fs : FileSystem) (wd : Location) (options : ImportOptions) (settings : Settings)
    (q : Location) : Bool :=
  (fs.probes wd options.packageFolder).contains q ||
    options.rules.any fun rule =>
      let src := options.packageFolder.join rule.src
      !isFilteredOut options settings rule && ((fs.probes wd src).contains q ||
        match fs.locate wd src with
        | .ok base =>
          base.isPrefixOf q || (fs.below base).any fun e => (fs.probes wd (src.extend e.1)).contains q
        | .error _ => false)

variable {fs fs' cur made next gs : FileSystem} {wd loc q : Location} {destRoot place source dest rel : Path}
  {plan : Plan} {options : ImportOptions} {settings : Settings} {rule : CopyRule}
  {rules : List CopyRule} {s s' : Survey} {events : List Event}

theorem looksAt_iff :
    looksAt fs wd options settings q = true ↔ Probed fs wd options settings q := by
  simp only [looksAt, Bool.or_eq_true, List.contains_iff_mem, List.any_eq_true, Bool.and_eq_true,
    Bool.not_eq_true']
  constructor
  · rintro (hq | ⟨rule, hrule, hactive, hq | hq⟩)
    · exact .package hq
    · exact .directory hrule hactive hq
    · split at hq
      · rename_i base hbase
        simp only [Bool.or_eq_true, List.isPrefixOf_iff_prefix, List.any_eq_true,
          List.contains_iff_mem] at hq
        rcases hq with hq | ⟨e, he, hq⟩
        · exact .below hrule hactive hbase hq
        · exact .entry hrule hactive hbase he hq
      · cases hq
  · intro hq
    cases hq with
    | package hq => exact .inl hq
    | directory hrule hactive hq => exact .inr ⟨_, hrule, hactive, .inl hq⟩
    | below hrule hactive hbase hq =>
      refine .inr ⟨_, hrule, hactive, .inr ?_⟩
      rw [hbase]
      simp [hq]
    | entry hrule hactive hbase he hq =>
      refine .inr ⟨_, hrule, hactive, .inr ?_⟩
      rw [hbase]
      simp only [Bool.or_eq_true, List.any_eq_true, List.contains_iff_mem]
      exact .inr ⟨_, he, hq⟩

instance : Decidable (Probed fs wd options settings q) := decidable_of_iff _ looksAt_iff

/-- A run leaves what was looked at as it was if nothing that it changed was looked at. -/
theorem probed_kept (h : ∀ q ∈ fs.changed fs', ¬Probed fs wd options settings q) (q : Location)
    (hq : Probed fs wd options settings q) : fs'.get? q = fs.get? q := by
  by_contra hne
  exact h q (FileSystem.mem_changed_iff.2 hne) hq

section Survey

variable (hread : ∀ q, Probed fs wd options settings q → fs'.get? q = fs.get? q)
include hread

theorem surveyRule_congr (hrule : rule ∈ options.rules)
    (h : surveyRule fs wd options settings rule s = (.ok s', events)) :
    surveyRule fs' wd options settings rule s = (.ok s', events) := by
  unfold surveyRule at h ⊢
  split at h
  · rename_i hfiltered
    rw [if_pos hfiltered]
    exact h
  rename_i hactive
  rw [if_neg hactive]
  rw [Bool.not_eq_true] at hactive
  split at h
  · cases h
  rename_i pattern hpattern
  have hbase : ∀ q ∈ fs.probes wd (options.packageFolder.join rule.src), fs'.get? q = fs.get? q :=
    fun q hq => hread q (.directory hrule hactive hq)
  dsimp only at h ⊢
  rw [FileSystem.isDirectory_congr hbase]
  split at h
  · rename_i hdir
    rw [if_pos hdir]
    split at h
    · cases h
    · rename_i found hfound
      rw [FileSystem.findMatching_congr hbase
        (fun place hplace q hq => hread q (.below hrule hactive hplace hq))
        (fun place hplace e he q hq => hread q (.entry hrule hactive hplace he hq)) hfound]
      exact h
  · rename_i hdir
    rw [if_neg hdir]
    exact h

theorem surveyRules_congr (hrules : rules ⊆ options.rules)
    (h : surveyRules fs wd options settings rules s = (.ok s', events)) :
    (surveyRules fs' wd options settings rules s).1 = .ok s' := by
  induction rules generalizing s events with
  | nil =>
    cases h
    rfl
  | cons rule rules ih =>
    obtain ⟨next, first, more, hrule, hrest⟩ := surveyRules_cons h
    rw [surveyRules, surveyRule_congr hread (hrules List.mem_cons_self) hrule]
    exact ih (fun r hr => hrules (List.mem_cons_of_mem _ hr)) hrest

/-- **The first phase plans the same where the same stands at all that it looks at.** -/
theorem survey_congr (h : (survey fs wd options settings).1 = .ok s) :
    (survey fs' wd options settings).1 = .ok s := by
  obtain ⟨-, -, events, hrules⟩ := survey_ok_cases h
  have hpackage := FileSystem.checkReadableDirectory_congr fun q hq => hread q (.package hq)
  unfold survey at h ⊢
  rw [hpackage]
  split at h
  · cases h
  split at h
  · cases h
  exact surveyRules_congr hread (List.Subset.refl _) hrules

end Survey

/-- The file that a rule finds is at a location that the first phase looks at. -/
theorem Finds.probed (h : Finds fs wd options settings rule rel) (hrule : rule ∈ options.rules)
    (hlocate : fs.locate wd ((options.packageFolder.join rule.src).join rel) = .ok loc) :
    Probed fs wd options settings loc := by
  obtain ⟨pattern, paths, -, hfound, hrel⟩ := h.found
  obtain ⟨base, hbase, e, he, rfl, -⟩ := FileSystem.findMatching_below h.directory hfound hrel
  rw [Path.join_extend_nil _ (FileSystem.names_of_mem_below he) (FileSystem.mem_below.1 he).1] at hlocate
  exact .entry hrule h.active hbase he (FileSystem.mem_probes_of_locate hlocate)

/-! ## One entry again -/

/-- The directory of a destination is made once. -/
theorem makeParent_again (h : makeParent fs wd dest = (.ok (), made)) (hfs : fs.Consistent)
    (hk : Keeps made gs) : makeParent gs wd dest = (.ok (), gs) := by
  unfold makeParent at h ⊢
  cases hparent : dest.parent? with
  | none => rfl
  | some parent =>
    simp only [hparent] at h
    split at h
    · cases h
    rename_i hmake
    cases h
    have hagain : gs.makeDirectories wd parent = (.ok (), gs) := by
      rcases FileSystem.isDirectory_of_makeChain hfs hmake with hnone | hdir
      · unfold FileSystem.makeDirectories FileSystem.makeChain
        rw [if_pos hnone]
      · exact FileSystem.makeDirectories_of_isDirectory (hk.isDirectory hdir)
    simp only [hagain]

/-! ## A second run -/

/-- A second run has come to `gs` and the first, at the same entry of the plan, to `cur`: at each
location the second has what the first had, or what the first left at its end where it had not yet
written. -/
structure Pursues (fs fs' cur gs : FileSystem) : Prop where
  consistent : cur.Consistent
  consistent' : gs.Consistent
  begun : Keeps fs cur
  again : Keeps fs' gs
  shared : gs.shared = cur.shared
  medium : gs.medium = cur.medium
  level : ∀ q, gs.get? q = cur.get? q ∨ gs.get? q = fs'.get? q ∧ fs.Untouched cur q

/-- The second run has the directories that the first makes for an entry. -/
theorem Pursues.grown (h : Pursues fs fs' cur gs) {paths : List Path}
    (hgrown : FileSystem.Grown wd paths cur made) (hk : Keeps made fs') : Pursues fs fs' made gs where
  consistent := hgrown.consistent h.consistent
  consistent' := h.consistent'
  begun := h.begun.trans hgrown.keeps
  again := h.again
  shared := h.shared.trans hgrown.shared.symm
  medium := h.medium.trans hgrown.medium.symm
  level q := by
    rcases h.level q with hsame | ⟨hlast, huntouched⟩
    · rcases hgrown.untouched q with hkept | ⟨-, hdir⟩
      · exact .inl (hsame.trans hkept.symm)
      · exact .inl (((hk.trans h.again).same q _ hdir rfl).trans hdir.symm)
    · exact .inr ⟨hlast, huntouched.trans (hgrown.untouched q)⟩

/-- Both runs write the same to the same locations. -/
theorem Pursues.replaced (h : Pursues fs fs' cur gs) {places : List Location} {entry : Entry}
    {gnext : FileSystem} (hnext : Replaced places entry cur next)
    (hgnext : Replaced places entry gs gnext) (hconsistent : next.Consistent ∧ Keeps cur next)
    (hconsistent' : gnext.Consistent ∧ Keeps gs gnext) : Pursues fs fs' next gnext where
  consistent := hconsistent.1
  consistent' := hconsistent'.1
  begun := h.begun.trans hconsistent.2
  again := h.again.trans hconsistent'.2
  shared := by rw [hnext.shared, hgnext.shared, h.shared]
  medium := by rw [hnext.medium, hgnext.medium, h.medium]
  level q := by
    by_cases hq : q ∈ places
    · exact .inl ((hgnext.new q hq).trans (hnext.new q hq).symm)
    · rw [hgnext.old q hq, hnext.old q hq]
      refine (h.level q).imp_right fun hlast => ⟨hlast.1, ?_⟩
      unfold FileSystem.Untouched
      rw [hnext.old q hq]
      exact hlast.2

/-- A source that the first run has left as it was reads the same in both runs. -/
theorem Pursues.source_eq (h : Pursues fs fs' cur gs) {entry : Entry}
    (hentry : fs.get? loc = some entry) (hkept : fs'.get? loc = fs.get? loc) :
    gs.get? loc = cur.get? loc := by
  rcases h.level loc with hsame | ⟨hlast, hsame | ⟨hnone, -⟩⟩
  · exact hsame
  · rw [hlast, hkept, hsame]
  · rw [hentry] at hnone
    cases hnone

/-- At a destination stands, after the copy and ever after, a file, or what keeps nothing stood there and
still does. -/
theorem file_of_target (hfs : made.Consistent) (h : made.target wd dest = .ok q)
    {permissions : Permissions} (hk : Keeps (made.copyTo loc q permissions) fs') :
    (∃ e, made.get? q = some e ∧ e.isFile = false) ∨ ∃ e, fs'.get? q = some e ∧ e.isFile = true := by
  obtain ⟨places, hreplaced, hplaces⟩ := FileSystem.copyTo_of_target hfs h loc permissions
  rcases hplaces with ⟨rfl, -⟩ | ⟨-, hnot⟩
  · exact .inr (hk.file q _ (hreplaced.new q (FileSystem.mem_locationsOf_self made q)) rfl)
  · exact .inl hnot

/-- A destination of the first run is one of the second, if what the first has left there may be
written. -/
theorem Pursues.target_eq (h : Pursues fs fs' made gs) (htarget : made.target wd dest = .ok q)
    (hk : Keeps made fs')
    (hend : (∃ e, made.get? q = some e ∧ e.isFile = false) ∨ ∃ e, fs'.get? q = some e ∧ e.isFile = true)
    (hwrite : ∀ e, fs'.stat wd dest = .ok e → e.permissions.mayWrite = true) :
    gs.target wd dest = .ok q := by
  have hagain : ∀ e, made.get? q = some e → gs.get? q = some e → gs.target wd dest = .ok q := by
    intro e he he'
    exact FileSystem.target_again htarget (hk.trans h.again) h.medium he'
      (FileSystem.writable_of_target htarget he)
  rcases hend with ⟨e, he, hnot⟩ | ⟨e, he, hfile⟩
  · exact hagain e he ((hk.trans h.again).same q e he hnot)
  rcases h.level q with hsame | ⟨hlast, -⟩
  · obtain ⟨e', he', -⟩ := h.again.file q e he hfile
    exact hagain e' (hsame.symm.trans he') he'
  · cases e with
    | file contents permissions =>
      have hstat := FileSystem.stat_of_locate
        (FileSystem.locate_of_target htarget hk he (by simp)) he
      exact FileSystem.target_again htarget (hk.trans h.again) h.medium (hlast.trans he)
        ⟨rfl, by simp, hwrite _ hstat⟩
    | directory _ => cases hfile
    | link _ => cases hfile
    | device _ => cases hfile

/-- A copy that came to its end in the first run does so in the second. -/
theorem Pursues.breakOff?_eq (h : Pursues fs fs' made gs) {ends : FileSystem.CopyEnds}
    (hbreak : made.breakOff? dest ends = none) (hread : gs.get? ends.source = made.get? ends.source)
    (hk : Keeps made fs')
    (hend : (∃ e, made.get? ends.dest = some e ∧ e.isFile = false) ∨
      ∃ e, fs'.get? ends.dest = some e ∧ e.isFile = true) : gs.breakOff? dest ends = none := by
  have hcontents : gs.contentsAt ends.source = made.contentsAt ends.source := by
    unfold FileSystem.contentsAt
    rw [hread]
  obtain ⟨hroom, hmedium⟩ := FileSystem.breakOff?_eq_none_iff.1 hbreak
  rw [FileSystem.breakOff?_eq_none_iff, hcontents, h.medium]
  refine ⟨fun hfull => hroom ?_, hmedium⟩
  rcases hend with ⟨e, he, hnot⟩ | ⟨e, he, hfile⟩
  · rw [← hfull, he, (hk.trans h.again).same _ e he hnot]
  · obtain ⟨e', he', hfile'⟩ := h.again.file _ e he hfile
    rw [hfull, Option.some.injEq] at he'
    rw [← he'] at hfile'
    cases hfile'

/-- **An entry that the first run carried out is carried out by the second, which comes as far.** -/
theorem Pursues.carried (h : Pursues fs fs' cur gs)
    (hcarried : Carried wd destRoot place source cur next) (hk : Keeps next fs') {entry : Entry}
    (hlocate : fs.locate wd source = .ok loc) (hentry : fs.get? loc = some entry)
    (hkept : fs'.get? loc = fs.get? loc)
    (hwrite : ∀ e, fs'.stat wd (destRoot.join place) = .ok e → e.permissions.mayWrite = true) :
    ∃ gnext, Carried wd destRoot place source gs gnext ∧ Pursues fs fs' next gnext := by
  obtain ⟨made, hparent, hcopy⟩ := hcarried
  obtain ⟨⟨loc', permissions, target⟩, hsource, htarget, hbreak, rfl⟩ :=
    FileSystem.copyFile_ok_iff.1 hcopy
  have hgrown := makeParent_grown hparent
  have hmade := hgrown.consistent h.consistent
  have hcopied := FileSystem.copyTo_keeps hmade htarget loc' permissions
  have hmadeKeeps := hcopied.2.trans hk
  have hmadePursues := h.grown hgrown hmadeKeeps
  -- the source is where it was before both runs
  obtain ⟨contents, hlocate', -⟩ := FileSystem.copySource_ok hsource
  rw [hmadePursues.begun.locate hlocate, Except.ok.injEq] at hlocate'
  subst hlocate'
  have hread := hmadePursues.source_eq hentry hkept
  have hsource' := FileSystem.copySource_congr hsource
    ((hmadeKeeps.trans h.again).locate (hmadePursues.begun.locate hlocate)) hread
  have hend := file_of_target hmade htarget hk
  have htarget' := hmadePursues.target_eq htarget hmadeKeeps hend hwrite
  have hcopied' := FileSystem.copyTo_keeps h.consistent' htarget' loc permissions
  refine ⟨gs.copyTo loc target permissions,
    ⟨gs, makeParent_again hparent h.consistent (hmadeKeeps.trans h.again),
      FileSystem.copyFile_ok_iff.2 ⟨⟨loc, permissions, target⟩, hsource', htarget',
        hmadePursues.breakOff?_eq hbreak hread hmadeKeeps hend, rfl⟩⟩, ?_⟩
  obtain ⟨places, hreplaced, hplaces⟩ := FileSystem.copyTo_of_target hmade htarget loc permissions
  obtain ⟨places', hreplaced', hplaces'⟩ :=
    FileSystem.copyTo_of_target h.consistent' htarget' loc permissions
  have hlocations := FileSystem.locationsOf_congr hmadePursues.shared target
  have hentries : gs.copied loc target permissions = made.copied loc target permissions := by
    unfold FileSystem.copied FileSystem.contentsAt
    rw [hlocations, hread]
  rw [hentries] at hreplaced'
  -- both write to all locations of a file, or both to what keeps nothing
  have hsame : places' = places := by
    rcases hplaces with ⟨rfl, -⟩ | ⟨rfl, e, he, hnot⟩
    · obtain ⟨e, he, hfile⟩ := (hk.trans h.again).file target _
        (hreplaced.new target (FileSystem.mem_locationsOf_self made target)) rfl
      rcases hplaces' with ⟨rfl, -⟩ | ⟨-, e', he', hnot⟩
      · exact hlocations
      · rw [he, Option.some.injEq] at he'
        rw [he', hnot] at hfile
        cases hfile
    · rcases hplaces' with ⟨-, hfile⟩ | ⟨rfl, -⟩
      · rw [hfile e ((hmadeKeeps.trans h.again).same target e he hnot)] at hnot
        cases hnot
      · rfl
  exact hmadePursues.replaced hreplaced (hsame ▸ hreplaced') hcopied hcopied'

/-- **A plan that is carried out a second time changes nothing**, if the first time has left the sources
as they were and the second may write to the places. -/
theorem carryOut_again (h : carryOut wd destRoot plan cur = (.ok (), fs', events))
    (hpursues : Pursues fs fs' cur gs)
    (hsources : ∀ e ∈ plan, ∃ loc entry, fs.locate wd e.2 = .ok loc ∧ fs.get? loc = some entry ∧
      fs'.get? loc = fs.get? loc)
    (hwrite : ∀ e ∈ plan, ∀ entry, fs'.stat wd (destRoot.join e.1) = .ok entry →
      entry.permissions.mayWrite = true) :
    ∃ gs' events', carryOut wd destRoot plan gs = (.ok (), gs', events') ∧
      (∀ q, gs'.get? q = fs'.get? q) ∧ gs'.shared = fs'.shared := by
  induction plan generalizing cur gs events with
  | nil =>
    cases h
    refine ⟨gs, [], rfl, fun q => ?_, hpursues.shared⟩
    exact (hpursues.level q).elim id And.left
  | cons entry rest ih =>
    obtain ⟨place, source⟩ := entry
    rcases carryOut_cons h with ⟨_, hf, -⟩ | ⟨next, more, hcarried, hrest⟩
    · cases hf
    have hnext := hcarried.keeps hpursues.consistent
    obtain ⟨loc, entry, hlocate, hentry, hkept⟩ := hsources _ List.mem_cons_self
    obtain ⟨gnext, hcarried', hpursues'⟩ := hpursues.carried hcarried
      (carryOut_keeps hrest hnext.1).2.1 hlocate hentry hkept (hwrite _ List.mem_cons_self)
    obtain ⟨gs', events', hagain, hsame⟩ := ih hrest hpursues'
      (fun e he => hsources e (List.mem_cons_of_mem _ he))
      (fun e he => hwrite e (List.mem_cons_of_mem _ he))
    refine ⟨gs', .copied source (destRoot.join place) :: events', ?_, hsame⟩
    rw [hcarried'.carryOut_cons, hagain]

/-! ## Staging twice -/

/-- **Staging again reports the same and changes nothing**, if the first run has changed nothing that its
first phase had looked at, and what it has staged may be written. -/
theorem stage_idempotent {report : ImportReport} (hfs : fs.Consistent)
    (h : stage fs wd options settings = (.ok report, fs', events))
    (hread : ∀ q, Probed fs wd options settings q → fs'.get? q = fs.get? q)
    (hwrite : ∀ p ∈ report.copied, ∀ entry, fs'.stat wd (options.destRoot.join p) = .ok entry →
      entry.permissions.mayWrite = true) :
    ∃ fs'' events', stage fs' wd options settings = (.ok report, fs'', events') ∧
      (∀ q, fs''.get? q = fs'.get? q) ∧ fs''.shared = fs'.shared := by
  obtain ⟨s, more, hsurvey, rfl, hcarry⟩ := stage_ok_cases h
  have hsources : ∀ e ∈ s.plan, ∃ loc entry, fs.locate wd e.2 = .ok loc ∧
      fs.get? loc = some entry ∧ fs'.get? loc = fs.get? loc := by
    intro e he
    obtain ⟨rule, hrule, rel, hfinds, -, hsource⟩ := supplied_of_planned hsurvey he
    obtain ⟨loc, contents, permissions, hlocate, hfile⟩ := hfinds.located
    exact ⟨loc, _, hsource ▸ hlocate, hfile, hread loc (hfinds.probed hrule hlocate)⟩
  obtain ⟨hfs', hkeeps, hshared, hmedium⟩ := carryOut_keeps hcarry hfs
  have hpursues : Pursues fs fs' fs fs' :=
    ⟨hfs, hfs', .refl _, .refl _, hshared, hmedium, fun q => .inr ⟨rfl, .inl rfl⟩⟩
  obtain ⟨fs'', events', hagain, hsame⟩ := carryOut_again hcarry hpursues hsources
    fun e he => hwrite e.1 (List.mem_map_of_mem he)
  obtain ⟨hresult, hfiles⟩ := stage_of_survey (survey_congr hread hsurvey)
  rw [hagain] at hresult hfiles
  exact ⟨fs'', (stage fs' wd options settings).2.2, Prod.ext hresult (Prod.ext hfiles rfl), hsame⟩

/-- The second run finds everything as the first left it, and the file that stood in the place of `a` stays
replaced. -/
theorem stage_idempotent_occupied :
    ∃ report fs' events, stage occupied [] packagedOptions .detect = (.ok report, fs', events) ∧
      report.copied = packagedSurvey.plan.map (·.1) ∧
      ∃ fs'' events', stage fs' [] packagedOptions .detect = (.ok report, fs'', events') ∧
        (∀ q, fs''.get? q = fs'.get? q) ∧ fs''.shared = fs'.shared := by
  have hok : (stage occupied [] packagedOptions .detect).1 =
      .ok ⟨packagedSurvey.plan.map (·.1), []⟩ := by
    decide +kernel
  have hstage := Prod.ext (y := (Except.ok _, _, _)) hok rfl
  have hconsistent : occupied.Consistent := .of_plain (by decide +kernel) (by decide +kernel)
  have hwrite : ∀ p ∈ packagedSurvey.plan.map (·.1),
      ((stage occupied [] packagedOptions .detect).2.1.stat []
        (packagedOptions.destRoot.join p)).toOption.all (·.permissions.mayWrite) = true := by
    decide +kernel
  refine ⟨_, _, _, hstage, rfl, stage_idempotent hconsistent hstage
    (probed_kept (by decide +kernel)) fun p hp entry hentry => ?_⟩
  have hmay := hwrite p hp
  rw [hentry] at hmay
  exact hmay

/-- The package `p` is staged to where it is. -/
def nestedOptions : ImportOptions := { packagedOptions with destRoot := ⟨[0x70]⟩ }

/-- A package `p` with a file `a` that nobody may write. -/
def guarded : FileSystem :=
  (FileSystem.empty.put [[0x70]] (.directory .folder)).put [[0x70], [0x61]] (.file [1] ⟨0o444⟩)

/-- **Staging twice is not staging once**: what was staged below a directory that a rule reads is found the
second time, and a copy that nobody may write cannot be replaced. -/
theorem stage_not_idempotent :
    (¬∀ (fs : FileSystem) (wd : Location) (options : ImportOptions) (settings : Settings)
        (report : ImportReport) (fs' : FileSystem) (events : List Event), fs.Consistent →
      stage fs wd options settings = (.ok report, fs', events) →
      (∀ q e, fs'.get? q = some e → e.permissions.mayWrite = true) →
      (stage fs' wd options settings).1 = .ok report) ∧
    ¬∀ (fs : FileSystem) (wd : Location) (options : ImportOptions) (settings : Settings)
        (report : ImportReport) (fs' : FileSystem) (events : List Event), fs.Consistent →
      stage fs wd options settings = (.ok report, fs', events) →
      (∀ q, Probed fs wd options settings q → fs'.get? q = fs.get? q) →
      (stage fs' wd options settings).1 = .ok report := by
  constructor
  · intro h
    have hconsistent : packaged.Consistent := .of_plain (by decide +kernel) (by decide +kernel)
    have hok : (stage packaged [] nestedOptions .detect).1 =
        .ok ⟨packagedSurvey.plan.map (·.1), []⟩ := by
      decide +kernel
    have hmay : ∀ e ∈ (stage packaged [] nestedOptions .detect).2.1.entries,
        e.2.permissions.mayWrite = true := by
      decide +kernel
    have hagain := h packaged [] nestedOptions .detect _ _ _ hconsistent
      (Prod.ext (y := (Except.ok _, _, _)) hok rfl) ?_
    · exact absurd hagain (by decide +kernel)
    · intro q e he
      rcases FileSystem.mem_entries_of_get? he with rfl | hmem
      · cases he
        rfl
      · exact hmay _ hmem
  · intro h
    have hconsistent : guarded.Consistent := .of_plain (by decide +kernel) (by decide +kernel)
    have hok : (stage guarded [] packagedOptions .detect).1 =
        .ok ⟨[runtimeDir.join ⟨[0x61]⟩], []⟩ := by
      decide +kernel
    have hagain := h guarded [] packagedOptions .detect _ _ _ hconsistent
      (Prod.ext (y := (Except.ok _, _, _)) hok rfl) (probed_kept (by decide +kernel))
    exact absurd hagain (by decide +kernel)

end ConsumerCheck.Staging
