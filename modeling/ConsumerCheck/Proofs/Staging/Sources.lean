import ConsumerCheck.Proofs.FileSystem.Persistence
import ConsumerCheck.Proofs.Staging.Effect
import ConsumerCheck.Proofs.Staging.Selection

/-!
# What becomes of the files that are staged

Staging reads files and writes files, and nothing keeps the two apart. A file that is found and not
written to stays what it was, whether staging succeeds or fails. A file that is its own destination is
emptied before it is read, and the copy succeeds.

* `Staging.writes` — the locations that a plan writes to, computed;
* `Staging.filesFound` — the files that a rule finds, computed.

Principal results: `stage_keeps_found` — what is not written to is kept; `carried_onto_itself` — a file that
is copied onto itself is lost; `stage_damages_package` — staging a package to where it is does this.
-/

namespace ConsumerCheck.Staging

open FileSystem (Keeps)

variable {wd loc q : Location} {destRoot place source rel : Path} {plan done rest : Plan}
  {fs fs' next : FileSystem} {options : ImportOptions} {settings : Settings} {rule : CopyRule}
  {result : Except Failure ImportReport} {events : List Event}

/-! ## What is written and what is found -/

/-- The locations that are written to while a plan is carried out. -/
def writes (wd : Location) (destRoot : Path) : Plan → FileSystem → List Location
  | [], _ => []
  | (place, source) :: rest, fs =>
    let dest := destRoot.join place
    match makeParent fs wd dest with
    | (.error _, _) => []
    | (.ok (), made) =>
      (match made.target wd dest with
        | .ok target => made.locationsOf target
        | .error _ => []) ++
      (match made.copyFile wd source dest with
        | (.ok (), next) => writes wd destRoot rest next
        | (.error _, _) => [])

theorem mem_writes_cons_iff : q ∈ writes wd destRoot ((place, source) :: rest) fs ↔
    ∃ made, makeParent fs wd (destRoot.join place) = (.ok (), made) ∧
      ((∃ target, made.target wd (destRoot.join place) = .ok target ∧ q ∈ made.locationsOf target) ∨
        ∃ next, made.copyFile wd source (destRoot.join place) = (.ok (), next) ∧
          q ∈ writes wd destRoot rest next) := by
  rw [writes]
  rcases makeParent fs wd (destRoot.join place) with ⟨_ | ⟨⟩, made⟩
  · simp
  simp only [List.mem_append, Prod.mk.injEq, true_and, exists_eq_left']
  refine or_congr ?_ ?_
  · cases made.target wd (destRoot.join place) <;> simp
  · rcases made.copyFile wd source (destRoot.join place) with ⟨_ | ⟨⟩, next⟩ <;> simp

theorem written_iff : Written wd destRoot plan fs q ↔ q ∈ writes wd destRoot plan fs := by
  constructor
  · intro h
    induction h with
    | head hparent htarget hq => exact mem_writes_cons_iff.2 ⟨_, hparent, .inl ⟨_, htarget, hq⟩⟩
    | tail hcarried _ ih =>
      obtain ⟨made, hparent, hcopy⟩ := hcarried
      exact mem_writes_cons_iff.2 ⟨made, hparent, .inr ⟨_, hcopy, ih⟩⟩
  · intro h
    induction plan generalizing fs with
    | nil => cases h
    | cons entry rest ih =>
      obtain ⟨made, hparent, ⟨target, htarget, hq⟩ | ⟨next, hcopy, hq⟩⟩ := mem_writes_cons_iff.1 h
      · exact .head hparent htarget hq
      · exact .tail ⟨made, hparent, hcopy⟩ (ih hq)

instance : Decidable (Written wd destRoot plan fs q) :=
  decidable_of_iff ((writes wd destRoot plan fs).contains q = true)
    (List.contains_iff_mem.trans written_iff.symm)

/-- The files that a rule finds if it is in force. -/
def filesFound (fs : FileSystem) (wd : Location) (options : ImportOptions) (settings : Settings)
    (rule : CopyRule) : List Path :=
  let src := options.packageFolder.join rule.src
  match Pattern.parse rule.pattern with
  | .ok pattern =>
    if !isFilteredOut options settings rule && fs.isDirectory wd src then
      (fs.findMatching wd src pattern).toOption.getD []
    else []
  | .error _ => []

theorem finds_iff :
    Finds fs wd options settings rule rel ↔ rel ∈ filesFound fs wd options settings rule := by
  unfold filesFound
  constructor
  · rintro ⟨hactive, hdir, pattern, paths, hpattern, hpaths, hrel⟩
    simpa [hpattern, hactive, hdir, hpaths, Except.toOption] using hrel
  · intro h
    dsimp only at h
    split at h
    · rename_i pattern hpattern
      split at h
      · rename_i hcond
        rw [Bool.and_eq_true, Bool.not_eq_true'] at hcond
        cases hfound : fs.findMatching wd (options.packageFolder.join rule.src) pattern with
        | error e => simp [hfound, Except.toOption] at h
        | ok paths =>
          rw [hfound] at h
          exact ⟨hcond.1, hcond.2, pattern, paths, hpattern, hfound, h⟩
      · cases h
    · cases h

instance : Decidable (Finds fs wd options settings rule rel) := decidable_of_iff _ finds_iff.symm

/-! ## What is kept -/

/-- What a rule finds is a regular file. -/
theorem Finds.located (h : Finds fs wd options settings rule rel) :
    ∃ loc contents permissions,
      fs.locate wd ((options.packageFolder.join rule.src).join rel) = .ok loc ∧
      fs.get? loc = some (.file contents permissions) := by
  obtain ⟨pattern, paths, -, hfound, hrel⟩ := h.found
  obtain ⟨names, hne, hnames, rfl, hfile⟩ := FileSystem.findMatching_names h.directory hfound hrel
  rw [Path.join_extend_nil _ hnames hne]
  exact FileSystem.isFile_iff.1 hfile

/-- At most directories appear where a plan does not write, whether it is carried out to its end or
not. -/
theorem untouched_of_not_written (h : stage fs wd options settings = (result, fs', events))
    (hapart : ∀ s, (survey fs wd options settings).1 = .ok s →
      ¬Written wd options.destRoot s.plan fs q) : fs.Untouched fs' q := by
  cases result with
  | ok report =>
    obtain ⟨s, more, hsurvey, -, hcarry⟩ := stage_ok_cases h
    exact carryOut_frame hcarry (hapart s hsurvey)
  | error f =>
    rcases stage_error_cases h with ⟨-, rfl⟩ | ⟨s, more, hsurvey, hcarry⟩
    · exact .inl rfl
    · obtain ⟨done, place, source, rest, before, copies, hplan, hdone, hrefused⟩ :=
        carryOut_error_split hcarry
      have hnot : ¬Written wd options.destRoot done fs q :=
        fun hw => hapart s hsurvey (hplan ▸ hw.append _)
      obtain ⟨made, spoiled, hgrown, hfailed, hwritten⟩ := hrefused.failed
      have hout : q ∉ spoiled :=
        fun hq => hapart s hsurvey (hplan ▸ .after hdone ((hwritten q hq).append rest))
      exact (carryOut_frame hdone hnot).trans
        ((hgrown.untouched q).trans (.inl (hfailed.get?_eq hout)))

/-- **Whether staging succeeds or fails, a file that a rule finds is kept if the plan does not write to
it.** -/
theorem stage_keeps_found (h : stage fs wd options settings = (result, fs', events))
    (hfinds : Finds fs wd options settings rule rel)
    (hlocate : fs.locate wd ((options.packageFolder.join rule.src).join rel) = .ok loc)
    (hapart : ∀ s, (survey fs wd options settings).1 = .ok s →
      ¬Written wd options.destRoot s.plan fs loc) : fs'.get? loc = fs.get? loc := by
  obtain ⟨loc', contents, permissions, hlocate', hfile⟩ := hfinds.located
  rw [hlocate, Except.ok.injEq] at hlocate'
  subst hlocate'
  rcases untouched_of_not_written h hapart with hsame | ⟨hnone, -⟩
  · exact hsame
  · rw [hfile] at hnone
    cases hnone

/-- The file `b` is kept though its copy is refused. -/
theorem stage_keeps_found_crowded :
    ∃ f fs' events, stage crowded [] packagedOptions .detect = (.error f, fs', events) ∧
      fs'.get? [[0x70], [0x62]] = some (.file [2] .plain) := by
  have hfail : (stage crowded [] packagedOptions .detect).1 =
      .error (.filesystem ⟨[0x70, 0x2F, 0x2E, 0x2F, 0x62]⟩ (.os .isDirectory)) := by
    decide +kernel
  have hstage := Prod.ext (y := (Except.error _, _, _)) hfail rfl
  have hsurvey : (survey crowded [] packagedOptions .detect).1 = .ok packagedSurvey := by
    decide +kernel
  have hfinds : Finds crowded [] packagedOptions .detect ⟨.unix, "*", ⟨Path.dot⟩, runtimeDir⟩
      ⟨[0x62]⟩ := by
    decide +kernel
  have hlocate : crowded.locate [] ((packagedOptions.packageFolder.join ⟨Path.dot⟩).join ⟨[0x62]⟩) =
      .ok [[0x70], [0x62]] := by
    decide +kernel
  refine ⟨_, _, _, hstage, ?_⟩
  rw [stage_keeps_found hstage hfinds hlocate]
  · decide +kernel
  · intro s hs
    rw [hsurvey, Except.ok.injEq] at hs
    subst hs
    decide +kernel

/-! ## What is lost -/

/-- **A file that is copied onto itself is emptied, and the copy succeeds.** -/
theorem carried_onto_itself (hfs : fs.Consistent) (h : Carried wd destRoot place source fs fs')
    (hlocate : fs.locate wd source = .ok loc) (hself : fs.locate wd (destRoot.join place) = .ok q)
    (hsame : loc ∈ fs.locationsOf q) : ∃ permissions, fs'.get? loc = some (.file [] permissions) := by
  obtain ⟨made, hparent, hcopy⟩ := h
  obtain ⟨⟨loc', permissions, target⟩, hsource, htarget, -, rfl⟩ :=
    FileSystem.copyFile_ok_iff.1 hcopy
  have hgrown := makeParent_grown hparent
  have hmade := hgrown.consistent hfs
  obtain ⟨contents, hlocate', hfile⟩ := FileSystem.copySource_ok hsource
  rw [hgrown.keeps.locate hlocate, Except.ok.injEq] at hlocate'
  subst hlocate'
  have hself' := hgrown.keeps.locate hself
  rw [← FileSystem.locationsOf_congr hgrown.shared] at hsame
  have hkeeps := (FileSystem.copyTo_keeps hmade htarget loc permissions).2
  obtain ⟨places, hreplaced, ⟨rfl, -⟩ | ⟨-, e, he, hnot⟩⟩ :=
    FileSystem.copyTo_of_target hmade htarget loc permissions
  · -- the destination is where the path led already
    have hreached := FileSystem.locate_of_target htarget hkeeps
      (hreplaced.new target (FileSystem.mem_locationsOf_self made target)) fun t ht => by cases ht
    rw [hkeeps.locate hself', Except.ok.injEq] at hreached
    subst hreached
    refine ⟨permissions, (hreplaced.new loc hsame).trans ?_⟩
    rw [FileSystem.copied, if_pos hsame]
  · rcases FileSystem.target_cases htarget with ⟨hreached, -⟩ | ⟨hnone, -⟩
    · rw [hself', Except.ok.injEq] at hreached
      subst hreached
      rw [← hmade.same q loc hsame, hfile, Option.some.injEq] at he
      rw [← he] at hnot
      cases hnot
    · rw [hnone] at he
      cases he

/-- A package `p` with a file `a` in the directory where runtime files belong. -/
def settled : FileSystem :=
  ((FileSystem.empty.put [[0x70]] (.directory .folder)).put [[0x70], runtimeDir.octets]
    (.directory .folder)).put [[0x70], runtimeDir.octets, [0x61]] (.file [1] .plain)

/-- The package `p` is staged to where it is. -/
def settledOptions : ImportOptions where
  packageFolder := ⟨[0x70]⟩
  destRoot := ⟨[0x70]⟩
  rules := [⟨.unix, "*", runtimeDir, runtimeDir⟩]
  filterHostPlatform := false

/-- **Staging can damage the package**: a file of it that is at its own destination is lost, and staging
reports that it was copied. -/
theorem stage_damages_package :
    ¬∀ (fs : FileSystem) (wd : Location) (options : ImportOptions) (settings : Settings)
      (report : ImportReport) (fs' : FileSystem) (events : List Event) (rule : CopyRule) (rel : Path)
      (loc : Location), stage fs wd options settings = (.ok report, fs', events) →
      rule ∈ options.rules → Finds fs wd options settings rule rel →
      fs.locate wd ((options.packageFolder.join rule.src).join rel) = .ok loc →
      fs'.contentsAt loc = fs.contentsAt loc := by
  intro h
  have hok : (stage settled [] settledOptions .detect).1 =
      .ok ⟨[runtimeDir.join ⟨[0x61]⟩], []⟩ := by
    decide +kernel
  have hkept := h settled [] settledOptions .detect _ _ _ ⟨.unix, "*", runtimeDir, runtimeDir⟩
    ⟨[0x61]⟩ [[0x70], runtimeDir.octets, [0x61]] (Prod.ext (y := (Except.ok _, _, _)) hok rfl)
    (by decide) (by decide +kernel) (by decide +kernel)
  exact absurd hkept (by decide +kernel)

end ConsumerCheck.Staging
