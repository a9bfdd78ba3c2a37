import ConsumerCheck.Proofs.Staging.Failure
import ConsumerCheck.Proofs.Staging.Layout

/-!
# What staging changes

Where no link stands on the way to the runtime directory or in it, each entry of a plan is copied to
a location of its own. A source outside of the runtime directory is then never overwritten, and
neither is a copy.

* `Unlinked`, `Ordinary`, `Ready` — what a plan asks of the files it is carried out on;
* `Effect` — what it changes.

Principal results: `carried_effect`, `carryOut_effect` — one entry, and a whole plan; `stage_frame`
— what staging changes and what it leaves alone; `stage_not_framed` — what further names of a file
and devices change about that.
-/

namespace ConsumerCheck.Staging

open FileSystem (Keeps Grown)

variable {wd q : Location} {destRoot place source : Path} {plan rest : Plan}
  {fs fs' : FileSystem} {events : List Event}

/-- Neither on the way to the runtime directory nor in it is a link. -/
structure Unlinked (wd : Location) (destRoot : Path) (fs : FileSystem) : Prop where
  way : ∀ q ∈ (destRoot.join runtimeDir).trail wd, ∀ t, fs.get? q ≠ some (.link t)
  below : ∀ q, runtimeLocation wd destRoot <+: q → ∀ t, fs.get? q ≠ some (.link t)

/-- What is at a location has no other location, and it is no device. -/
structure Ordinary (fs : FileSystem) (q : Location) : Prop where
  alone : fs.locationsOf q = [q]
  noDevice : ∀ d, fs.get? q ≠ some (.device d)

instance (fs : FileSystem) (q : Location) : Decidable (Ordinary fs q) :=
  decidable_of_iff (fs.locationsOf q = [q] ∧ (fs.get? q).all (!·.isDevice) = true) <| by
    constructor
    · rintro ⟨halone, hall⟩
      refine ⟨halone, ?_⟩
      intro d hd
      simp [hd, Entry.isDevice] at hall
    · intro h
      refine ⟨h.alone, ?_⟩
      cases he : fs.get? q with
      | none => rfl
      | some e =>
        cases e with
        | device d => exact absurd he (h.noDevice d)
        | file _ _ => rfl
        | directory _ => rfl
        | link _ => rfl

/-- What a source leads to is not in the runtime directory. -/
def Outside (wd : Location) (destRoot : Path) (fs : FileSystem) (source : Path) : Prop :=
  ∀ loc, fs.locate wd source = .ok loc → ¬runtimeLocation wd destRoot <+: loc

instance (wd : Location) (destRoot : Path) (fs : FileSystem) (source : Path) :
    Decidable (Outside wd destRoot fs source) :=
  decidable_of_iff
    ((fs.locate wd source).toOption.all (¬runtimeLocation wd destRoot <+: ·) = true) <| by
    unfold Outside
    cases fs.locate wd source <;> simp [Except.toOption]

/-- A regular file is at the end of a path, outside of the runtime directory. -/
def IsSource (wd : Location) (destRoot : Path) (fs : FileSystem) (source : Path) : Prop :=
  ∃ loc contents permissions, fs.locate wd source = .ok loc ∧
    fs.get? loc = some (.file contents permissions) ∧ ¬runtimeLocation wd destRoot <+: loc

/-- The plan can be carried out without one entry disturbing another. -/
structure Ready (wd : Location) (destRoot : Path) (plan : Plan) (fs : FileSystem) : Prop where
  unlinked : Unlinked wd destRoot fs
  places : ∀ e ∈ plan, e.1.IsPlace
  distinct : (plan.map (·.1)).Pairwise fun p q => ¬Path.Same p q
  sources : ∀ e ∈ plan, IsSource wd destRoot fs e.2
  ordinary : ∀ e ∈ plan, Ordinary fs ((destRoot.join e.1).lexical wd)

/-- Each place holds what its source holds, and besides only directories above the places are
new. -/
structure Effect (wd : Location) (destRoot : Path) (plan : Plan) (fs fs' : FileSystem) : Prop where
  copied : ∀ e ∈ plan, ∃ contents permissions, fs.stat wd e.2 = .ok (.file contents permissions) ∧
    fs'.stat wd (destRoot.join e.1) = .ok (.file contents permissions)
  frame : ∀ q, fs'.get? q = fs.get? q ∨
    (∃ p ∈ plan.map (·.1), fs'.locate wd (destRoot.join p) = .ok q) ∨
    (fs.get? q = none ∧ fs'.get? q = some (.directory .folder) ∧
      ∃ p ∈ plan.map (·.1), ∃ a ∈ (destRoot.join p).above, fs'.locate wd a = .ok q)
  shared : fs'.shared = fs.shared
  keeps : Keeps fs fs'

/-! ## What stays true -/

theorem Unlinked.after (h : Unlinked wd destRoot fs) (hk : Keeps fs fs') :
    Unlinked wd destRoot fs' where
  way q hq t ht := h.way q hq t (hk.links q t ht)
  below q hq t ht := h.below q hq t (hk.links q t ht)

theorem Unlinked.trail_place (h : Unlinked wd destRoot fs) (hplace : place.IsPlace) :
    ∀ q ∈ (destRoot.join place).trail wd, ∀ t, fs.get? q ≠ some (.link t) := by
  intro q hq
  rcases Path.trail_place hplace hq with hway | hbelow
  · exact h.way q hway
  · exact h.below q hbelow

theorem runtimeLocation_prefix (wd : Location) (destRoot : Path) (hplace : place.IsPlace) :
    runtimeLocation wd destRoot <+: (destRoot.join place).lexical wd := by
  obtain ⟨names, -, -, hlexical⟩ := Path.lexical_place wd destRoot hplace
  rw [hlexical]
  exact List.prefix_append _ _

theorem lexical_place_ne_nil (wd : Location) (destRoot : Path) (hplace : place.IsPlace) :
    (destRoot.join place).lexical wd ≠ [] := by
  obtain ⟨names, hne, -, hlexical⟩ := Path.lexical_place wd destRoot hplace
  rw [hlexical]
  exact List.append_ne_nil_of_right_ne_nil _ hne

theorem isName_getLast_lexical_place (wd : Location) (destRoot : Path) (hplace : place.IsPlace) :
    ∀ n ∈ ((destRoot.join place).lexical wd).getLast?, isName n = true := by
  obtain ⟨names, hne, hnames, hlexical⟩ :=
    Path.lexical_place wd destRoot hplace
  intro n hn
  rw [hlexical, List.getLast?_append, List.getLast?_eq_some_getLast hne] at hn
  obtain rfl := Option.some.inj hn
  exact List.all_eq_true.1 hnames _ (List.getLast_mem hne)

/-- A source reads after directories were made as it read before. -/
theorem IsSource.after_grown {made : FileSystem} {paths : List Path} {loc : Location}
    {permissions : Permissions} (h : IsSource wd destRoot fs source)
    (hgrown : Grown wd paths fs made)
    (hread : made.copySource wd source = .ok (loc, permissions)) :
    ∃ contents, fs.stat wd source = .ok (.file contents permissions) ∧
      made.contentsAt loc = contents ∧ ¬runtimeLocation wd destRoot <+: loc := by
  obtain ⟨loc', contents, permissions', hlocate, hfile, hout⟩ := h
  obtain ⟨contents', hlocate', hfile'⟩ := FileSystem.copySource_ok hread
  rw [hgrown.keeps.locate hlocate, Except.ok.injEq] at hlocate'
  subst hlocate'
  have hmade := hgrown.kept hfile
  rw [hmade, Option.some.injEq] at hfile'
  cases hfile'
  refine ⟨contents, FileSystem.stat_of_locate hlocate hfile, ?_, hout⟩
  rw [FileSystem.contentsAt, hmade]

/-! ## One entry -/

/-- **Carrying out one entry copies its source and makes at most directories above its place.** -/
theorem carried_effect (hready : Ready wd destRoot ((place, source) :: rest) fs)
    (h : Carried wd destRoot place source fs fs') :
    Effect wd destRoot [(place, source)] fs fs' := by
  have hplace : place.IsPlace := hready.places _ List.mem_cons_self
  have hordinary : Ordinary fs ((destRoot.join place).lexical wd) :=
    hready.ordinary _ List.mem_cons_self
  have hsource : IsSource wd destRoot fs source := hready.sources _ List.mem_cons_self
  obtain ⟨made, hparent, hcopy⟩ := h
  have hgrown := makeParent_grown hparent
  obtain ⟨⟨loc, permissions, target⟩, hread, htarget, -, rfl⟩ := FileSystem.copyFile_ok_iff.1 hcopy
  obtain ⟨contents, hstat, hcontents, hout⟩ := hsource.after_grown hgrown hread
  -- without links, the copy goes where the steps of the place lead
  have hunlinked := hready.unlinked.after hgrown.keeps
  have hlexical := FileSystem.target_lexical htarget (hunlinked.trail_place hplace)
  have hprefix := runtimeLocation_prefix wd destRoot hplace
  have hnil := lexical_place_ne_nil wd destRoot hplace
  have hlast := isName_getLast_lexical_place wd destRoot hplace
  rw [← hlexical] at hprefix hnil hlast hordinary
  have hnamed := FileSystem.named_of_target htarget hlast
  have halone : made.locationsOf target = [target] := by
    rw [FileSystem.locationsOf_congr hgrown.shared, hordinary.alone]
  have hkind : ∀ e, made.get? target = some e → e.isFile = true := by
    intro e
    refine FileSystem.isFile_of_target htarget (hunlinked.below target hprefix) ?_
    exact hgrown.no_device hordinary.noDevice
  have hne : loc ≠ target := fun heq => hout (heq ▸ hprefix)
  have hcopied := FileSystem.get?_copyTo_self hnil hnamed halone permissions hne hkind
  rw [hcontents] at hcopied
  have hkeeps := FileSystem.keeps_copyTo hnil hnamed halone permissions hne hkind
  have hreached := FileSystem.locate_of_target htarget hkeeps hcopied (by simp)
  refine ⟨?_, ?_, (FileSystem.shared_copyTo ..).trans hgrown.shared, hgrown.keeps.trans hkeeps⟩
  · intro e he
    rw [List.mem_singleton] at he
    subst he
    exact ⟨contents, permissions, hstat, FileSystem.stat_of_locate hreached hcopied⟩
  · intro q
    by_cases hq : q = target
    · exact .inr (.inl ⟨place, by simp, hq ▸ hreached⟩)
    · rw [FileSystem.get?_copyTo_of_ne halone loc permissions hq]
      rcases hgrown.made q with hsame | ⟨hnone, hdir, a, ha, hled⟩
      · exact .inl hsame
      · exact .inr (.inr ⟨hnone, hdir, place, by simp, a, ha, hkeeps.locate hled⟩)

/-! ## All entries -/

/-- What is no place of the plan stays as it is, but that a directory may be made there. -/
theorem Effect.untouched (h : Effect wd destRoot plan fs fs') (hunlinked : Unlinked wd destRoot fs)
    (hplaces : ∀ e ∈ plan, e.1.IsPlace)
    (hq : ∀ e ∈ plan, q ≠ (destRoot.join e.1).lexical wd) : fs.Untouched fs' q := by
  rcases h.frame q with hsame | ⟨p, hp, hled⟩ | ⟨hnone, hdir, -⟩
  · exact .inl hsame
  · obtain ⟨e, he, rfl⟩ := List.mem_map.1 hp
    have hunlinked' := (hunlinked.after h.keeps).trail_place (hplaces e he)
    exact absurd (FileSystem.locate_lexical hled hunlinked') (hq e he)
  · exact .inr ⟨hnone, hdir⟩

/-- A source is outside of the runtime directory, and so is not written to. -/
theorem Effect.source_kept (h : Effect wd destRoot plan fs fs')
    (hunlinked : Unlinked wd destRoot fs) (hplaces : ∀ e ∈ plan, e.1.IsPlace) {loc : Location}
    {entry : Entry} (hentry : fs.get? loc = some entry)
    (hout : ¬runtimeLocation wd destRoot <+: loc) :
    fs'.get? loc = some entry := by
  have hloc : ∀ e ∈ plan, loc ≠ (destRoot.join e.1).lexical wd := by
    intro e he heq
    exact hout (heq ▸ runtimeLocation_prefix wd destRoot (hplaces e he))
  rcases h.untouched hunlinked hplaces hloc with hsame | ⟨hnone, -⟩
  · rw [hsame, hentry]
  · rw [hentry] at hnone
    cases hnone

/-- After one entry, the others can still be carried out. -/
theorem Ready.after (h : Ready wd destRoot ((place, source) :: rest) fs)
    (heffect : Effect wd destRoot [(place, source)] fs fs') : Ready wd destRoot rest fs' := by
  have hone : ∀ e ∈ [(place, source)], e.1.IsPlace := by
    intro e he
    rw [List.mem_singleton] at he
    exact he ▸ h.places _ List.mem_cons_self
  have hdistinct := h.distinct
  rw [List.map_cons, List.pairwise_cons] at hdistinct
  refine ⟨h.unlinked.after heffect.keeps, fun e he => h.places e (List.mem_cons_of_mem _ he),
    hdistinct.2, ?_, ?_⟩
  · intro e he
    obtain ⟨loc, contents, permissions, hlocate, hfile, hout⟩ :=
      h.sources e (List.mem_cons_of_mem _ he)
    exact ⟨loc, contents, permissions, heffect.keeps.locate hlocate,
      heffect.source_kept h.unlinked hone hfile hout, hout⟩
  · intro e he
    have hordinary := h.ordinary e (List.mem_cons_of_mem _ he)
    refine ⟨(FileSystem.locationsOf_congr heffect.shared _).trans hordinary.alone, ?_⟩
    intro d hd
    have hother : ∀ e' ∈ [(place, source)],
        (destRoot.join e.1).lexical wd ≠ (destRoot.join e'.1).lexical wd := by
      intro e' he' heq
      rw [List.mem_singleton] at he'
      subst he'
      exact hdistinct.1 e.1 (List.mem_map_of_mem he) (Path.lexical_injective
        (h.places _ List.mem_cons_self) (h.places e (List.mem_cons_of_mem _ he)) heq.symm)
    rcases heffect.untouched h.unlinked hone hother with hsame | ⟨-, hdir⟩
    · exact hordinary.noDevice d (hsame.symm.trans hd)
    · rw [hdir] at hd
      cases hd

/-- A source reads the same before and after other entries. -/
theorem Effect.source_stat (h : Effect wd destRoot plan fs fs')
    (hunlinked : Unlinked wd destRoot fs) (hplaces : ∀ e ∈ plan, e.1.IsPlace)
    (hsource : IsSource wd destRoot fs source) :
    fs'.stat wd source = fs.stat wd source := by
  obtain ⟨loc, contents, permissions, hlocate, hfile, hout⟩ := hsource
  rw [FileSystem.stat_of_locate hlocate hfile, FileSystem.stat_of_locate (h.keeps.locate hlocate)
    (h.source_kept hunlinked hplaces hfile hout)]

/-- A copy outlasts the entries of other places. -/
theorem Effect.copy_kept (h : Effect wd destRoot plan fs fs') (hunlinked : Unlinked wd destRoot fs)
    (hplaces : ∀ e ∈ plan, e.1.IsPlace) (hplace : place.IsPlace)
    (hother : ∀ e ∈ plan, ¬Path.Same place e.1) {entry : Entry}
    (hstat : fs.stat wd (destRoot.join place) = .ok entry) :
    fs'.stat wd (destRoot.join place) = .ok entry := by
  obtain ⟨q, hlocate, hentry⟩ := FileSystem.locate_of_stat hstat
  have hlexical := FileSystem.locate_lexical hlocate (hunlinked.trail_place hplace)
  have hq : ∀ e ∈ plan, q ≠ (destRoot.join e.1).lexical wd := by
    intro e he heq
    exact hother e he (Path.lexical_injective hplace (hplaces e he) (hlexical.symm.trans heq))
  refine FileSystem.stat_of_locate (h.keeps.locate hlocate) ?_
  rcases h.untouched hunlinked hplaces hq with hsame | ⟨hnone, -⟩
  · rw [hsame, hentry]
  · rw [hentry] at hnone
    cases hnone

theorem Effect.frame_cons {next : FileSystem} (h : Effect wd destRoot [(place, source)] fs next)
    (h' : Effect wd destRoot rest next fs') (q : Location) : fs'.get? q = fs.get? q ∨
      (∃ p ∈ place :: rest.map (·.1), fs'.locate wd (destRoot.join p) = .ok q) ∨
      (fs.get? q = none ∧ fs'.get? q = some (.directory .folder) ∧
        ∃ p ∈ place :: rest.map (·.1), ∃ a ∈ (destRoot.join p).above, fs'.locate wd a = .ok q) := by
  rcases h'.frame q with hsame | ⟨p, hp, hled⟩ | ⟨hnone, hdir, p, hp, a, ha, hled⟩
  · rw [hsame]
    rcases h.frame q with hsame' | ⟨p, hp, hled⟩ | ⟨hnone, hdir, p, hp, a, ha, hled⟩
    · exact .inl hsame'
    · rw [List.map_singleton, List.mem_singleton] at hp
      exact .inr (.inl ⟨p, hp ▸ List.mem_cons_self, h'.keeps.locate hled⟩)
    · rw [List.map_singleton, List.mem_singleton] at hp
      exact .inr (.inr ⟨hnone, hdir, p, hp ▸ List.mem_cons_self, a, ha, h'.keeps.locate hled⟩)
  · exact .inr (.inl ⟨p, List.mem_cons_of_mem _ hp, hled⟩)
  · rcases h.frame q with hsame' | ⟨p', hp', hled'⟩ | ⟨-, hdir', -⟩
    · exact .inr (.inr ⟨hsame' ▸ hnone, hdir, p, List.mem_cons_of_mem _ hp, a, ha, hled⟩)
    · rw [List.map_singleton, List.mem_singleton] at hp'
      exact .inr (.inl ⟨p', hp' ▸ List.mem_cons_self, h'.keeps.locate hled'⟩)
    · rw [hdir'] at hnone
      cases hnone

theorem Effect.cons {next : FileSystem} (hready : Ready wd destRoot ((place, source) :: rest) fs)
    (h : Effect wd destRoot [(place, source)] fs next) (h' : Effect wd destRoot rest next fs') :
    Effect wd destRoot ((place, source) :: rest) fs fs' := by
  have hnext := hready.after h
  have hplace := hready.places _ List.mem_cons_self
  have hdistinct := hready.distinct
  rw [List.map_cons, List.pairwise_cons] at hdistinct
  refine ⟨?_, h.frame_cons h', h'.shared.trans h.shared, h.keeps.trans h'.keeps⟩
  intro e he
  -- the first copy must outlast the rest; the other sources must not have been touched by it
  rcases List.mem_cons.1 he with rfl | he
  · obtain ⟨contents, permissions, hsource, hstat⟩ := h.copied _ (List.mem_singleton.2 rfl)
    exact ⟨contents, permissions, hsource, h'.copy_kept hnext.unlinked hnext.places hplace
      (fun e' he' => hdistinct.1 e'.1 (List.mem_map_of_mem he')) hstat⟩
  · obtain ⟨contents, permissions, hsource, hstat⟩ := h'.copied e he
    rw [h.source_stat hready.unlinked (by simpa using hplace)
      (hready.sources e (List.mem_cons_of_mem _ he))] at hsource
    exact ⟨contents, permissions, hsource, hstat⟩

/-- **Carrying out a plan copies every source to its place, and besides makes at most directories
above the places.** -/
theorem carryOut_effect (hready : Ready wd destRoot plan fs)
    (h : carryOut wd destRoot plan fs = (.ok (), fs', events)) :
    Effect wd destRoot plan fs fs' := by
  induction plan generalizing fs events with
  | nil =>
    cases h
    exact ⟨by simp, fun q => .inl rfl, rfl, .refl _⟩
  | cons entry rest ih =>
    obtain ⟨place, source⟩ := entry
    rcases carryOut_cons h with ⟨_, hf, -⟩ | ⟨next, more, hcarried, hrest⟩
    · cases hf
    · have heffect := carried_effect hready hcarried
      exact heffect.cons hready (ih (hready.after heffect) hrest)

/-! ## Staging -/

variable {options : ImportOptions} {settings : Settings} {report : ImportReport} {s : Survey}

/-- The plan of a survey can be carried out if its sources are outside of the runtime directory and
its places are ordinary. -/
theorem ready_of_survey (hsurvey : (survey fs wd options settings).1 = .ok s)
    (hunlinked : Unlinked wd options.destRoot fs)
    (hsources : ∀ e ∈ s.plan, Outside wd options.destRoot fs e.2)
    (hordinary : ∀ e ∈ s.plan, Ordinary fs ((options.destRoot.join e.1).lexical wd)) :
    Ready wd options.destRoot s.plan fs := by
  have hsound := survey_sound hsurvey
  refine ⟨hunlinked, fun e he => hsound.places _ (List.mem_map_of_mem he), hsound.distinct, ?_,
    hordinary⟩
  intro e he
  obtain ⟨loc, contents, permissions, hlocate, hentry⟩ :=
    FileSystem.isFile_iff.1 (hsound.sources _ (List.mem_map_of_mem he))
  exact ⟨loc, contents, permissions, hlocate, hentry, hsources e he loc hlocate⟩

/-- **Staging copies every planned source to its place, makes directories above the places, and
changes nothing else**, if no link is on the way to the runtime directory or in it, no source is in
it, and what is at the places has no other location and is no device. -/
theorem stage_frame (h : stage fs wd options settings = (.ok report, fs', events))
    (hsurvey : (survey fs wd options settings).1 = .ok s)
    (hunlinked : Unlinked wd options.destRoot fs)
    (hsources : ∀ e ∈ s.plan, Outside wd options.destRoot fs e.2)
    (hordinary : ∀ e ∈ s.plan, Ordinary fs ((options.destRoot.join e.1).lexical wd)) :
    report.copied = s.plan.map (·.1) ∧
      (∀ e ∈ s.plan, ∃ contents permissions,
        fs.stat wd e.2 = .ok (.file contents permissions) ∧
        fs'.stat wd (options.destRoot.join e.1) = .ok (.file contents permissions)) ∧
      (∀ q, fs'.get? q = fs.get? q ∨
        (∃ p ∈ report.copied, fs'.locate wd (options.destRoot.join p) = .ok q) ∨
        (fs.get? q = none ∧ fs'.get? q = some (.directory .folder) ∧
          ∃ p ∈ report.copied, ∃ a ∈ (options.destRoot.join p).above, fs'.locate wd a = .ok q)) ∧
      fs'.shared = fs.shared := by
  obtain ⟨s', more, hsurvey', rfl, hcarry⟩ := stage_ok_cases h
  rw [hsurvey, Except.ok.injEq] at hsurvey'
  subst hsurvey'
  have heffect := carryOut_effect (ready_of_survey hsurvey hunlinked hsources hordinary) hcarry
  exact ⟨rfl, heffect.copied, heffect.frame, heffect.shared⟩

/-- The plan for the package `p`. -/
def packagedSurvey : Survey where
  plan := [
    (runtimeDir.join ⟨[0x61]⟩, ⟨[0x70, 0x2F, 0x2E, 0x2F, 0x61]⟩),
    (runtimeDir.join ⟨[0x62]⟩, ⟨[0x70, 0x2F, 0x2E, 0x2F, 0x62]⟩)]
  filteredOut := []

/-- Another file stands where the file `a` belongs, with other permissions. -/
def occupied : FileSystem :=
  (packaged.put [runtimeDir.octets] (.directory .folder)).put [runtimeDir.octets, [0x61]]
    (.file [0] .program)

/-- Both files arrive, the one in the place of the other file. -/
theorem stage_frame_occupied :
    ∃ report fs' events, stage occupied [] packagedOptions .detect = (.ok report, fs', events) ∧
      report.copied = packagedSurvey.plan.map (·.1) ∧
      ∀ e ∈ packagedSurvey.plan, ∃ contents permissions,
        occupied.stat [] e.2 = .ok (.file contents permissions) ∧
        fs'.stat [] (packagedOptions.destRoot.join e.1) = .ok (.file contents permissions) := by
  have hok : (stage occupied [] packagedOptions .detect).1 =
      .ok ⟨packagedSurvey.plan.map (·.1), []⟩ := by
    decide +kernel
  have hstage := Prod.ext (y := (Except.ok _, _, _)) hok rfl
  have hlinks : ∀ q t, occupied.get? q ≠ some (.link t) :=
    FileSystem.get?_ne_link (by decide +kernel)
  obtain ⟨hcopied, hfiles, -⟩ := stage_frame (s := packagedSurvey) hstage (by decide +kernel)
    ⟨fun q _ => hlinks q, fun q _ => hlinks q⟩ (by decide +kernel) (by decide +kernel)
  exact ⟨_, _, _, hstage, hcopied, hfiles⟩

/-- The files `a` and `b` belong where one file has two locations. -/
def linked : FileSystem :=
  ((packaged.put [runtimeDir.octets] (.directory .folder)).put [runtimeDir.octets, [0x61]]
    (.file [0] .plain)).share [runtimeDir.octets, [0x61]] [runtimeDir.octets, [0x62]]

/-- A device stands where the file `a` belongs. -/
def plugged : FileSystem :=
  (packaged.put [runtimeDir.octets] (.directory .folder)).put [runtimeDir.octets, [0x61]]
    (.device .null)

/-- **What is at the places must have no other location and be no device**: of two places of one
file, the first loses its copy to the second, and a device does not become a file. -/
theorem stage_not_framed :
    (¬∀ (fs : FileSystem) (wd : Location) (options : ImportOptions) (settings : Settings)
        (report : ImportReport) (fs' : FileSystem) (events : List Event) (s : Survey),
      stage fs wd options settings = (.ok report, fs', events) →
      (survey fs wd options settings).1 = .ok s → Unlinked wd options.destRoot fs →
      (∀ e ∈ s.plan, Outside wd options.destRoot fs e.2) →
      (∀ q d, fs.get? q ≠ some (.device d)) →
      ∀ e ∈ s.plan, fs'.stat wd (options.destRoot.join e.1) = fs.stat wd e.2) ∧
    ¬∀ (fs : FileSystem) (wd : Location) (options : ImportOptions) (settings : Settings)
        (report : ImportReport) (fs' : FileSystem) (events : List Event) (s : Survey),
      stage fs wd options settings = (.ok report, fs', events) →
      (survey fs wd options settings).1 = .ok s → Unlinked wd options.destRoot fs →
      (∀ e ∈ s.plan, Outside wd options.destRoot fs e.2) →
      (∀ q, fs.locationsOf q = [q]) →
      ∀ e ∈ s.plan, fs'.stat wd (options.destRoot.join e.1) = fs.stat wd e.2 := by
  constructor
  · intro h
    have hok : (stage linked [] packagedOptions .detect).1 =
        .ok ⟨packagedSurvey.plan.map (·.1), []⟩ := by
      decide +kernel
    have hlinks : ∀ q t, linked.get? q ≠ some (.link t) :=
      FileSystem.get?_ne_link (by decide +kernel)
    have hdevices : ∀ q d, linked.get? q ≠ some (.device d) :=
      FileSystem.get?_ne_device (by decide +kernel)
    have hsame := h linked [] packagedOptions .detect _ _ _ packagedSurvey
      (Prod.ext (y := (Except.ok _, _, _)) hok rfl) (by decide +kernel)
      ⟨fun q _ => hlinks q, fun q _ => hlinks q⟩ (by decide +kernel) hdevices
    exact absurd hsame (by decide +kernel)
  · intro h
    have hok : (stage plugged [] packagedOptions .detect).1 =
        .ok ⟨packagedSurvey.plan.map (·.1), []⟩ := by
      decide +kernel
    have hlinks : ∀ q t, plugged.get? q ≠ some (.link t) :=
      FileSystem.get?_ne_link (by decide +kernel)
    have hsame := h plugged [] packagedOptions .detect _ _ _ packagedSurvey
      (Prod.ext (y := (Except.ok _, _, _)) hok rfl) (by decide +kernel)
      ⟨fun q _ => hlinks q, fun q _ => hlinks q⟩ (by decide +kernel) (fun _ => rfl)
    exact absurd hsame (by decide +kernel)

end ConsumerCheck.Staging
