import ConsumerCheck.Proofs.FileSystem.Copying
import ConsumerCheck.Staging

/-!
# Carrying out a plan

* `Carried`, `Refused` — the two ways in which one entry of a plan can end;
* `Written` — the locations that a plan writes to while it is carried out;
* `Failed` — what a copy that fails has changed.

Principal results: `carryOut_cons`, `carryOut_error_split` — a plan is carried out entry by entry, up to the
first that is refused; `Refused.failed` — what that one leaves; `carryOut_frame` — outside the locations written
to, at most directories are made; `carryOut_keeps` — what is carried out takes nothing away.
-/

namespace ConsumerCheck

/-- The directories above a path, the nearest first. -/
def Path.above (p : Path) : List Path :=
  match p.parent? with
  | none => []
  | some parent => parent :: parent.ancestors

namespace Staging

variable {wd : Location} {destRoot place source : Path} {plan rest : Plan}
  {fs fs' : FileSystem} {f : Failure} {events : List Event} {q : Location}

theorem makeParent_grown {dest : Path} {result : Except Failure Unit}
    (h : makeParent fs wd dest = (result, fs')) : FileSystem.Grown wd dest.above fs fs' := by
  unfold makeParent at h
  unfold Path.above
  cases hp : dest.parent? with
  | none =>
    rw [hp] at h
    cases h
    exact .refl ..
  | some parent =>
    simp only [hp] at h
    split at h
    · rename_i hmake
      cases h
      exact FileSystem.makeDirectories_grown hmake
    · rename_i hmake
      cases h
      exact FileSystem.makeDirectories_grown hmake

/-- The file at `source` was copied to `place` below `destRoot`. -/
def Carried (wd : Location) (destRoot place source : Path) (fs fs' : FileSystem) : Prop :=
  ∃ made, makeParent fs wd (destRoot.join place) = (.ok (), made) ∧
    made.copyFile wd source (destRoot.join place) = (.ok (), fs')

/-- The file at `source` was not copied to `place` below `destRoot`. -/
inductive Refused (wd : Location) (destRoot place source : Path) (fs : FileSystem) :
    Failure → FileSystem → Prop where
  /-- The directory for it could not be made. -/
  | parent {f made} (hparent : makeParent fs wd (destRoot.join place) = (.error f, made)) :
      Refused wd destRoot place source fs f made
  /-- The source or the destination could not be opened. -/
  | unopened {made cause} (hparent : makeParent fs wd (destRoot.join place) = (.ok (), made))
      (hopen : made.copyEnds wd source (destRoot.join place) = .error cause) :
      Refused wd destRoot place source fs (.filesystem source cause) made
  /-- The copy broke off after both were opened. -/
  | brokenOff {made ends broken} (hparent : makeParent fs wd (destRoot.join place) = (.ok (), made))
      (hopen : made.copyEnds wd source (destRoot.join place) = .ok ends)
      (hbreak : made.breakOff? (destRoot.join place) ends = some broken) :
      Refused wd destRoot place source fs (.filesystem source broken.cause)
        (made.copyUpTo ends.source ends.dest ends.permissions broken.progress)

/-- An entry comes to an end before the next one begins. -/
theorem carryOut_cons {result : Except Failure Unit}
    (h : carryOut wd destRoot ((place, source) :: rest) fs = (result, fs', events)) :
    (∃ f, result = .error f ∧ Refused wd destRoot place source fs f fs') ∨
      ∃ next more, Carried wd destRoot place source fs next ∧
        carryOut wd destRoot rest next = (result, fs', more) := by
  unfold carryOut at h
  dsimp only at h
  split at h
  · rename_i hparent
    cases h
    exact .inl ⟨_, rfl, .parent hparent⟩
  · rename_i hparent
    split at h
    · rename_i hcopy
      cases h
      refine .inl ⟨_, rfl, ?_⟩
      rcases FileSystem.copyFile_error_cases hcopy with
        ⟨hopen, rfl⟩ | ⟨ends, broken, hopen, hbreak, rfl, rfl⟩
      · exact .unopened hparent hopen
      · exact .brokenOff hparent hopen hbreak
    · rename_i next hcopy
      cases h
      exact .inr ⟨next, _, ⟨_, hparent, hcopy⟩, rfl⟩

theorem Carried.carryOut_cons {next : FileSystem} (h : Carried wd destRoot place source fs next)
    (rest : Plan) : carryOut wd destRoot ((place, source) :: rest) fs =
      ((carryOut wd destRoot rest next).1, (carryOut wd destRoot rest next).2.1,
        .copied source (destRoot.join place) :: (carryOut wd destRoot rest next).2.2) := by
  obtain ⟨made, hparent, hcopy⟩ := h
  rw [carryOut]
  simp only [hparent, hcopy]

/-- **A plan that is not carried out to its end stops at the first entry that is refused.** -/
theorem carryOut_error_split (h : carryOut wd destRoot plan fs = (.error f, fs', events)) :
    ∃ done place source rest before copies, plan = done ++ (place, source) :: rest ∧
      carryOut wd destRoot done fs = (.ok (), before, copies) ∧
      Refused wd destRoot place source before f fs' := by
  induction plan generalizing fs events with
  | nil => cases h
  | cons entry rest ih =>
    obtain ⟨place, source⟩ := entry
    rcases carryOut_cons h with ⟨f', hf, hrefused⟩ | ⟨next, more, hcarried, hrest⟩
    · cases hf
      exact ⟨[], place, source, rest, fs, [], rfl, rfl, hrefused⟩
    · obtain ⟨done, place', source', rest', before, copies, rfl, hdone, hrefused⟩ := ih hrest
      refine ⟨(place, source) :: done, place', source', rest', before,
        .copied source (destRoot.join place) :: copies, rfl, ?_, hrefused⟩
      rw [hcarried.carryOut_cons, hdone]

/-! ## What is written -/

/-- While the plan is carried out, some entry of it is copied to the file at this location. -/
inductive Written (wd : Location) (destRoot : Path) : Plan → FileSystem → Location → Prop where
  | head {place source rest fs made target q}
      (hparent : makeParent fs wd (destRoot.join place) = (.ok (), made))
      (htarget : made.target wd (destRoot.join place) = .ok target)
      (hq : q ∈ made.locationsOf target) : Written wd destRoot ((place, source) :: rest) fs q
  | tail {place source rest fs next q} (hcarried : Carried wd destRoot place source fs next)
      (h : Written wd destRoot rest next q) : Written wd destRoot ((place, source) :: rest) fs q

/-- A plan that is longer writes no less. -/
theorem Written.append (h : Written wd destRoot plan fs q) (rest : Plan) :
    Written wd destRoot (plan ++ rest) fs q := by
  induction h with
  | head hparent htarget hq => exact .head hparent htarget hq
  | tail hcarried _ ih => exact .tail hcarried ih

/-- What is written to after a part of a plan was carried out is written to by the whole. -/
theorem Written.after {before : FileSystem}
    (hplan : carryOut wd destRoot plan fs = (.ok (), before, events))
    (h : Written wd destRoot rest before q) : Written wd destRoot (plan ++ rest) fs q := by
  induction plan generalizing fs events with
  | nil =>
    cases hplan
    exact h
  | cons entry plan ih =>
    obtain ⟨place, source⟩ := entry
    rcases carryOut_cons hplan with ⟨_, hf, -⟩ | ⟨next, more, hcarried, hrest⟩
    · cases hf
    · exact .tail hcarried (ih hrest)

/-- A copy has failed: it was refused and has changed nothing, or it broke off and has cut short the file at
the locations `spoiled`. -/
inductive Failed (wd : Location) (source dest : Path) (fs fs' : FileSystem) :
    List Location → Prop where
  | refused (h : fs' = fs) : Failed wd source dest fs fs' []
  | brokenOff {loc target} (hsource : fs.locate wd source = .ok loc)
      (htarget : fs.target wd dest = .ok target) (h : FileSystem.CutShort loc target fs fs') :
      Failed wd source dest fs fs' (fs.locationsOf target)

theorem Failed.get?_eq {dest : Path} {spoiled : List Location}
    (h : Failed wd source dest fs fs' spoiled) (hq : q ∉ spoiled) : fs'.get? q = fs.get? q := by
  cases h with
  | refused h => rw [h]
  | brokenOff _ _ h => exact (h.locations q).resolve_right fun hmem => hq hmem.1

/-- **An entry that is not carried out makes at most directories above its place, and what it cuts short is its
destination.** -/
theorem Refused.failed (h : Refused wd destRoot place source fs f fs') :
    ∃ made spoiled, FileSystem.Grown wd (destRoot.join place).above fs made ∧
      Failed wd source (destRoot.join place) made fs' spoiled ∧
      ∀ q ∈ spoiled, Written wd destRoot [(place, source)] fs q := by
  cases h with
  | parent hparent => exact ⟨_, [], makeParent_grown hparent, .refused rfl, by simp⟩
  | unopened hparent _ => exact ⟨_, [], makeParent_grown hparent, .refused rfl, by simp⟩
  | brokenOff hparent hopen hbreak =>
    obtain ⟨hread, htarget⟩ := FileSystem.copyEnds_ok_iff.1 hopen
    obtain ⟨-, hlocate, -⟩ := FileSystem.copySource_ok hread
    exact ⟨_, _, makeParent_grown hparent,
      .brokenOff hlocate htarget (FileSystem.copyUpTo_cutShort htarget ..),
      fun q hq => .head hparent htarget hq⟩

/-- **Outside the files that a plan copies to, carrying it out at most makes directories.** -/
theorem carryOut_frame (h : carryOut wd destRoot plan fs = (.ok (), fs', events))
    (hq : ¬Written wd destRoot plan fs q) : fs.Untouched fs' q := by
  induction plan generalizing fs events with
  | nil =>
    cases h
    exact .inl rfl
  | cons entry rest ih =>
    obtain ⟨place, source⟩ := entry
    rcases carryOut_cons h with ⟨_, hf, -⟩ | ⟨next, more, hcarried, hrest⟩
    · cases hf
    have htail := ih hrest fun hw => hq (.tail hcarried hw)
    obtain ⟨made, hparent, hcopy⟩ := hcarried
    obtain ⟨⟨loc, permissions, target⟩, -, htarget, -, rfl⟩ := FileSystem.copyFile_ok_iff.1 hcopy
    have hout : q ∉ made.locationsOf target := fun hmem => hq (.head hparent htarget hmem)
    have hcopied : made.Untouched (made.copyTo loc target permissions) q :=
      .inl (FileSystem.get?_copyTo_of_not_mem made loc permissions hout)
    exact ((makeParent_grown hparent).untouched q).trans (hcopied.trans htail)

/-! ## What is kept -/

/-- A copy leaves a consistent file system in which all that could be found before still can be. -/
theorem Carried.keeps (h : Carried wd destRoot place source fs next) (hfs : fs.Consistent) :
    next.Consistent ∧ FileSystem.Keeps fs next ∧ next.shared = fs.shared ∧ next.medium = fs.medium := by
  obtain ⟨made, hparent, hcopy⟩ := h
  obtain ⟨⟨loc, permissions, target⟩, -, htarget, -, rfl⟩ := FileSystem.copyFile_ok_iff.1 hcopy
  have hgrown := makeParent_grown hparent
  obtain ⟨hconsistent, hkeeps⟩ :=
    FileSystem.copyTo_keeps (hgrown.consistent hfs) htarget loc permissions
  exact ⟨hconsistent, hgrown.keeps.trans hkeeps,
    (FileSystem.shared_copyTo ..).trans hgrown.shared,
    (FileSystem.medium_copyTo ..).trans hgrown.medium⟩

theorem carryOut_keeps (h : carryOut wd destRoot plan fs = (.ok (), fs', events))
    (hfs : fs.Consistent) :
    fs'.Consistent ∧ FileSystem.Keeps fs fs' ∧ fs'.shared = fs.shared ∧ fs'.medium = fs.medium := by
  induction plan generalizing fs events with
  | nil =>
    cases h
    exact ⟨hfs, .refl _, rfl, rfl⟩
  | cons entry rest ih =>
    obtain ⟨place, source⟩ := entry
    rcases carryOut_cons h with ⟨_, hf, -⟩ | ⟨next, more, hcarried, hrest⟩
    · cases hf
    · obtain ⟨hnext, hkeeps, hshared, hmedium⟩ := hcarried.keeps hfs
      obtain ⟨hconsistent, hkeeps', hshared', hmedium'⟩ := ih hrest hnext
      exact ⟨hconsistent, hkeeps.trans hkeeps', hshared'.trans hshared, hmedium'.trans hmedium⟩

/-! ## Both phases -/

variable {options : ImportOptions} {settings : Settings}

theorem stage_error_cases (h : stage fs wd options settings = (.error f, fs', events)) :
    ((survey fs wd options settings).1 = .error f ∧ fs' = fs) ∨
      ∃ s more, (survey fs wd options settings).1 = .ok s ∧
        carryOut wd options.destRoot s.plan fs = (.error f, fs', more) := by
  unfold stage at h
  split at h
  · rename_i hsurvey
    cases h
    exact .inl ⟨by rw [hsurvey], rfl⟩
  · rename_i s _ hsurvey
    split at h
    · rename_i hcarry
      cases h
      exact .inr ⟨s, _, by rw [hsurvey], hcarry⟩
    · cases h

theorem stage_ok_cases {report : ImportReport}
    (h : stage fs wd options settings = (.ok report, fs', events)) :
    ∃ s more, (survey fs wd options settings).1 = .ok s ∧
      report = ⟨s.plan.map (·.1), s.filteredOut⟩ ∧
      carryOut wd options.destRoot s.plan fs = (.ok (), fs', more) := by
  unfold stage at h
  split at h
  · cases h
  · rename_i s _ hsurvey
    split at h
    · cases h
    · rename_i hcarry
      cases h
      exact ⟨s, _, by rw [hsurvey], rfl, hcarry⟩

/-- Staging carries out what the first phase has planned. -/
theorem stage_of_survey {s : Survey} (h : (survey fs wd options settings).1 = .ok s) :
    (stage fs wd options settings).1 = (carryOut wd options.destRoot s.plan fs).1.map
        (fun _ => ⟨s.plan.map (·.1), s.filteredOut⟩) ∧
      (stage fs wd options settings).2.1 = (carryOut wd options.destRoot s.plan fs).2.1 := by
  unfold stage
  rcases hsurvey : survey fs wd options settings with ⟨result, events⟩
  rw [hsurvey] at h
  cases h
  rcases hcarry : carryOut wd options.destRoot s.plan fs with ⟨_ | ⟨⟩, fs', more⟩
  · simp [hcarry, Except.map]
  · simp [hcarry, Except.map]

theorem stage_of_survey_error (h : (survey fs wd options settings).1 = .error f) :
    (stage fs wd options settings).1 = .error f ∧ (stage fs wd options settings).2.1 = fs := by
  unfold stage
  rcases hsurvey : survey fs wd options settings with ⟨result, events⟩
  rw [hsurvey] at h
  cases h
  exact ⟨rfl, rfl⟩

end Staging

end ConsumerCheck
