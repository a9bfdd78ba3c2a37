import ConsumerCheck.Proofs.FileSystem.Persistence

/-!
# Copying a file

A copy (`fs::copy`) opens its source and its destination and is refused if it cannot, which changes nothing.
Then it comes to its end, or breaks off with a part of its work done.

* `copyEnds_ok_iff`, `copyFile_ok_iff`, `copyFile_error_cases` — the three ways in which a copy can end;
* `copySource_ok`, `copySource_of_file` — what a copy reads;
* `CutShort` — what a copy that breaks off has done.

Principal result: `copyUpTo_cutShort` — a copy that breaks off leaves a beginning of its source, and nothing
else has changed.
-/

namespace ConsumerCheck.FileSystem

variable {fs fs' : FileSystem} {wd loc place q : Location} {source dest : Path} {ends : CopyEnds}
  {permissions : Permissions} {cause : IoError}

/-! ## The source -/

theorem copySource_ok (h : fs.copySource wd source = .ok (loc, permissions)) :
    ∃ contents, fs.locate wd source = .ok loc ∧
      fs.get? loc = some (.file contents permissions) := by
  unfold copySource at h
  cases hl : fs.locate wd source with
  | error _ => simp [hl, bind, Except.bind] at h
  | ok place =>
    simp only [hl, bind, Except.bind] at h
    split at h
    · rename_i e he
      split at h
      · cases h
      split at h
      · cases h
      split at h
      · rename_i hfile
        cases h
        cases e with
        | file contents permissions => exact ⟨contents, rfl, he⟩
        | directory _ => cases hfile
        | link _ => cases hfile
        | device _ => cases hfile
      · cases h
    · cases h

/-- A source that is a file is read if it may be. -/
theorem copySource_of_file {contents : Bytes} (hlocate : fs.locate wd source = .ok loc)
    (hfile : fs.get? loc = some (.file contents permissions)) :
    fs.copySource wd source =
      if permissions.mayRead then .ok (loc, permissions) else .error (.os .permissionDenied) := by
  unfold copySource
  simp only [hlocate, hfile, bind, Except.bind, Entry.permissions]
  by_cases hread : permissions.mayRead = true <;> simp [hread, Entry.isFile]

/-- A source reads the same where it is at the same location and the same stands there. -/
theorem copySource_congr (h : fs.copySource wd source = .ok (loc, permissions))
    (hlocate : fs'.locate wd source = .ok loc) (hentry : fs'.get? loc = fs.get? loc) :
    fs'.copySource wd source = .ok (loc, permissions) := by
  obtain ⟨contents, hlocate', hfile⟩ := copySource_ok h
  rw [copySource_of_file hlocate (hentry.trans hfile), ← copySource_of_file hlocate' hfile]
  exact h

/-! ## How a copy ends -/

theorem copyEnds_ok_iff : fs.copyEnds wd source dest = .ok ends ↔
    fs.copySource wd source = .ok (ends.source, ends.permissions) ∧
      fs.target wd dest = .ok ends.dest := by
  unfold copyEnds
  cases hs : fs.copySource wd source with
  | error e => simp [bind, Except.bind]
  | ok found =>
    cases ht : fs.target wd dest with
    | error e => simp [bind, Except.bind]
    | ok place =>
      cases ends
      simp only [bind, Except.bind, Except.ok.injEq, CopyEnds.mk.injEq, Prod.ext_iff]
      exact and_assoc.symm

theorem breakOff?_eq_none_iff : fs.breakOff? dest ends = none ↔
    (fs.get? ends.dest = some (.device .full) → fs.contentsAt ends.source = []) ∧
      fs.medium.breakOff? dest (fs.contentsAt ends.source) = none := by
  unfold breakOff?
  dsimp only
  split
  · rename_i hfull
    simp [hfull.1, hfull.2]
  · rename_i hroom
    rw [not_and_not_right] at hroom
    exact ⟨fun h => ⟨hroom, h⟩, And.right⟩

theorem copyFile_ok_iff : fs.copyFile wd source dest = (.ok (), fs') ↔
    ∃ ends, fs.copySource wd source = .ok (ends.source, ends.permissions) ∧
      fs.target wd dest = .ok ends.dest ∧ fs.breakOff? dest ends = none ∧
      fs.copyTo ends.source ends.dest ends.permissions = fs' := by
  simp only [← and_assoc, ← copyEnds_ok_iff]
  unfold copyFile
  cases hopen : fs.copyEnds wd source dest with
  | error e => simp
  | ok ends =>
    dsimp only
    cases hbreak : fs.breakOff? dest ends with
    | none => simp [hbreak]
    | some broken => simp [hbreak]

/-- A copy that fails was refused before it changed anything, or broke off with a part of its work done. -/
theorem copyFile_error_cases (h : fs.copyFile wd source dest = (.error cause, fs')) :
    (fs.copyEnds wd source dest = .error cause ∧ fs' = fs) ∨
      ∃ ends broken, fs.copyEnds wd source dest = .ok ends ∧
        fs.breakOff? dest ends = some broken ∧ cause = broken.cause ∧
        fs' = fs.copyUpTo ends.source ends.dest ends.permissions broken.progress := by
  unfold copyFile at h
  split at h
  · rename_i hopen
    cases h
    exact .inl ⟨hopen, rfl⟩
  · rename_i ends hopen
    split at h
    · cases h
    · rename_i broken hbreak
      cases h
      exact .inr ⟨ends, broken, hopen, hbreak, rfl, rfl⟩

/-- A copy depends on the contents of its source alone, unless the source is its destination. -/
theorem copy_congr {other : Location} (hsource : loc ∉ fs.locationsOf place)
    (hother : other ∉ fs.locationsOf place) (hsame : fs.contentsAt loc = fs.contentsAt other)
    (permissions : Permissions) :
    fs.copyTo loc place permissions = fs.copyTo other place permissions ∧
      ∀ progress, fs.copyUpTo loc place permissions progress =
        fs.copyUpTo other place permissions progress := by
  have hemptied : (fs.overwrite place [] permissions).contentsAt loc =
      (fs.overwrite place [] permissions).contentsAt other := by
    rw [contentsAt_overwrite_of_not_mem fs [] permissions hsource,
      contentsAt_overwrite_of_not_mem fs [] permissions hother, hsame]
  refine ⟨?_, fun progress => ?_⟩
  · simp only [copyTo, hemptied]
  · cases progress with
    | opened mask => rfl
    | received count => simp only [copyUpTo, hemptied]

/-! ## A copy that breaks off -/

/-- A copy from `source` to `place` has broken off. -/
structure CutShort (source place : Location) (fs fs' : FileSystem) : Prop where
  /-- What has changed is at a location of the destination and holds a beginning of the source, which may be
  nothing. -/
  locations : ∀ q, fs'.get? q = fs.get? q ∨ q ∈ fs.locationsOf place ∧
    ∃ part permissions, part <+: fs.contentsAt source ∧
      fs'.get? q = some (.file part permissions)
  /-- If the destination is a file, or new, then all of its locations hold this. -/
  arrived : fs.Consistent → (∀ e, fs.get? place = some e → e.isFile = true) →
    ∃ part permissions, part <+: fs.contentsAt source ∧
      ∀ q ∈ fs.locationsOf place, fs'.get? q = some (.file part permissions)
  /-- What keeps nothing has received nothing. -/
  kept : ∀ e, fs.get? place = some e → e.isFile = false → fs' = fs

theorem beginning_overwrite (fs : FileSystem) (source place : Location)
    (permissions : Permissions) :
    (fs.overwrite place [] permissions).contentsAt source <+: fs.contentsAt source := by
  unfold contentsAt
  rcases get?_overwrite_eq_or fs place source [] permissions with hsame | ⟨-, hempty⟩
  · simp only [hsame, List.prefix_refl]
  · simp only [hempty, List.nil_prefix]

/-- **A copy that breaks off leaves a beginning of the source in its destination, and changes nothing
else.** -/
theorem copyUpTo_cutShort (htarget : fs.target wd dest = .ok place) (source : Location)
    (permissions : Permissions) (progress : CopyProgress) :
    CutShort source place fs (fs.copyUpTo source place permissions progress) := by
  have hnew := fun hfs => storable_of_target hfs htarget
  cases progress with
  | opened mask =>
    simp only [copyUpTo, write]
    generalize (fs.permissionsAt? place).getD (permissions.without mask) = m
    refine ⟨fun q => ?_, fun hfs hfile => ?_, fun e he hnot => overwrite_of_not_file he hnot [] m⟩
    · refine (get?_overwrite_eq_or fs place q [] m).imp_right ?_
      rintro ⟨hq, hempty⟩
      exact ⟨hq, [], m, List.nil_prefix, hempty⟩
    · have hreplaced := overwrite_replaced (storable_of_file hfs (hnew hfs) hfile) (hfs.alone place)
        hfile [] m
      exact ⟨[], m, List.nil_prefix, hreplaced.new⟩
  | received count =>
    have hpart := (List.take_prefix count _).trans
      (beginning_overwrite fs source place permissions)
    simp only [copyUpTo]
    generalize ((fs.overwrite place [] permissions).contentsAt source).take count = part at hpart
    refine ⟨fun q => ?_, fun hfs hfile => ?_, fun e he hnot => ?_⟩
    · rcases get?_overwrite_eq_or (fs.overwrite place [] permissions) place q part permissions with
        hsame | ⟨hq, hnewly⟩
      · -- what the copy has not reached is as the emptied destination left it
        rw [hsame]
        refine (get?_overwrite_eq_or fs place q [] permissions).imp_right ?_
        rintro ⟨hq, hempty⟩
        exact ⟨hq, [], permissions, List.nil_prefix, hempty⟩
      · rw [locationsOf_congr (shared_overwrite ..)] at hq
        exact .inr ⟨hq, part, permissions, hpart, hnewly⟩
    · have hreplaced := overwrite_overwrite_replaced hfs (hnew hfs) hfile part permissions
      exact ⟨part, permissions, hpart, hreplaced.new⟩
    · rw [overwrite_of_not_file he hnot, overwrite_of_not_file he hnot]

end ConsumerCheck.FileSystem
