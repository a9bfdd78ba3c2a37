import ConsumerCheck.Proofs.Staging.CarryOut

/-!
# Staging that fails

A failure of the first phase of `import_artifacts` leaves every file as it was. The second phase is not undone:
it leaves what the entries before the refused one have written, the directories on the way to the refused one,
if its copy broke off what had arrived of it, and nothing of those after it.

Principal results: `stage_failure` — what a failure leaves; `stage_not_atomic` — that this is not
always nothing.
-/

namespace ConsumerCheck.Staging

variable {wd : Location} {fs fs' : FileSystem} {options : ImportOptions} {settings : Settings}
  {f : Failure} {events : List Event}

/-- **A failure of the first phase leaves all files alone; one of the second leaves what was written
before it.** The plan is then cut at one entry. Those before it were carried out, and those after it were not
begun. The entry itself made at most directories above its destination, and if its copy broke off, the
destination holds a beginning of the source. Anywhere else, where no entry before it was copied, at most a
directory has appeared. -/
theorem stage_failure (h : stage fs wd options settings = (.error f, fs', events)) :
    ((survey fs wd options settings).1 = .error f ∧ fs' = fs) ∨
      ∃ s done place source rest before copies,
        (survey fs wd options settings).1 = .ok s ∧ s.plan = done ++ (place, source) :: rest ∧
        carryOut wd options.destRoot done fs = (.ok (), before, copies) ∧
        Refused wd options.destRoot place source before f fs' ∧
        ∃ made spoiled, FileSystem.Grown wd (options.destRoot.join place).above before made ∧
          (fs.Consistent → made.Consistent) ∧
          Failed wd source (options.destRoot.join place) made fs' spoiled ∧
          ∀ q, ¬Written wd options.destRoot done fs q → q ∉ spoiled → fs.Untouched fs' q := by
  rcases stage_error_cases h with hsurvey | ⟨s, more, hsurvey, hcarry⟩
  · exact .inl hsurvey
  · obtain ⟨done, place, source, rest, before, copies, hplan, hdone, hrefused⟩ :=
      carryOut_error_split hcarry
    obtain ⟨made, spoiled, hgrown, hfailed, -⟩ := hrefused.failed
    refine .inr ⟨s, done, place, source, rest, before, copies, hsurvey, hplan, hdone, hrefused, made,
      spoiled, hgrown, fun hfs => hgrown.consistent (carryOut_keeps hdone hfs).1, hfailed, ?_⟩
    intro q hq hout
    exact (carryOut_frame hdone hq).trans ((hgrown.untouched q).trans (.inl (hfailed.get?_eq hout)))

/-- A package `p` in the working directory, with the files `a` and `b`. -/
def packaged : FileSystem :=
  ((FileSystem.empty.put [[0x70]] (.directory .folder)).put [[0x70], [0x61]] (.file [1] .plain)).put
    [[0x70], [0x62]] (.file [2] .plain)

/-- All files of the package `p` are staged below the working directory. -/
def packagedOptions : ImportOptions where
  packageFolder := ⟨[0x70]⟩
  destRoot := ⟨Path.dot⟩
  rules := [⟨.unix, "*", ⟨Path.dot⟩, runtimeDir⟩]
  filterHostPlatform := false

/-- A directory stands where the file `b` belongs. -/
def crowded : FileSystem :=
  (packaged.put [runtimeDir.octets] (.directory .folder)).put [runtimeDir.octets, [0x62]]
    (.directory .folder)

/-- A medium on which no file is longer than so many octets. -/
def limited (size : Nat) : Medium where
  refusal? _ := none
  breakOff? _ contents :=
    if size < contents.length then some ⟨.received size, .os .fileTooLarge⟩ else none

/-- The file `b` is longer than the medium allows a copy to be. -/
def cramped : FileSystem :=
  { packaged.put [[0x70], [0x62]] (.file [2, 3] .plain) with medium := limited 1 }

/-- The file `a` arrives, and the beginning of the file `b`. -/
theorem stage_failure_cramped :
    ∃ f fs' events, stage cramped [] packagedOptions .detect = (.error f, fs', events) ∧
      fs'.get? [runtimeDir.octets, [0x61]] = some (.file [1] .plain) ∧
      fs'.get? [runtimeDir.octets, [0x62]] = some (.file [2] .plain) ∧
      ∃ done place source rest before copies,
        (survey cramped [] packagedOptions .detect).1.map Survey.plan =
          .ok (done ++ (place, source) :: rest) ∧
        carryOut [] packagedOptions.destRoot done cramped = (.ok (), before, copies) ∧
        Refused [] packagedOptions.destRoot place source before f fs' ∧
        ∃ made spoiled, Failed [] source (packagedOptions.destRoot.join place) made fs' spoiled ∧
          ∀ q, ¬Written [] packagedOptions.destRoot done cramped q → q ∉ spoiled →
            cramped.Untouched fs' q := by
  have hfail : (stage cramped [] packagedOptions .detect).1 =
      .error (.filesystem ⟨[0x70, 0x2F, 0x2E, 0x2F, 0x62]⟩ (.os .fileTooLarge)) := by
    decide +kernel
  have hstage := Prod.ext (y := (Except.error _, _, _)) hfail rfl
  have hsurvey : (survey cramped [] packagedOptions .detect).1.isOk = true := by decide +kernel
  refine ⟨_, _, _, hstage, by decide +kernel, by decide +kernel, ?_⟩
  rcases stage_failure hstage with ⟨herror, -⟩ | ⟨s, done, place, source, rest, before, copies, hok,
    hplan, hdone, hrefused, made, spoiled, -, -, hfailed, hq⟩
  · rw [herror] at hsurvey
    cases hsurvey
  · refine ⟨done, place, source, rest, before, copies, ?_, hdone, hrefused, made, spoiled, hfailed, hq⟩
    rw [hok, ← hplan]
    rfl

/-- **Staging is not atomic**: a failure can leave a new file below the root of the run layout. -/
theorem stage_not_atomic :
    ¬∀ (fs : FileSystem) (wd : Location) (options : ImportOptions) (settings : Settings)
      (f : Failure) (fs' : FileSystem) (events : List Event),
      stage fs wd options settings = (.error f, fs', events) →
      ∀ root, fs.locate wd options.destRoot = .ok root →
      ∀ q, root <+: q → fs'.get? q = fs.get? q := by
  intro h
  have hfail : (stage crowded [] packagedOptions .detect).1 =
      .error (.filesystem ⟨[0x70, 0x2F, 0x2E, 0x2F, 0x62]⟩ (.os .isDirectory)) := by
    decide +kernel
  have hroot : crowded.locate [] packagedOptions.destRoot = .ok [] := by decide +kernel
  have hsame := h crowded [] packagedOptions .detect _ _ _
    (Prod.ext (y := (Except.error _, _, _)) hfail rfl) [] hroot [runtimeDir.octets, [0x61]]
    List.nil_prefix
  have hwritten : (stage crowded [] packagedOptions .detect).2.1.get? [runtimeDir.octets, [0x61]] =
      some (.file [1] .plain) := by
    decide +kernel
  have hnew : crowded.get? [runtimeDir.octets, [0x61]] = none := by decide +kernel
  rw [hwritten, hnew] at hsame
  cases hsame

end ConsumerCheck.Staging
