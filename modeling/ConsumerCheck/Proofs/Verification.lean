import ConsumerCheck.Proofs.Exchange

/-!
# What a verification reports and what it starts

`VerifyCourse` lists the ways in which a verification can go: the imports fail, the build fails, the
test fails, or all is done. Each way comes with the commands that the runner was given, with their
answers, and with the report.

Principal results: `verify_report` — the steps of a report, its verdict and its artifacts;
`verify_commands` — which commands are started, in which order and after which answers. Both hold
for every runner, whatever it answers and whatever it does to the files.
-/

namespace ConsumerCheck

variable {σ : Type}

/-! ## Courses -/

section Course

variable (c : Context) (o : VerifyOptions) (r : Runner σ) (w : World σ)

/-- What the imports step of a verification answers and leaves behind. -/
def importing : Except Failure ImportReport × World σ := importArtifacts c o.imports o.settings w

/-- The build of a verification, with the CMake program that is found after the imports. -/
def exampleBuilt : CMakeExample := CMakeExample.new c (importing c o w).2.files o.settings o.build

/-- What the build step of a verification answers and leaves behind. -/
def building : Except Failure BuildResult × World σ :=
  buildExample c o.build o.settings r (importing c o w).2

/-- What the test step of a verification answers and leaves behind. -/
def testing : Except Failure TestResult × World σ :=
  SmokeTest.run c o.test o.settings r (building c o r w).2

/-- The command that runs the example, with the program that is found after the build. -/
def exampleRun : Command :=
  SmokeTest.exampleCommand c (building c o r w).2.files o.test o.settings

/-- The commands that a verification gives to its runner, with their answers. -/
def exchanged : List (Command × Reply) :=
  (verify c o r.recording (w.carrying [])).2.runner.2

/-- The report after the settings step. -/
def settled : Report :=
  (Report.new o.settings).add (.pass "Settings" (settingsMessage o.settings) .zero)

/-- The report after the imports step. -/
def staged (imported : ImportReport) : Report :=
  { settled o with artifacts := imported.copied }.add
    (.pass "Imports" (importsMessage imported) .zero)

/-- The report after the build step. -/
def built (imported : ImportReport) (result : BuildResult) : Report :=
  (staged o imported).add (.pass "Build" (buildMessage result) .zero)

/-- The ways in which a verification can go, with what was exchanged and with the report. -/
inductive VerifyCourse : List (Command × Reply) → Report → Prop
  | importsFailed {f : Failure} :
      (importing c o w).1 = .error f →
      VerifyCourse [] ((settled o).add (.fail "Imports" f .zero))
  | buildFailed {imported : ImportReport} {f : Failure} {asked : List (Command × Reply)} :
      (importing c o w).1 = .ok imported →
      (exampleBuilt c o w).BuildCourse c (importing c o w).2.files asked (building c o r w).1 →
      (building c o r w).1 = .error f →
      VerifyCourse asked ((staged o imported).add (.fail "Build" f .zero))
  | testFailed {imported : ImportReport} {result : BuildResult} {f : Failure}
      {asked asked' : List (Command × Reply)} :
      (importing c o w).1 = .ok imported →
      (exampleBuilt c o w).BuildCourse c (importing c o w).2.files asked (building c o r w).1 →
      (building c o r w).1 = .ok result →
      SmokeTest.TestCourse c o.test o.settings (building c o r w).2.files asked'
        (testing c o r w).1 →
      (testing c o r w).1 = .error f →
      VerifyCourse (asked ++ asked') ((built o imported result).add (.fail "Test" f .zero))
  | completed {imported : ImportReport} {result : BuildResult} {tested : TestResult}
      {asked asked' : List (Command × Reply)} :
      (importing c o w).1 = .ok imported →
      (exampleBuilt c o w).BuildCourse c (importing c o w).2.files asked (building c o r w).1 →
      (building c o r w).1 = .ok result →
      SmokeTest.TestCourse c o.test o.settings (building c o r w).2.files asked'
        (testing c o r w).1 →
      (testing c o r w).1 = .ok tested →
      VerifyCourse (asked ++ asked') ((built o imported result).add (testStep tested))

end Course

theorem configureCommand_ne_exampleRun (c : Context) (o : VerifyOptions) (r : Runner σ)
    (w : World σ) :
    (exampleBuilt c o w).configureCommand ≠ exampleRun c o r w :=
  configureCommand_ne_exampleCommand _ _ _ _ _

theorem buildCommand_ne_exampleRun (c : Context) (o : VerifyOptions) (r : Runner σ) (w : World σ) :
    (exampleBuilt c o w).buildCommand ≠ exampleRun c o r w :=
  buildCommand_ne_exampleCommand _ _ _ _ _

theorem importArtifacts_carrying (c : Context) (options : ImportOptions) (settings : Settings)
    (w : World σ) (xs : List (Command × Reply)) :
    importArtifacts c options settings (w.carrying xs) =
      ((importArtifacts c options settings w).1,
        (importArtifacts c options settings w).2.carrying xs) := by
  unfold importArtifacts
  rw [World.carrying_files]
  cases Staging.stage w.files c.workingDirectory options settings with
  | mk result rest => rfl

theorem importArtifacts_trace (c : Context) (options : ImportOptions) (settings : Settings)
    (w : World σ) : (importArtifacts c options settings w).2.trace = w.trace := by
  unfold importArtifacts
  cases Staging.stage w.files c.workingDirectory options settings with
  | mk result rest => rfl

theorem verifyTest_recording (c : Context) (o : VerifyOptions) (r : Runner σ) (report : Report)
    (w : World σ) (xs : List (Command × Reply)) :
    ∃ asked, verifyTest c o r.recording report (w.carrying xs) =
        ((verifyTest c o r report w).1, (verifyTest c o r report w).2.carrying (xs ++ asked)) ∧
      (verifyTest c o r report w).2.trace = w.trace ++ asked.map (·.1) ∧
      SmokeTest.TestCourse c o.test o.settings w.files asked
        (SmokeTest.run c o.test o.settings r w).1 ∧
      (verifyTest c o r report w).1 =
        match (SmokeTest.run c o.test o.settings r w).1 with
        | .error f => report.add (.fail "Test" f .zero)
        | .ok tested => report.add (testStep tested) := by
  obtain ⟨asked, hrec, htrace, hcourse⟩ :=
    SmokeTest.run_recording c o.test o.settings r w xs
  refine ⟨asked, ?_⟩
  unfold verifyTest
  rw [hrec]
  cases hr : SmokeTest.run c o.test o.settings r w with
  | mk result w' =>
    rw [hr] at htrace hcourse
    cases result with
    | error f => exact ⟨rfl, htrace, hcourse, rfl⟩
    | ok tested => exact ⟨rfl, htrace, hcourse, rfl⟩

theorem verifyBuild_eq (c : Context) (o : VerifyOptions) (r : Runner σ) (report : Report)
    (w : World σ) :
    verifyBuild c o r report w =
      match (buildExample c o.build o.settings r w).1 with
      | .error f => abort report "Build" f (buildExample c o.build o.settings r w).2
      | .ok result => verifyTest c o r (report.add (.pass "Build" (buildMessage result) .zero))
          (buildExample c o.build o.settings r w).2 := by
  unfold verifyBuild
  rcases buildExample c o.build o.settings r w with ⟨_ | _, _⟩ <;> rfl

theorem verify_eq (c : Context) (o : VerifyOptions) (r : Runner σ) (w : World σ) :
    verify c o r w =
      match (importing c o w).1 with
      | .error f => abort (settled o) "Imports" f (importing c o w).2
      | .ok imported => verifyBuild c o r (staged o imported) (importing c o w).2 := by
  unfold verify verifyImports importing
  rcases importArtifacts c o.imports o.settings w with ⟨_ | _, _⟩ <;> rfl

/-- **A verification goes one of the ways of `VerifyCourse`**, and recording it changes nothing
else. -/
theorem verify_recording (c : Context) (o : VerifyOptions) (r : Runner σ) (w : World σ) :
    verify c o r.recording (w.carrying []) =
        ((verify c o r w).1, (verify c o r w).2.carrying (exchanged c o r w)) ∧
      (verify c o r w).2.trace = w.trace ++ (exchanged c o r w).map (·.1) ∧
      VerifyCourse c o r w (exchanged c o r w) (verify c o r w).1 := by
  suffices ∃ asked, verify c o r.recording (w.carrying []) =
        ((verify c o r w).1, (verify c o r w).2.carrying asked) ∧
      (verify c o r w).2.trace = w.trace ++ asked.map (·.1) ∧
      VerifyCourse c o r w asked (verify c o r w).1 by
    obtain ⟨asked, hrec, rest⟩ := this
    have : exchanged c o r w = asked := by
      unfold exchanged
      rw [hrec]
      rfl
    rw [this]
    exact ⟨hrec, rest⟩
  have hw : (importing c o w).2.trace = w.trace := importArtifacts_trace c o.imports o.settings w
  have himport : importing c o (w.carrying []) =
      ((importing c o w).1, (importing c o w).2.carrying []) := importArtifacts_carrying ..
  rw [verify_eq c o r w, verify_eq c o r.recording, himport]
  cases hi : (importing c o w).1 with
  | error f => exact ⟨[], rfl, by simpa [abort] using hw, .importsFailed hi⟩
  | ok imported =>
    obtain ⟨asked, hrec, htrace, hcourse⟩ :=
      (exampleBuilt c o w).build_recording c r (importing c o w).2 []
    have hbuild : buildExample c o.build o.settings r.recording ((importing c o w).2.carrying []) =
        ((building c o r w).1, (building c o r w).2.carrying ([] ++ asked)) := hrec
    have hbuild' : buildExample c o.build o.settings r (importing c o w).2 = building c o r w := rfl
    simp only [verifyBuild_eq, hbuild, hbuild']
    cases hb : (building c o r w).1 with
    | error f =>
      refine ⟨asked, rfl, ?_, .buildFailed hi hcourse hb⟩
      exact htrace.trans (by rw [hw])
    | ok result =>
      obtain ⟨asked', hrec', htrace', hcourse', hreport⟩ := verifyTest_recording c o r
        (built o imported result) (building c o r w).2 ([] ++ asked)
      refine ⟨asked ++ asked', hrec', ?_, ?_⟩
      · rw [List.map_append, ← List.append_assoc, ← hw]
        exact htrace'.trans (congrArg (· ++ _) htrace)
      · change VerifyCourse c o r w (asked ++ asked')
          (verifyTest c o r (built o imported result) (building c o r w).2).1
        rw [hreport]
        cases ht : (testing c o r w).1 with
        | error f =>
          rw [testing] at ht
          rw [ht]
          exact .testFailed hi hcourse hb hcourse' ht
        | ok tested =>
          rw [testing] at ht
          rw [ht]
          exact .completed hi hcourse hb hcourse' ht

/-! ## The report -/

namespace VerifyCourse

variable {c : Context} {o : VerifyOptions} {r : Runner σ} {w : World σ}
  {asked : List (Command × Reply)} {report : Report}

theorem step_names (h : VerifyCourse c o r w asked report) :
    report.steps.map (·.name) <+: ["Settings", "Imports", "Build", "Test"] := by
  cases h with
  | importsFailed _ => exact ⟨["Build", "Test"], rfl⟩
  | buildFailed _ _ _ => exact ⟨["Test"], rfl⟩
  | testFailed _ _ _ _ _ => exact List.prefix_refl _
  | @completed _ _ tested _ _ _ _ _ _ _ => cases tested <;> exact List.prefix_refl _

theorem steps_ne_nil (h : VerifyCourse c o r w asked report) : report.steps ≠ [] := by
  cases h <;> simp [Report.add]

theorem passed_of_mem_dropLast (h : VerifyCourse c o r w asked report) :
    ∀ s ∈ report.steps.dropLast, s.status = .passed := by
  cases h <;> simp [built, staged, settled, Report.add, Report.new, ReportStep.pass]

theorem settings_eq (h : VerifyCourse c o r w asked report) : report.settings = o.settings := by
  cases h <;> rfl

theorem crossBuilding_eq (h : VerifyCourse c o r w asked report) :
    report.crossBuilding = o.settings.isCrossBuilding := by
  cases h <;> rfl

theorem artifacts_eq (h : VerifyCourse c o r w asked report) :
    report.artifacts =
      match (importing c o w).1 with
      | .ok imported => imported.copied
      | .error _ => [] := by
  cases h with
  | importsFailed hi | buildFailed hi _ _ | testFailed hi _ _ _ _ | completed hi _ _ _ _ =>
    rw [hi]
    rfl

/-- A report without a failure has none in any step; else the last step is the failure of the step
that ended the run. -/
theorem verdict (h : VerifyCourse c o r w asked report) :
    (report.passed = true ∧ report.failureKind = none ∧ (importing c o w).1.isOk ∧
        (building c o r w).1.isOk ∧ (testing c o r w).1.isOk) ∨
      ∃ name f, report.passed = false ∧ report.failureKind = some f.kind ∧
        report.steps.getLast? = some (.fail name f .zero) ∧
        (name = "Imports" ∧ (importing c o w).1 = .error f ∨
          name = "Build" ∧ (importing c o w).1.isOk ∧ (building c o r w).1 = .error f ∨
          name = "Test" ∧ (importing c o w).1.isOk ∧ (building c o r w).1.isOk ∧
            (testing c o r w).1 = .error f) := by
  cases h with
  | @importsFailed f hi => exact .inr ⟨"Imports", f, rfl, rfl, rfl, .inl ⟨rfl, hi⟩⟩
  | @buildFailed _ f _ hi _ hb =>
    exact .inr ⟨"Build", f, rfl, rfl, rfl, .inr (.inl ⟨rfl, by rw [hi]; rfl, hb⟩)⟩
  | @testFailed _ _ f _ _ hi _ hb _ ht =>
    exact .inr ⟨"Test", f, rfl, rfl, rfl,
      .inr (.inr ⟨rfl, by rw [hi]; rfl, by rw [hb]; rfl, ht⟩)⟩
  | @completed _ _ tested _ _ hi _ hb _ ht =>
    refine .inl ⟨?_, ?_, by rw [hi]; rfl, by rw [hb]; rfl, by rw [ht]; rfl⟩
    · cases tested <;> rfl
    · cases tested <;> rfl

/-- The test step is reported as skipped exactly if the run comes to it and is a cross build. -/
theorem skipped_iff (h : VerifyCourse c o r w asked report) :
    (∃ s ∈ report.steps, s.name = "Test" ∧ s.status = .skipped) ↔
      (∃ s ∈ report.steps, s.name = "Test") ∧ report.crossBuilding = true := by
  rw [h.crossBuilding_eq]
  cases h with
  | importsFailed _ => simp [settled, Report.add, Report.new, ReportStep.pass, ReportStep.fail]
  | buildFailed _ _ _ =>
    simp [staged, settled, Report.add, Report.new, ReportStep.pass, ReportStep.fail]
  | testFailed _ _ _ htest ht =>
    rw [ht] at htest
    cases htest with
    | failed hc _ =>
      simp [hc, built, staged, settled, Report.add, Report.new, ReportStep.pass, ReportStep.fail]
  | completed _ _ _ htest ht =>
    rw [ht] at htest
    cases htest with
    | skipped hc =>
      simp [hc, testStep, built, staged, settled, Report.add, Report.new, ReportStep.pass,
        ReportStep.skip]
    | passed hc _ =>
      simp [hc, testStep, built, staged, settled, Report.add, Report.new, ReportStep.pass]

/-! ### What was exchanged -/

theorem commands_prefix (h : VerifyCourse c o r w asked report) :
    asked.map (·.1) <+: [(exampleBuilt c o w).configureCommand, (exampleBuilt c o w).buildCommand,
      exampleRun c o r w] := by
  cases h with
  | importsFailed _ => exact List.nil_prefix
  | buildFailed _ hb _ => exact hb.commands_prefix.trans ⟨[exampleRun c o r w], rfl⟩
  | testFailed _ hb hr ht _ | completed _ hb hr ht _ =>
    rw [hr] at hb
    rw [List.map_append, hb.commands_of_ok.1, ht.commands_eq]
    split
    · exact ⟨[exampleRun c o r w], rfl⟩
    · exact List.prefix_refl _

theorem inTurn (h : VerifyCourse c o r w asked report) : InTurn asked := by
  cases h with
  | importsFailed _ => exact .nil
  | buildFailed _ hb _ => exact hb.inTurn
  | testFailed _ hb hr ht _ | completed _ hb hr ht _ =>
    rw [hr] at hb
    exact .append hb.commands_of_ok.2 ht.inTurn

theorem imported_of_ne_nil (h : VerifyCourse c o r w asked report) (hne : asked ≠ []) :
    ∃ imported, (importing c o w).1 = .ok imported := by
  cases h with
  | importsFailed _ => exact absurd rfl hne
  | buildFailed hi _ _ | testFailed hi _ _ _ _ | completed hi _ _ _ _ => exact ⟨_, hi⟩

/-- No command is given before the build directory is made. -/
theorem made_of_ne_nil (h : VerifyCourse c o r w asked report) (hne : asked ≠ []) :
    ((importing c o w).2.files.makeDirectories c.workingDirectory o.build.buildDir).1 = .ok () := by
  cases h with
  | importsFailed _ => exact absurd rfl hne
  | buildFailed _ hb _ => exact hb.made_of_ne_nil hne
  | testFailed _ hb hr _ _ | completed _ hb hr _ _ => exact (hb.ok_iff.1 ⟨_, hr⟩).1

/-- What a build and a test after it have exchanged says of each command what its own part says. -/
theorem succeeded_parts {asked' : List (Command × Reply)} {built : BuildResult}
    {tested : Except Failure TestResult} {files : FileSystem}
    (hb : (exampleBuilt c o w).BuildCourse c files asked (.ok built))
    (ht : SmokeTest.TestCourse c o.test o.settings (building c o r w).2.files asked' tested) :
    (Succeeded (asked ++ asked') (exampleBuilt c o w).configureCommand ↔
        Succeeded asked (exampleBuilt c o w).configureCommand) ∧
      (Succeeded (asked ++ asked') (exampleBuilt c o w).buildCommand ↔
        Succeeded asked (exampleBuilt c o w).buildCommand) ∧
      (Succeeded (asked ++ asked') (exampleRun c o r w) ↔
        Succeeded asked' (exampleRun c o r w)) := by
  have hconfigure := configureCommand_ne_exampleRun c o r w
  have hbuild := buildCommand_ne_exampleRun c o r w
  have hasked' : ∀ cmd, Succeeded asked' cmd → cmd = exampleRun c o r w := by
    intro cmd hs
    have hm := hs.mem
    rw [ht.commands_eq] at hm
    split at hm
    · cases hm
    · exact List.mem_singleton.1 hm
  have hasked : ¬ Succeeded asked (exampleRun c o r w) := by
    intro hs
    have hm := hs.mem
    rw [hb.commands_of_ok.1] at hm
    rcases List.mem_cons.1 hm with hm | hm
    · exact hconfigure hm.symm
    · exact hbuild (List.mem_singleton.1 hm).symm
  refine ⟨?_, ?_, ?_⟩
  · rw [succeeded_append]
    exact or_iff_left fun hs => hconfigure (hasked' _ hs)
  · rw [succeeded_append]
    exact or_iff_left fun hs => hbuild (hasked' _ hs)
  · rw [succeeded_append]
    exact or_iff_right hasked

/-- A verification passes exactly if every part of it succeeds. -/
theorem passed_iff (h : VerifyCourse c o r w asked report) :
    report.passed = true ↔
      (∃ imported, (importing c o w).1 = .ok imported) ∧
      ((importing c o w).2.files.makeDirectories c.workingDirectory o.build.buildDir).1 = .ok () ∧
      Succeeded asked (exampleBuilt c o w).configureCommand ∧
      Succeeded asked (exampleBuilt c o w).buildCommand ∧
      (o.settings.isCrossBuilding = true ∨ Succeeded asked (exampleRun c o r w)) := by
  cases h with
  | importsFailed hi => simp [hi, Report.add, ReportStep.fail, StepStatus.isSuccess]
  | buildFailed hi hb hr =>
    have hno : ¬ ∃ built, (building c o r w).1 = .ok built := by
      rw [hr]
      simp
    rw [hb.ok_iff] at hno
    refine ⟨fun hp => by simp [Report.add, ReportStep.fail, StepStatus.isSuccess] at hp, ?_⟩
    rintro ⟨-, hd, hconf, hbuild, -⟩
    exact absurd ⟨hd, hconf, hbuild⟩ hno
  | testFailed hi hb hr ht htr =>
    rw [hr] at hb
    obtain ⟨-, -, hexample⟩ := succeeded_parts hb ht
    have hno := ht.ok_iff
    rw [htr] at hno
    refine ⟨fun hp => by simp [Report.add, ReportStep.fail, StepStatus.isSuccess] at hp, ?_⟩
    rintro ⟨-, -, -, -, hlast⟩
    rw [hexample] at hlast
    obtain ⟨_, hf⟩ := hno.2 hlast
    cases hf
  | @completed _ _ tested _ _ hi hb hr ht htr =>
    rw [hr] at hb
    obtain ⟨hconfigure, hbuild, hexample⟩ := succeeded_parts hb ht
    have hpassed := hb.ok_iff.1 ⟨_, rfl⟩
    have hlast := ht.ok_iff.1 ⟨_, htr⟩
    rw [hconfigure, hbuild, hexample]
    refine ⟨fun _ => ⟨⟨_, hi⟩, hpassed.1, hpassed.2.1, hpassed.2.2, hlast⟩, fun _ => ?_⟩
    cases tested <;> rfl

/-- After a build that succeeded the example is started exactly if this is no cross build. -/
theorem example_mem_of_built {asked' : List (Command × Reply)} {built : BuildResult}
    {tested : Except Failure TestResult} {files : FileSystem}
    (hb : (exampleBuilt c o w).BuildCourse c files asked (.ok built))
    (ht : SmokeTest.TestCourse c o.test o.settings (building c o r w).2.files asked' tested) :
    exampleRun c o r w ∈ (asked ++ asked').map (·.1) ↔
      Succeeded (asked ++ asked') (exampleBuilt c o w).configureCommand ∧
      Succeeded (asked ++ asked') (exampleBuilt c o w).buildCommand ∧
      o.settings.isCrossBuilding = false := by
  obtain ⟨hconfigure, hbuild, -⟩ := succeeded_parts hb ht
  have hpassed := hb.ok_iff.1 ⟨_, rfl⟩
  have hne := (configureCommand_ne_exampleRun c o r w).symm
  have hne' := (buildCommand_ne_exampleRun c o r w).symm
  rw [hconfigure, hbuild, List.map_append, hb.commands_of_ok.1, ht.commands_eq]
  cases hc : o.settings.isCrossBuilding with
  | true => simp [hne, hne']
  | false => simp [exampleRun, hpassed.2.1, hpassed.2.2]

/-- The example is started exactly after both commands of the build ended with zero, unless cross
building. -/
theorem example_mem_iff (h : VerifyCourse c o r w asked report) :
    exampleRun c o r w ∈ asked.map (·.1) ↔
      Succeeded asked (exampleBuilt c o w).configureCommand ∧
      Succeeded asked (exampleBuilt c o w).buildCommand ∧
      o.settings.isCrossBuilding = false := by
  cases h with
  | importsFailed hi => simp [Succeeded]
  | buildFailed hi hb hr =>
    constructor
    · intro hm
      rcases List.mem_cons.1 (hb.commands_prefix.subset hm) with hm | hm
      · exact absurd hm.symm (configureCommand_ne_exampleRun c o r w)
      · exact absurd (List.mem_singleton.1 hm).symm (buildCommand_ne_exampleRun c o r w)
    · rintro ⟨hconfigure, hbuild, -⟩
      obtain ⟨_, hok⟩ := hb.ok_of_succeeded hconfigure hbuild
      rw [hr] at hok
      cases hok
  | testFailed _ hb hr ht _ | completed _ hb hr ht _ =>
    rw [hr] at hb
    exact example_mem_of_built hb ht

/-- After a build that succeeded no command of the build can be answered by anything but a zero. -/
theorem not_failed_of_built {asked' : List (Command × Reply)} {built : BuildResult}
    {tested : Except Failure TestResult} {files : FileSystem}
    (hb : (exampleBuilt c o w).BuildCourse c files asked (.ok built))
    (ht : SmokeTest.TestCourse c o.test o.settings (building c o r w).2.files asked' tested)
    {cmd : Command} {reply : Reply}
    (hcmd : cmd = (exampleBuilt c o w).configureCommand ∨ cmd = (exampleBuilt c o w).buildCommand)
    (hm : (cmd, reply) ∈ asked ++ asked') : exitedZero reply = true := by
  rcases List.mem_append.1 hm with hm | hm
  · exact hb.commands_of_ok.2 _ hm
  · have hrun := List.mem_map_of_mem (f := (·.1)) hm
    rw [ht.commands_eq] at hrun
    split at hrun
    · cases hrun
    · rcases hcmd with rfl | rfl
      · exact absurd (List.mem_singleton.1 hrun) (configureCommand_ne_exampleRun c o r w)
      · exact absurd (List.mem_singleton.1 hrun) (buildCommand_ne_exampleRun c o r w)

/-- A command of the build that did not end with zero was the last of all, and the report ends with
a build that failed with the display and the exit code of this command. -/
theorem eq_of_failed (h : VerifyCourse c o r w asked report) {cmd : Command} {reply : Reply}
    (hcmd : cmd = (exampleBuilt c o w).configureCommand ∨ cmd = (exampleBuilt c o w).buildCommand)
    (hm : (cmd, reply) ∈ asked) (hz : exitedZero reply = false) :
    asked.getLast? = some (cmd, reply) ∧
      (building c o r w).1 = .error (.build cmd.display (exitCode? reply) (replyText reply)) ∧
      report.steps.getLast? =
        some (.fail "Build" (.build cmd.display (exitCode? reply) (replyText reply)) .zero) := by
  cases h with
  | importsFailed _ => cases hm
  | buildFailed _ hb hr =>
    obtain ⟨hlast, hfail⟩ := hb.eq_of_failed hm hz
    rw [hr] at hfail
    cases hfail
    exact ⟨hlast, hr, rfl⟩
  | testFailed _ hb hr ht _ | completed _ hb hr ht _ =>
    rw [hr] at hb
    rw [not_failed_of_built hb ht hcmd hm] at hz
    cases hz

end VerifyCourse

theorem commands_nodup (e : CMakeExample) (c : Context) (fs : FileSystem) (options : TestOptions)
    (settings : Settings) :
    [e.configureCommand, e.buildCommand, SmokeTest.exampleCommand c fs options settings].Nodup := by
  simp [configureCommand_ne_buildCommand, configureCommand_ne_exampleCommand,
    buildCommand_ne_exampleCommand]

/-- **The report of a verification.** Its steps are a beginning of settings, imports, build and
test, and all but the last have passed. It says that the verification passed exactly if the imports
succeeded, the build directory could be made, both commands of the build ended with the code zero
and so did the example, unless cross building. Otherwise its kind of failure is that of the step
that ended the run. The test is skipped exactly if it is reached in a cross build. The artifacts are
those that were imported. -/
theorem verify_report (c : Context) (o : VerifyOptions) (r : Runner σ) (w : World σ) :
    let report := (verify c o r w).1
    let asked := exchanged c o r w
    (report.steps ≠ [] ∧ report.steps.map (·.name) <+: ["Settings", "Imports", "Build", "Test"] ∧
      ∀ s ∈ report.steps.dropLast, s.status = .passed) ∧
    (report.passed = true ↔
      (∃ imported, (importing c o w).1 = .ok imported) ∧
      ((importing c o w).2.files.makeDirectories c.workingDirectory o.build.buildDir).1 = .ok () ∧
      Succeeded asked (exampleBuilt c o w).configureCommand ∧
      Succeeded asked (exampleBuilt c o w).buildCommand ∧
      (o.settings.isCrossBuilding = true ∨ Succeeded asked (exampleRun c o r w))) ∧
    (report.failureKind = none ↔ report.passed = true) ∧
    (report.passed = false → ∃ name f, report.steps.getLast? = some (.fail name f .zero) ∧
      report.failureKind = some f.kind ∧
      (name = "Imports" ∧ (importing c o w).1 = .error f ∨
        name = "Build" ∧ (building c o r w).1 = .error f ∨
        name = "Test" ∧ (testing c o r w).1 = .error f)) ∧
    ((∃ s ∈ report.steps, s.name = "Test" ∧ s.status = .skipped) ↔
      (∃ s ∈ report.steps, s.name = "Test") ∧ report.crossBuilding = true) ∧
    report.crossBuilding = o.settings.isCrossBuilding ∧
    report.artifacts =
      match (importing c o w).1 with
      | .ok imported => imported.copied
      | .error _ => [] := by
  intro report asked
  have h : VerifyCourse c o r w asked report := (verify_recording c o r w).2.2
  refine ⟨⟨h.steps_ne_nil, h.step_names, h.passed_of_mem_dropLast⟩, h.passed_iff, ?_, ?_,
    h.skipped_iff, h.crossBuilding_eq, h.artifacts_eq⟩
  · rcases h.verdict with ⟨hp, hk, -⟩ | ⟨name, f, hp, hk, -⟩
    · simp [hp, hk]
    · simp [hp, hk]
  · intro hno
    rcases h.verdict with ⟨hp, -⟩ | ⟨name, f, -, hk, hlast, hstep⟩
    · rw [hp] at hno
      cases hno
    · refine ⟨name, f, hlast, hk, ?_⟩
      rcases hstep with hstep | ⟨hn, -, hf⟩ | ⟨hn, -, -, hf⟩
      · exact .inl hstep
      · exact .inr (.inl ⟨hn, hf⟩)
      · exact .inr (.inr ⟨hn, hf⟩)

/-- **The commands of a verification.** They are a beginning of the two commands of the build and
the one that runs the example, none twice. Each is given only after the imports succeeded and all
commands before it ended with the code zero; the example exactly after both commands of the build
did, unless cross building. A command of the build that did not end with zero is the last, and the
build fails with its display and its exit code. -/
theorem verify_commands (c : Context) (o : VerifyOptions) (r : Runner σ) (w : World σ) :
    let asked := exchanged c o r w
    let e := exampleBuilt c o w
    (verify c o r w).2.trace = w.trace ++ asked.map (·.1) ∧
    asked.map (·.1) <+: [e.configureCommand, e.buildCommand, exampleRun c o r w] ∧
    (∀ before x after, asked = before ++ x :: after →
      (∃ imported, (importing c o w).1 = .ok imported) ∧ ∀ y ∈ before, exitedZero y.2 = true) ∧
    (exampleRun c o r w ∈ asked.map (·.1) ↔
      Succeeded asked e.configureCommand ∧ Succeeded asked e.buildCommand ∧
        o.settings.isCrossBuilding = false) ∧
    (asked.map (·.1)).Nodup ∧
    (∀ cmd reply, cmd = e.configureCommand ∨ cmd = e.buildCommand → (cmd, reply) ∈ asked →
      exitedZero reply = false →
      asked.getLast? = some (cmd, reply) ∧
      (building c o r w).1 = .error (.build cmd.display (exitCode? reply) (replyText reply)) ∧
      (verify c o r w).1.steps.getLast? =
        some (.fail "Build" (.build cmd.display (exitCode? reply) (replyText reply)) .zero)) := by
  intro asked e
  obtain ⟨-, htrace, h⟩ := verify_recording c o r w
  refine ⟨htrace, h.commands_prefix, ?_, h.example_mem_iff, ?_, ?_⟩
  · intro before x after he
    have hne : asked ≠ [] := by
      rw [he]
      simp
    exact ⟨h.imported_of_ne_nil hne, h.inTurn before x after he⟩
  · exact h.commands_prefix.sublist.nodup (commands_nodup ..)
  · intro cmd reply hcmd hm hz
    exact h.eq_of_failed hcmd hm hz

end ConsumerCheck
