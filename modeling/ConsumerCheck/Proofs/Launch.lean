import ConsumerCheck.Proofs.FileSystem.Matching
import ConsumerCheck.Proofs.Staging.Selection
import ConsumerCheck.Proofs.Verification

/-!
# Which program a test starts

A test starts what it finds at the first of three places that has a file. The last of them lies in the
runtime directory, which holds what the package brings along: if the build has left nothing at the other two,
a file of the package that is named like the example is started in its stead.

* `SmokeTest.InPlace` — the build has left the example in the build directory or in that of the
  configuration;
* `Staging.Brings` — a rule in force has a pattern that a name matches.

Principal results: `tested_program_not_staged` — a test that passed has not started a staged file, if the
example is in place or no rule brings its name; `tested_program_staged` — without either it may have.
-/

namespace ConsumerCheck

variable {fs : FileSystem} {wd : Location}

namespace Staging

variable {options : ImportOptions} {settings : Settings}

/-- A rule in force has a pattern that the name matches. -/
def Brings (options : ImportOptions) (settings : Settings) (name : String) : Prop :=
  ∃ rule ∈ options.rules, isFilteredOut options settings rule = false ∧
    ∃ pattern, Pattern.parse rule.pattern = .ok pattern ∧ pattern.matchesName name = true

/-- What a rule finds ends in a name that its pattern matches. -/
theorem Finds.last_name {rule : CopyRule} {rel : Path} (h : Finds fs wd options settings rule rel) :
    ∃ pattern names name, Pattern.parse rule.pattern = .ok pattern ∧
      rel.components = (names ++ [name]).map .name ∧
      FileSystem.nameMatches pattern name = true := by
  obtain ⟨pattern, paths, hpattern, hfound, hrel⟩ := h.found
  obtain ⟨_, -, e, he, rfl, -, hname⟩ := FileSystem.findMatching_below h.directory hfound hrel
  obtain ⟨names, name, hnames⟩ : ∃ names name, e.1 = names ++ [name] := by
    rcases List.eq_nil_or_concat e.1 with hnil | ⟨names, name, hconcat⟩
    · exact absurd hnil (FileSystem.mem_below.1 he).1
    · exact ⟨names, name, by rw [hconcat, List.concat_eq_append]⟩
  refine ⟨pattern, names, name, hpattern, ?_, ?_⟩
  · rw [Path.components_extend _ (FileSystem.names_of_mem_below he), hnames]
    rfl
  · rwa [hnames, List.getLastD_concat] at hname

/-- A staged file lies in the runtime directory, under the names under which a rule in force has found
it. -/
theorem components_staged {report : ImportReport} {fs' : FileSystem} {events : List Event}
    (h : stage fs wd options settings = (.ok report, fs', events)) {place : Path}
    (hplace : place ∈ report.copied) :
    ∃ rule ∈ options.rules, ∃ rel, Finds fs wd options settings rule rel ∧
      place.components = .name runtimeDir.octets :: rel.components := by
  obtain ⟨s, more, hsurvey, rfl, -⟩ := stage_ok_cases h
  obtain ⟨hdst, -, -⟩ := survey_ok_cases hsurvey
  obtain ⟨rule, hrule, source, rel, hfinds, hsame, -⟩ := (survey_supplied_iff hsurvey place).1
    (Plan.mem_places_iff.1 ⟨place, hplace, rfl⟩)
  refine ⟨rule, hrule, rel, hfinds, ?_⟩
  rw [← hsame, hfinds.components_join, hdst rule hrule, Path.components_runtimeDir]
  rfl

end Staging

namespace SmokeTest

variable {options : TestOptions} {settings : Settings}

/-- The example is a file in the build directory, or in the directory of the configuration if that is not
the runtime directory or below it. -/
def InPlace (fs : FileSystem) (wd : Location) (options : TestOptions) (settings : Settings) : Prop :=
  ∃ dir ∈ [options.buildDir, options.buildDir.join (.ofText settings.buildType)],
    ¬(options.buildDir.join runtimeDir).components <+: dir.components ∧
      fs.isFile wd (dir.join (.ofText options.exampleName)) = true

/-- What is started is called like the example, wherever it is. -/
theorem locate_eq (fs : FileSystem) (wd : Location) (options : TestOptions) (settings : Settings) :
    ∃ dir : Path, locate fs wd options settings = dir.join (.ofText options.exampleName) := by
  have hmem : ∀ p ∈ candidates options settings, ∃ dir : Path,
      p = dir.join (.ofText options.exampleName) := by
    simp only [candidates, List.forall_mem_cons, List.not_mem_nil, false_implies, implies_true,
      and_true]
    exact ⟨⟨_, rfl⟩, ⟨_, rfl⟩, ⟨_, rfl⟩⟩
  unfold locate
  cases hfind : (candidates options settings).find? (fs.isFile wd) with
  | none => exact ⟨options.buildDir, rfl⟩
  | some p => exact hmem p (List.mem_of_find?_eq_some hfind)

/-- If the example is in place, what is started is neither in the runtime directory nor below it. -/
theorem InPlace.locate_eq (h : InPlace fs wd options settings) :
    ∃ dir : Path, locate fs wd options settings = dir.join (.ofText options.exampleName) ∧
      ¬(options.buildDir.join runtimeDir).components <+: dir.components := by
  have hbuild : ¬(options.buildDir.join runtimeDir).components <+: options.buildDir.components := by
    intro hprefix
    have hlength := hprefix.length_le
    rw [Path.components_join_of_name _ Path.components_runtimeDir, Path.components_runtimeDir,
      List.length_append, List.length_singleton] at hlength
    omega
  obtain ⟨dir, hdir, houtside, hfile⟩ := h
  unfold locate candidates
  dsimp only
  rw [List.find?_cons]
  cases hfirst : fs.isFile wd (options.buildDir.join (.ofText options.exampleName)) with
  | true => exact ⟨options.buildDir, rfl, hbuild⟩
  | false =>
    rcases List.mem_cons.1 hdir with rfl | hdir
    · rw [hfirst] at hfile
      cases hfile
    · obtain rfl := List.mem_singleton.1 hdir
      rw [List.find?_cons, hfile]
      exact ⟨_, rfl, houtside⟩

end SmokeTest

/-- What a verification whose test passed has staged and started. -/
theorem VerifyCourse.of_test_passed {σ : Type} {c : Context} {o : VerifyOptions} {r : Runner σ}
    {w : World σ} {asked : List (Command × Reply)} {report : Report}
    (h : VerifyCourse c o r w asked report)
    (htest : ∃ s ∈ report.steps, s.name = "Test" ∧ s.status = .passed) :
    ∃ imported, (importing c o w).1 = .ok imported ∧ report.artifacts = imported.copied ∧
      (asked.map (·.1)).getLast? = some (exampleRun c o r w) := by
  cases h with
  | importsFailed _ => simp [settled, Report.add, Report.new, ReportStep.pass, ReportStep.fail] at htest
  | buildFailed _ _ _ =>
    simp [staged, settled, Report.add, Report.new, ReportStep.pass, ReportStep.fail] at htest
  | testFailed _ _ _ _ _ =>
    simp [built, staged, settled, Report.add, Report.new, ReportStep.pass, ReportStep.fail] at htest
  | completed hi _ _ hcourse ht =>
    rw [ht] at hcourse
    refine ⟨_, hi, rfl, ?_⟩
    cases hcourse with
    | skipped _ =>
      simp [testStep, built, staged, settled, Report.add, Report.new, ReportStep.pass,
        ReportStep.skip] at htest
    | passed _ _ => simp [exampleRun]

theorem stage_of_importing {σ : Type} {c : Context} {o : VerifyOptions} {w : World σ}
    {imported : ImportReport} (h : (importing c o w).1 = .ok imported) :
    ∃ fs' events, Staging.stage w.files c.workingDirectory o.imports o.settings =
      (.ok imported, fs', events) :=
  ⟨_, _, Prod.ext h rfl⟩

/-- The options with further rules, and with the rules for other systems left out or not. -/
def VerifyOptions.withRules (o : VerifyOptions) (rules : List CopyRule) (filterHost : Bool) :
    VerifyOptions :=
  { o with imports := { o.imports with
      rules := o.imports.rules ++ rules, filterHostPlatform := filterHost } }

/-- **A test that passed has not started a staged file**, if the build has left the example in place, or if
no rule brings files that are called like it. -/
theorem tested_program_not_staged {σ : Type} {c : Context} {r : Runner σ} {w : World σ}
    {settings : Settings} {package source build : Path} {rules : List CopyRule} {filterHost : Bool}
    {o : VerifyOptions}
    (ho : o = (VerifyOptions.new settings package source build).withRules rules filterHost)
    (htest : ∃ s ∈ (verify c o r w).1.steps, s.name = "Test" ∧ s.status = .passed)
    (hexample : SmokeTest.InPlace (building c o r w).2.files c.workingDirectory o.test o.settings ∨
      ¬Staging.Brings o.imports o.settings exampleName) :
    ∃ cmd, (verify c o r w).2.trace.getLast? = some cmd ∧
      ∀ place ∈ (verify c o r w).1.artifacts,
        ¬Path.Same cmd.program (o.imports.destRoot.join place) := by
  obtain ⟨-, htrace, hcourse⟩ := verify_recording c o r w
  obtain ⟨imported, himported, hartifacts, hlast⟩ := hcourse.of_test_passed htest
  refine ⟨exampleRun c o r w, by rw [htrace, List.getLast?_append, hlast]; rfl, ?_⟩
  intro place hplace
  obtain ⟨fs', events, hstage⟩ := stage_of_importing himported
  rw [hartifacts] at hplace
  obtain ⟨rule, hrule, rel, hfinds, hcomponents⟩ := Staging.components_staged hstage hplace
  obtain ⟨pattern, names, name, hpattern, hrel, hmatches⟩ := hfinds.last_name
  have hroot : o.imports.destRoot = o.test.buildDir := by rw [ho]; rfl
  have hexampleName : o.test.exampleName = exampleName := by rw [ho]; rfl
  -- a program that were the staged file would stand in the runtime directory and have its name
  have hstaged : ∀ dir : Path,
      Path.Same (dir.join (.ofText o.test.exampleName)) (o.imports.destRoot.join place) →
      (o.test.buildDir.join runtimeDir).components <+: dir.components ∧
        Utf8.encode exampleName = name := by
    intro dir hsame
    rw [Path.Same, Path.components_join_of_name _ hcomponents, hcomponents, hrel, hroot,
      hexampleName, Path.ofText, Path.components_join_name (by decide +kernel) dir, List.map_append,
      ← List.cons_append, ← List.append_assoc] at hsame
    obtain ⟨hdir, hname⟩ := List.append_inj' hsame rfl
    rw [hdir, Path.components_join_of_name _ Path.components_runtimeDir, Path.components_runtimeDir]
    exact ⟨⟨names.map .name, by simp⟩, by simpa using hname⟩
  rcases hexample with hin | hbrings
  · obtain ⟨dir, hdir, houtside⟩ := hin.locate_eq
    exact fun hsame => houtside (hstaged dir (hdir ▸ hsame)).1
  · obtain ⟨dir, hdir⟩ := SmokeTest.locate_eq (building c o r w).2.files c.workingDirectory o.test
      o.settings
    intro hsame
    obtain ⟨-, rfl⟩ := hstaged dir (hdir ▸ hsame)
    have htext : Utf8.decode? (Utf8.encode exampleName) = some exampleName := by decide +kernel
    rw [FileSystem.nameMatches, htext] at hmatches
    exact hbrings ⟨rule, hrule, hfinds.active, pattern, hpattern, hmatches⟩

/-! ### A file of the package in the place of the example -/

/-- A package that has a file called like the example. -/
def namesakePackage : FileSystem :=
  FileSystem.empty.plantAll [] [.file (.ofText "pkg/lib/example") (Utf8.encode "library") false]

/-- The usual options with a rule for that file. -/
def namesakeOptions : VerifyOptions :=
  (VerifyOptions.new .detect (.ofText "pkg") (.ofText "src") (.ofText "out")).withRules
    [⟨.unix, exampleName, .ofText "lib", runtimeDir⟩] false

/-- A build that leaves the example in the build directory. -/
def properBuild : Runner Unit :=
  .leaving [] [.file (.ofText "out/example") (Utf8.encode "program") true]

/-- A verification of that package with these options. -/
abbrev namesakeVerified (r : Runner Unit) : Report × World Unit :=
  verify bareContext namesakeOptions r (.start namesakePackage ())

/-- If the example is in place, it is started, and not its namesake. -/
theorem tested_program_not_staged_namesake :
    (∃ s ∈ (namesakeVerified properBuild).1.steps, s.name = "Test" ∧ s.status = .passed) ∧
    (namesakeVerified properBuild).1.artifacts = [.ofText "bin/example"] ∧
    ∃ cmd, (namesakeVerified properBuild).2.trace.getLast? = some cmd ∧
      ¬Path.Same cmd.program (.ofText "out/bin/example") := by
  have htest : ∃ s ∈ (namesakeVerified properBuild).1.steps,
      s.name = "Test" ∧ s.status = .passed := by decide +kernel
  have hartifacts : (namesakeVerified properBuild).1.artifacts = [.ofText "bin/example"] := by
    decide +kernel
  have hplace : SmokeTest.InPlace
      (building bareContext namesakeOptions properBuild (.start namesakePackage ())).2.files
      bareContext.workingDirectory namesakeOptions.test namesakeOptions.settings :=
    ⟨.ofText "out", List.mem_cons_self, by decide +kernel, by decide +kernel⟩
  obtain ⟨cmd, hlast, hother⟩ := tested_program_not_staged rfl htest (.inl hplace)
  have hmem : Path.ofText "bin/example" ∈ (namesakeVerified properBuild).1.artifacts := by
    rw [hartifacts]
    exact List.mem_singleton.2 rfl
  exact ⟨htest, hartifacts, cmd, hlast, hother _ hmem⟩

/-- **If the build leaves no example behind, its namesake is started, and the test passes.** -/
theorem tested_program_staged :
    let done := namesakeVerified (.leaving [] [])
    (∃ s ∈ done.1.steps, s.name = "Test" ∧ s.status = .passed) ∧
      ∃ cmd, done.2.trace.getLast? = some cmd ∧
        ∃ place ∈ done.1.artifacts,
          Path.Same cmd.program (namesakeOptions.imports.destRoot.join place) := by
  decide +kernel

end ConsumerCheck
