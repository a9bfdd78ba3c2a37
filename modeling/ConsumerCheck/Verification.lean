import ConsumerCheck.ExampleBuild
import ConsumerCheck.Report.Basic
import ConsumerCheck.SmokeTest
import ConsumerCheck.Staging

/-!
# Verification of a package

`verify` makes the four steps of `Verifier::run` in order: settings, imports, build and test. The first that
fails ends the run. No step is made twice, and the time that each takes is set by whoever measures it.
-/

namespace ConsumerCheck

variable {σ : Type}

/-- The imports step. -/
def importArtifacts (c : Context) (options : ImportOptions) (settings : Settings) (w : World σ) :
    Except Failure ImportReport × World σ :=
  let (result, files, events) := Staging.stage w.files c.workingDirectory options settings
  (result, { w with files }.note events)

/-- The message of the settings step. -/
def settingsMessage (s : Settings) : String :=
  s.display ++ (if s.isCrossBuilding then " (cross building)" else "")

/-- The message of the imports step. -/
def importsMessage (r : ImportReport) : String :=
  "Imported " ++ toString r.copied.length ++ " runtime artifact(s)" ++
    (if r.filteredOut = [] then ""
    else "; skipped patterns for other platforms: " ++ ", ".intercalate r.filteredOut)

/-- The message of the build step. -/
def buildMessage (r : BuildResult) : String := r.configureCommand ++ "\n" ++ r.buildCommand

/-- The test step as it is reported. -/
def testStep : TestResult → ReportStep
  | .passed command => .pass "Test" ("`" ++ command ++ "` exited with status 0") .zero
  | .skipped reason => .skip "Test" ("skipped: " ++ reason) .zero

/-- The report with the step that failed, which ends the run. -/
def abort (r : Report) (step : String) (f : Failure) (w : World σ) : Report × World σ :=
  (r.add (.fail step f .zero), w.note [.stepFailed step f])

/-- The test step, and the end of the run. -/
def verifyTest (c : Context) (options : VerifyOptions) (runner : Runner σ) (r : Report)
    (w : World σ) : Report × World σ :=
  match SmokeTest.run c options.test options.settings runner w with
  | (.error f, w) => abort r "Test" f w
  | (.ok result, w) => (r.add (testStep result), w)

/-- The build step and what follows. -/
def verifyBuild (c : Context) (options : VerifyOptions) (runner : Runner σ) (r : Report)
    (w : World σ) : Report × World σ :=
  match buildExample c options.build options.settings runner w with
  | (.error f, w) => abort r "Build" f w
  | (.ok result, w) =>
    verifyTest c options runner (r.add (.pass "Build" (buildMessage result) .zero)) w

/-- The imports step and what follows. -/
def verifyImports (c : Context) (options : VerifyOptions) (runner : Runner σ) (r : Report)
    (w : World σ) : Report × World σ :=
  match importArtifacts c options.imports options.settings w with
  | (.error f, w) => abort r "Imports" f w
  | (.ok result, w) =>
    verifyBuild c options runner
      ({ r with artifacts := result.copied }.add (.pass "Imports" (importsMessage result) .zero)) w

/-- The whole run. -/
def verify (c : Context) (options : VerifyOptions) (runner : Runner σ) (w : World σ) :
    Report × World σ :=
  verifyImports c options runner
    ((Report.new options.settings).add
      (.pass "Settings" (settingsMessage options.settings) .zero)) w

end ConsumerCheck
