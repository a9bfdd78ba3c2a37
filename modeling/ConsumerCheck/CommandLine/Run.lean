import ConsumerCheck.CommandLine.Completions
import ConsumerCheck.CommandLine.Parsing
import ConsumerCheck.CommandLine.Resolve
import ConsumerCheck.Report.Format
import ConsumerCheck.Verification

/-!
# The program

`run` makes what a command line asks for, from the arguments to the exit code. A fault is written as one line
at the end of the error output, after the log.

* `Stop` — why a command ended before its work was done;
* `execute` — one request, by the `execute` of its command;
* `run` — a whole command line, which is `main`.
-/

namespace ConsumerCheck.CommandLine

/-- Why a command ended before its work was done. -/
inductive Stop where
  | missingPackageFolder
  | config (error : ConfigError)
  | format (error : UnknownFormat)
  | step (failure : Failure)
  deriving DecidableEq, Repr

/-- The wordings of a fault and of what caused it, the outermost first. -/
def Stop.chain : Stop → List String
  | missingPackageFolder => [MissingPackageFolder.message ⟨⟩]
  | config error => error.chain
  | format error => ["invalid output format: " ++ error.name, error.message]
  | step failure => failure.chain

/-- The line that reports a fault. -/
def Stop.line (s : Stop) : String := "error: " ++ ": ".intercalate s.chain ++ "\n"

/-- What the program leaves behind for its caller. -/
structure Result where
  exitCode : Nat
  stdout : String
  stderr : String
  deriving DecidableEq, Repr

/-- What a command writes, and whether it succeeded. -/
structure Answer where
  text : String
  success : Bool
  deriving DecidableEq, Repr

/-- The answer of a command that succeeded. -/
def Answer.ok (text : String) : Answer := ⟨text, true⟩

/-- Lines, each with a line feed at its end. -/
def linesText (lines : List String) : String := String.join (lines.map (· ++ "\n"))

/-- The settings, one in a line. -/
def settingsText (s : Settings) : String :=
  linesText (
    ["os=" ++ s.os, "compiler=" ++ s.compiler] ++
    (match s.compilerVersion with
      | some version => ["compiler.version=" ++ version]
      | none => []) ++
    ["build_type=" ++ s.buildType, "arch=" ++ s.arch, "os_build=" ++ s.buildOs,
      "arch_build=" ++ s.buildArch,
      "cross_building=" ++ (if s.isCrossBuilding then "true" else "false")])

variable {σ : Type}

/-- The options of a step, from the configuration and the flags. -/
def stepOptionsFor (c : Context) (config : Option Path) (flags : StepFlags) (w : World σ) :
    Except Stop VerifyOptions × World σ :=
  match loadConfig c w.files config with
  | (.error e, events) => (.error (.config e), w.note events)
  | (.ok loaded, events) => (.ok (resolveOptions c.directory loaded flags), w.note events)

/-- Goes on with the value, or ends with the fault. -/
def andThen (r : Except Stop α × World σ) (next : α → World σ → Except Stop Answer × World σ) :
    Except Stop Answer × World σ :=
  match r with
  | (.error e, w) => (.error e, w)
  | (.ok a, w) => next a w

/-- The outcome of a step, where a failure ends the command. -/
def asStop (r : Except Failure α × World σ) : Except Stop α × World σ :=
  (r.1.mapError Stop.step, r.2)

/-- The command `verify`. -/
def executeVerify (c : Context) (runner : Runner σ) (verbose : Bool) (config : Option Path)
    (flags : StepFlags) (outputFormat : String) (w : World σ) : Except Stop Answer × World σ :=
  match ReportFormat.parse outputFormat, requirePackageFolder flags with
  | .error e, _ => (.error (.format e), w)
  | .ok _, .error _ => (.error .missingPackageFolder, w)
  | .ok format, .ok _ =>
    andThen (stepOptionsFor c config flags w) fun options w =>
      let (report, w) := verify c options runner w
      (.ok ⟨report.render format verbose, report.passed⟩, w)

/-- The command `imports`. -/
def executeImports (c : Context) (config : Option Path) (flags : StepFlags) (w : World σ) :
    Except Stop Answer × World σ :=
  match requirePackageFolder flags with
  | .error _ => (.error .missingPackageFolder, w)
  | .ok _ =>
    andThen (stepOptionsFor c config flags w) fun options w =>
      andThen (asStop (importArtifacts c options.imports options.settings w)) fun report w =>
        (.ok (.ok (linesText (report.copied.map Path.display))), w)

/-- The command `build`. -/
def executeBuild (c : Context) (runner : Runner σ) (config : Option Path) (flags : StepFlags)
    (w : World σ) : Except Stop Answer × World σ :=
  andThen (stepOptionsFor c config flags w) fun options w =>
    andThen (asStop (buildExample c options.build options.settings runner w)) fun result w =>
      (.ok (.ok ("Built example in " ++ options.build.buildDir.display ++ "\n")),
        w.note [.built result.buildCommand])

/-- The line that tells how the example's run ended. -/
def testText : TestResult → String
  | .passed command => "passed: `" ++ command ++ "`\n"
  | .skipped reason => "skipped: " ++ reason ++ "\n"

/-- The command `test`. -/
def executeTest (c : Context) (runner : Runner σ) (config : Option Path) (flags : StepFlags)
    (w : World σ) : Except Stop Answer × World σ :=
  andThen (stepOptionsFor c config flags w) fun options w =>
    andThen (asStop (SmokeTest.run c options.test options.settings runner w)) fun result w =>
      (.ok (.ok (testText result)), w)

/-- The command `settings`. -/
def executeSettings (c : Context) (config : Option Path) (flags : Overrides) (json : Bool)
    (w : World σ) : Except Stop Answer × World σ :=
  match loadConfig c w.files config with
  | (.error e, events) => (.error (.config e), w.note events)
  | (.ok loaded, events) =>
    let settings := resolveSettings loaded flags
    let text := if json then settings.jsonSorted.pretty ++ "\n" else settingsText settings
    (.ok (.ok text), w.note events)

/-- One request. -/
def execute (c : Context) (runner : Runner σ) (i : Invocation) (w : World σ)
    (scripts : CompletionScripts) : Except Stop Answer × World σ :=
  match i.request with
  | .verify flags format => executeVerify c runner i.verbose i.config flags format w
  | .imports flags => executeImports c i.config flags w
  | .build flags => executeBuild c runner i.config flags w
  | .test flags => executeTest c runner i.config flags w
  | .settings flags json => executeSettings c i.config flags json w
  | .completions shell => (.ok (.ok (scripts shell)), w)

/-- How the program is called. -/
def usageText : String :=
  "Usage: " ++ programName ++ " [OPTIONS] <COMMAND>\n\nCommands: " ++ commandNames ++ "\n"

/-- What the program answers to a command line that it cannot make anything of. -/
def usageResult : UsageError → Result
  | .helpWanted => ⟨0, usageText, ""⟩
  | .versionWanted => ⟨0, programName ++ " " ++ programVersion ++ "\n", ""⟩
  | .malformedDefinition text => ⟨2, "", "error: expected KEY=VALUE, got `" ++ text ++ "`\n"⟩
  | _ => ⟨2, "", usageText⟩

/-- A whole command line. -/
def run (c : Context) (runner : Runner σ) (args : List Bytes) (w : World σ)
    (scripts : CompletionScripts := .plain) : Result × World σ :=
  match parse c args with
  | .error e => (usageResult e, w)
  | .ok i =>
    let (outcome, w) := execute c runner i w scripts
    let log := journalText c.wantsColours i.verbose w.journal
    match outcome with
    | .ok answer => (⟨if answer.success then 0 else 1, answer.text, log⟩, w)
    | .error stop => (⟨1, "", log ++ stop.line⟩, w)

end ConsumerCheck.CommandLine
