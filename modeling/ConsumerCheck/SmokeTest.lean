import ConsumerCheck.Host.Context
import ConsumerCheck.Options
import ConsumerCheck.World

/-!
# Run of the built example

* `SmokeTest.loaderPath` — the directories in which the loader looks for libraries: the staged ones first,
  then those of the caller (`prepend_path`);
* `SmokeTest.locate` — where the example is (`locate_example`);
* `SmokeTest.run` — the example run once, unless the settings describe a cross build; then nothing is
  started (`run_smoke_test`).
-/

namespace ConsumerCheck

/-- How a test that did not fail ended. -/
inductive TestResult where
  | passed (command : String)
  | skipped (reason : String)
  deriving DecidableEq, Repr

namespace SmokeTest

/-- The variable with the loader's search path. -/
def loaderVariable : String := "LD_LIBRARY_PATH"

/-- The loader's search path with `dir` in front. A directory with a colon in its name cannot be put on a
search path together with others, and stands alone. -/
def loaderPath (existing : Option Bytes) (dir : Path) : Bytes :=
  if dir.octets.contains Context.colon then dir.octets
  else
    match existing with
    | some octets => dir.octets ++ Context.colon :: octets
    | none => dir.octets

/-- The places where a build may put the example: the build directory, the one of the configuration, and
`bin`. -/
def candidates (options : TestOptions) (settings : Settings) : List Path :=
  let name := Path.ofText options.exampleName
  [options.buildDir.join name,
    (options.buildDir.join (.ofText settings.buildType)).join name,
    (options.buildDir.join (.ofText "bin")).join name]

/-- The first place that has a file, or the first of all if none has. -/
def locate (fs : FileSystem) (wd : Location) (options : TestOptions) (settings : Settings) : Path :=
  ((candidates options settings).find? (fs.isFile wd)).getD
    (options.buildDir.join (.ofText options.exampleName))

/-- The command as it is shown to the reader. -/
def shownCommand (options : TestOptions) : String := "./" ++ options.exampleName

/-- Why a cross build is not run. -/
def skipReason (s : Settings) : String :=
  "cross building for " ++ s.os ++ "/" ++ s.arch ++ " on " ++ s.buildOs ++ "/" ++ s.buildArch

/-- The command that runs the example. -/
def exampleCommand (c : Context) (fs : FileSystem) (options : TestOptions) (settings : Settings) :
    Command :=
  ((Command.new (locate fs c.workingDirectory options settings)).inDirectory options.buildDir).set
    loaderVariable
    (Utf8.decodeLossy (loaderPath (c.valueOf? loaderVariable) options.runtimeDir))

/-- What is noted about the output of the example. -/
def outputEvents (captured : String) : List Event :=
  if captured = "" then [] else [.exampleOutput captured]

variable {σ : Type}

/-- Runs the example. -/
def run (c : Context) (options : TestOptions) (settings : Settings) (r : Runner σ) (w : World σ) :
    Except Failure TestResult × World σ :=
  if settings.isCrossBuilding then
    let reason := skipReason settings
    (.ok (.skipped reason), w.note [.testSkipped reason])
  else
    let command := shownCommand options
    match (w.note [.testing command]).launch r (exampleCommand c w.files options settings) with
    | (.error f, w) => (.error (.testExecution command none f.message), w)
    | (.ok output, w) =>
      let w := w.note (outputEvents output.combined)
      if output.success then (.ok (.passed command), w.note [.testPassed])
      else (.error (.testExecution command output.exit.code? output.combined), w)

end SmokeTest

end ConsumerCheck
