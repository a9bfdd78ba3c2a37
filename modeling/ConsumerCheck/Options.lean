import ConsumerCheck.CopyRule
import ConsumerCheck.Settings.Basic

/-!
# Options of a run

* `ImportOptions`, `BuildOptions`, `TestOptions` — what each step is told;
* `VerifyOptions.new` — the usual layout (`VerifyOptions::new`): the build directory is also where files are
  staged and where the example is run.
-/

namespace ConsumerCheck

/-- What the imports step is told. -/
structure ImportOptions where
  packageFolder : Path
  /-- The root of the run layout; the destinations of the rules lie below it. -/
  destRoot : Path
  rules : List CopyRule
  /-- Whether rules for other systems than the target are left out. -/
  filterHostPlatform : Bool
  deriving DecidableEq, Repr

/-- What the build step is told. -/
structure BuildOptions where
  /-- The directory of the example's sources. -/
  sourceDir : Path
  /-- The directory that CMake builds in. -/
  buildDir : Path
  /-- The generator that is asked for. -/
  generator : Option String
  /-- Further cache definitions. -/
  definitions : List (String × String)
  /-- The CMake program, if it is not to be searched for. -/
  cmake : Option Path
  deriving DecidableEq, Repr

/-- What the test step is told. -/
structure TestOptions where
  /-- The directory that the example is run in. -/
  buildDir : Path
  exampleName : String
  /-- The directory of the staged libraries. -/
  runtimeDir : Path
  deriving DecidableEq, Repr

/-- What a whole run is told. -/
structure VerifyOptions where
  settings : Settings
  imports : ImportOptions
  build : BuildOptions
  test : TestOptions
  deriving DecidableEq, Repr

/-- The name of the example program. -/
def exampleName : String := "example"

/-- The usual layout. -/
def VerifyOptions.new (settings : Settings) (package source build : Path) : VerifyOptions where
  settings := settings
  imports := ⟨package, build, defaultRules, false⟩
  build := ⟨source, build, none, [], none⟩
  test := ⟨build, exampleName, build.join runtimeDir⟩

end ConsumerCheck
