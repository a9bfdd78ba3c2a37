import ConsumerCheck.Host.Search
import ConsumerCheck.Options
import ConsumerCheck.Text.Lines
import ConsumerCheck.World

/-!
# Build of the example with CMake

The commands of `CMakeExample`, and the run of both by `build_example`.

* `CMakeExample.generator`, `isMultiConfig`, `vsPlatform` — what the settings ask of CMake;
* `CMakeExample.definitions` — the cache definitions: those that every build has, then the caller's;
* `CMakeExample.configureCommand`, `buildCommand` — the two commands;
* `CMakeExample.build` — both, in a build directory that is made first.
-/

namespace ConsumerCheck

/-- The build of an example: settings, options and the CMake program. -/
structure CMakeExample where
  settings : Settings
  options : BuildOptions
  cmake : Path
  deriving DecidableEq, Repr

/-- What a build that did not fail has run. -/
structure BuildResult where
  configureCommand : String
  buildCommand : String
  deriving DecidableEq, Repr

namespace CMakeExample

/-- The build with the CMake program of the options, the one that is found, or just `cmake`. -/
def new (c : Context) (fs : FileSystem) (settings : Settings) (options : BuildOptions) :
    CMakeExample :=
  ⟨settings, options, ((options.cmake <|> c.findCmake fs).getD (.ofText "cmake"))⟩

/-- The generator to ask for: the caller's; for the usual compilers on Windows, that of MinGW. -/
def generator (e : CMakeExample) : Option String :=
  match e.options.generator with
  | some generator => some generator
  | none =>
    let compiler := Text.toLower e.settings.compiler
    if e.settings.isWindows && (compiler == "gcc" || compiler == "clang") then
      some "MinGW Makefiles"
    else none

/-- Whether a generator is one of Visual Studio's. -/
def isVisualStudio (generator : String) : Bool :=
  "Visual Studio".toList.isPrefixOf generator.toList

/-- Whether one build tree holds several configurations. -/
def isMultiConfig (e : CMakeExample) : Bool :=
  match e.generator with
  | some generator =>
    isVisualStudio generator || generator == "Xcode" || generator == "Ninja Multi-Config"
  | none => e.settings.isMsvc

/-- The platform to ask of Visual Studio; other generators do not accept one. -/
def vsPlatform (e : CMakeExample) : Option String :=
  if e.settings.isMsvc && e.generator.all isVisualStudio then
    match normalizeArch e.settings.arch with
    | "x86_64" => some "x64"
    | "x86" => some "Win32"
    | "armv8" => some "ARM64"
    | "armv7" => some "ARM"
    | _ => none
  else none

/-- The build directory as a value for CMake, which takes only the slash as a separator. -/
def cmakePath (p : Path) : String := Text.replaceChar '\\' "/" p.display

/-- The definitions that every build has. -/
def builtinDefinitions (e : CMakeExample) : List (String × String) :=
  [("CONAN_EXPORTED", "1"), ("CONAN_IN_LOCAL_CACHE", "OFF"),
    ("CONAN_COMPILER", e.settings.compiler)] ++
  (match e.settings.compilerVersion with
    | some version => [("CONAN_COMPILER_VERSION", version)]
    | none => []) ++
  (if e.isMultiConfig then [] else [("CMAKE_BUILD_TYPE", e.settings.buildType)]) ++
  [("CMAKE_EXPORT_NO_PACKAGE_REGISTRY", "ON"),
    ("CMAKE_PREFIX_PATH", cmakePath e.options.buildDir),
    ("CMAKE_MODULE_PATH", cmakePath e.options.buildDir)]

/-- The cache definitions, in the order in which CMake is given them. -/
def definitions (e : CMakeExample) : List (String × String) :=
  e.builtinDefinitions ++ e.options.definitions

/-- A definition as an argument. -/
def definitionArgument (d : String × String) : String := "-D" ++ d.1 ++ "=" ++ d.2

/-- The command that configures. -/
def configureCommand (e : CMakeExample) : Command where
  program := e.cmake
  arguments :=
    ["-S", e.options.sourceDir.display, "-B", e.options.buildDir.display] ++
    (match e.generator with
      | some generator => ["-G", generator]
      | none => []) ++
    (match e.vsPlatform with
      | some platform => ["-A", platform]
      | none => []) ++
    e.definitions.map definitionArgument
  environment := []
  directory := some e.options.buildDir

/-- The command that builds. -/
def buildCommand (e : CMakeExample) : Command where
  program := e.cmake
  arguments :=
    ["--build", e.options.buildDir.display] ++
    (if e.isMultiConfig then ["--config", e.settings.buildType] else [])
  environment := []
  directory := some e.options.buildDir

variable {σ : Type}

/-- Runs a command that must end with the code zero. -/
def runChecked (r : Runner σ) (w : World σ) (c : Command) : Except Failure Unit × World σ :=
  match (w.note [.running c.display]).launch r c with
  | (.error f, w) => (.error (.build c.display none f.message), w)
  | (.ok output, w) =>
    if output.success then (.ok (), w)
    else (.error (.build c.display output.exit.code? output.combined), w)

/-- Makes the build directory, configures and builds; the first fault ends the build. -/
def build (e : CMakeExample) (c : Context) (r : Runner σ) (w : World σ) :
    Except Failure BuildResult × World σ :=
  match w.files.makeDirectories c.workingDirectory e.options.buildDir with
  | (.error cause, files) => (.error (.filesystem e.options.buildDir cause), { w with files })
  | (.ok (), files) =>
    match runChecked r ({ w with files }.note [.configuring e.settings]) e.configureCommand with
    | (.error f, w) => (.error f, w)
    | (.ok (), w) =>
      match runChecked r (w.note [.building]) e.buildCommand with
      | (.error f, w) => (.error f, w)
      | (.ok (), w) => (.ok ⟨e.configureCommand.display, e.buildCommand.display⟩, w)

end CMakeExample

/-- Builds the example. -/
def buildExample {σ : Type} (c : Context) (options : BuildOptions) (settings : Settings)
    (r : Runner σ) (w : World σ) : Except Failure BuildResult × World σ :=
  (CMakeExample.new c w.files settings options).build c r w

end ConsumerCheck
