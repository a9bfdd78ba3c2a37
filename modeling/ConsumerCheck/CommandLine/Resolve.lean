import ConsumerCheck.CommandLine.Invocation
import ConsumerCheck.Config.Load
import ConsumerCheck.Host.Context
import ConsumerCheck.Options

/-!
# From flags and configuration to options

Flags count more than the configuration, and the configuration more than what is usual. Relative directories
are meant from the working directory.

* `resolveSettings`, `resolveOptions` — settings and options (`resolve_settings`, `resolve_options`);
* `loadConfig` — the configuration of a working directory (`load`);
* `requirePackageFolder` — the package folder, for the commands that cannot do without it
  (`require_package_folder`).
-/

namespace ConsumerCheck.CommandLine

/-- The settings: those of the host, under the configuration, under the flags. -/
def resolveSettings (config : Config) (flags : Overrides) : Settings :=
  Settings.detect.apply (config.settings.merge flags)

/-- A program as the configuration names it: a bare name is left to the search path, and a path is meant from
the working directory, not from the one that the program is run in. -/
def resolveTool (directory tool : Path) : Path :=
  if 1 < tool.components.length then directory.join tool else tool

/-- The name of the build directory inside the sources. -/
def buildDirName : Path := .ofText "build"

/-- The directory of the example's sources. -/
def resolveSourceDir (directory : Path) (config : Config) (flags : StepFlags) : Path :=
  match flags.sourceDir <|> config.build.sourceDir with
  | some p => directory.join p
  | none => directory

/-- The build directory. -/
def resolveBuildDir (directory : Path) (config : Config) (flags : StepFlags) : Path :=
  match flags.buildDir with
  | some p => directory.join p
  | none => (resolveSourceDir directory config flags).join buildDirName

/-- The package folder; the empty path if none is given. -/
def resolvePackageFolder (directory : Path) (flags : StepFlags) : Path :=
  match flags.packageFolder with
  | some p => directory.join p
  | none => ⟨[]⟩

/-- The options of a run. -/
def resolveOptions (directory : Path) (config : Config) (flags : StepFlags) : VerifyOptions :=
  let base := VerifyOptions.new (resolveSettings config flags.settings)
    (resolvePackageFolder directory flags) (resolveSourceDir directory config flags)
    (resolveBuildDir directory config flags)
  { base with
    imports := { base.imports with
      rules := base.imports.rules ++ config.imports.rules
      filterHostPlatform := flags.filterHost || config.imports.filterHostPlatform.getD false }
    build := { base.build with
      generator := flags.generator <|> config.build.generator
      cmake := config.build.cmake.map (resolveTool directory)
      definitions := config.build.definitions.entries ++ flags.definitions } }

/-- The file with the user's configuration. -/
def globalConfigPath (c : Context) : Path :=
  (c.home.join (.ofText ".pkgcheck")).join (.ofText "config.toml")

/-- The file with the configuration of a project. -/
def projectConfigPath (directory : Path) : Path := directory.join (.ofText "pkgcheck.toml")

/-- The configuration of the working directory, and what is worth noting. -/
def loadConfig (c : Context) (fs : FileSystem) (explicit : Option Path) :
    Except ConfigError Config × List Event :=
  Config.loadLayers fs c.workingDirectory (some (globalConfigPath c))
    (projectConfigPath c.directory) explicit

/-- That the package folder is not given. -/
structure MissingPackageFolder where
  deriving DecidableEq, Repr

/-- The wording of the fault. -/
def MissingPackageFolder.message (_ : MissingPackageFolder) : String :=
  "--package-folder is required (or set PKGCHECK_PACKAGE_FOLDER)"

/-- The package folder as it is given. -/
def requirePackageFolder (flags : StepFlags) : Except MissingPackageFolder Path :=
  match flags.packageFolder with
  | some p => .ok p
  | none => .error ⟨⟩

end ConsumerCheck.CommandLine
