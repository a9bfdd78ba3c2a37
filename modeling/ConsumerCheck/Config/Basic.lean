import ConsumerCheck.Config.Definitions
import ConsumerCheck.CopyRule
import ConsumerCheck.Settings.Basic

/-!
# Configurations

A configuration file gives values for some of the settings, says how the example is built, and adds copy
rules. Files stand in layers, and a higher layer wins wherever it says something.

* `Config` — what a file says, with `BuildConfig` and `ImportsConfig` in it;
* `Config.merge` — two layers as one (`Config::merge`).
-/

namespace ConsumerCheck

/-- How the example is built. -/
structure BuildConfig where
  generator : Option String
  /-- The CMake program. -/
  cmake : Option Path
  sourceDir : Option Path
  definitions : Definitions
  deriving DecidableEq, Repr

/-- How the package is staged. -/
structure ImportsConfig where
  /-- Whether rules for other systems than the target are left out. -/
  filterHostPlatform : Option Bool
  /-- The rules that are added to the usual ones. -/
  rules : List CopyRule
  deriving DecidableEq, Repr

/-- What a configuration file says. -/
structure Config where
  settings : Overrides
  build : BuildConfig
  imports : ImportsConfig
  deriving DecidableEq, Repr

/-- A build about which nothing is said. -/
def BuildConfig.empty : BuildConfig := ⟨none, none, none, .empty⟩

/-- A staging about which nothing is said. -/
def ImportsConfig.empty : ImportsConfig := ⟨none, []⟩

namespace Config

/-- A configuration that says nothing. -/
def empty : Config := ⟨.none, .empty, .empty⟩

instance : Inhabited Config := ⟨empty⟩

/-- Both layers; where both say something, `upper` counts. Definitions are united, and the rules of `upper`
follow those of `base`. -/
def merge (base upper : Config) : Config where
  settings := base.settings.merge upper.settings
  build := {
    generator := upper.build.generator <|> base.build.generator
    cmake := upper.build.cmake <|> base.build.cmake
    sourceDir := upper.build.sourceDir <|> base.build.sourceDir
    definitions := base.build.definitions.union upper.build.definitions }
  imports := {
    filterHostPlatform := upper.imports.filterHostPlatform <|> base.imports.filterHostPlatform
    rules := base.imports.rules ++ upper.imports.rules }

end Config

end ConsumerCheck
