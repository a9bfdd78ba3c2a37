import ConsumerCheck.Settings.Names

/-!
# Settings

The settings of a run say what the example is built for: operating system, compiler, build type and
architecture, and, if they are pinned, the system and architecture of the machine that builds.

* `Overrides` — some of these, as a configuration file or the command line gives them
  (`SettingsOverrides`);
* `Overrides.merge` — two sets of overrides, where the second wins;
* `Settings.apply` — settings under overrides (`Settings::apply`). A new operating system brings its default
  compiler with it, unless a compiler is given or the system is the same under another name;
* `Settings.isCrossBuilding` — whether what is built cannot run on the machine that builds it
  (`is_cross_building`).
-/

namespace ConsumerCheck

/-- The settings of a run. -/
structure Settings where
  os : String
  compiler : String
  compilerVersion : Option String
  buildType : String
  arch : String
  osBuild : Option String
  archBuild : Option String
  deriving DecidableEq, Repr

/-- Values for some of the settings. -/
structure Overrides where
  os : Option String
  compiler : Option String
  compilerVersion : Option String
  buildType : Option String
  arch : Option String
  osBuild : Option String
  archBuild : Option String
  deriving DecidableEq, Repr, Inhabited

namespace Overrides

/-- No overrides. -/
def none : Overrides := ⟨.none, .none, .none, .none, .none, .none, .none⟩

/-- Both sets of overrides; where both give a value, the one of `upper` counts. -/
def merge (base upper : Overrides) : Overrides where
  os := upper.os <|> base.os
  compiler := upper.compiler <|> base.compiler
  compilerVersion := upper.compilerVersion <|> base.compilerVersion
  buildType := upper.buildType <|> base.buildType
  arch := upper.arch <|> base.arch
  osBuild := upper.osBuild <|> base.osBuild
  archBuild := upper.archBuild <|> base.archBuild

end Overrides

namespace Settings

/-- The settings of the host, with a Release build. -/
def detect : Settings where
  os := hostOs
  compiler := defaultCompiler hostOs
  compilerVersion := none
  buildType := "Release"
  arch := hostArch
  osBuild := none
  archBuild := none

/-- The compiler under overrides: the one that is given; else, for another operating system, its
default; else the one before. -/
def compilerUnder (s : Settings) (o : Overrides) : String :=
  match o.compiler, o.os with
  | some compiler, _ => compiler
  | none, some os => if normalizeOs os = normalizeOs s.os then s.compiler else defaultCompiler os
  | none, none => s.compiler

/-- The settings under overrides. -/
def apply (s : Settings) (o : Overrides) : Settings where
  os := o.os.getD s.os
  compiler := s.compilerUnder o
  compilerVersion := o.compilerVersion <|> s.compilerVersion
  buildType := o.buildType.getD s.buildType
  arch := o.arch.getD s.arch
  osBuild := o.osBuild <|> s.osBuild
  archBuild := o.archBuild <|> s.archBuild

/-- The operating system of the machine that builds, in normal form. -/
def buildOs (s : Settings) : String := normalizeOs (s.osBuild.getD hostOs)

/-- The architecture of the machine that builds, in normal form. -/
def buildArch (s : Settings) : String := normalizeArch (s.archBuild.getD hostArch)

/-- Whether the target differs from the machine that builds. An empty name is the same as that
machine's. -/
def isCrossBuilding (s : Settings) : Bool :=
  (s.os != "" && normalizeOs s.os != s.buildOs) ||
    (s.arch != "" && normalizeArch s.arch != s.buildArch)

/-- Whether the target is a Windows system. -/
def isWindows (s : Settings) : Bool := normalizeOs s.os == "windows"

/-- Whether the compiler is Microsoft's. -/
def isMsvc (s : Settings) : Bool :=
  let compiler := Text.toLower s.compiler
  compiler == "visual studio" || compiler == "msvc"

theorem isMsvc_iff {s : Settings} :
    s.isMsvc = true ↔ Text.toLower s.compiler = "visual studio" ∨ Text.toLower s.compiler = "msvc" := by
  simp [isMsvc]

/-- The settings in one line. -/
def display (s : Settings) : String :=
  "os=" ++ s.os ++ " compiler=" ++ s.compiler ++
    (match s.compilerVersion with
      | some version => " compiler.version=" ++ version
      | none => "") ++
    " build_type=" ++ s.buildType ++ " arch=" ++ s.arch

end Settings

end ConsumerCheck
