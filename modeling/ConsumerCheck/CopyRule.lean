import ConsumerCheck.Path.Basic
import ConsumerCheck.Settings.Names

/-!
# Copy rules

A copy rule says which files of a package are loaded at run time: files whose names match a pattern,
in one directory of the package, for the systems of one naming convention. Their destination is always
`bin`; a rule may state it, but no other.

* `Platform.matchesOs` — the systems of a convention (`Platform::matches_os`);
* `CopyRule`, `defaultRules` — a rule, and those for every package (`default_rules`).
-/

namespace ConsumerCheck

/-- The naming conventions of shared libraries. -/
inductive Platform where
  /-- `*.dll`, beside the programs. -/
  | windows
  /-- `*.dylib`, perhaps with a version before or after the extension. -/
  | macos
  /-- `*.so`, perhaps with a version after the extension. -/
  | unix
  deriving DecidableEq, Repr

namespace Platform

/-- All conventions. -/
def all : List Platform := [windows, macos, unix]

/-- The name of a convention. -/
def name : Platform → String
  | windows => "windows"
  | macos => "macos"
  | unix => "unix"

/-- The convention of a name. -/
def ofName? (text : String) : Option Platform := all.find? (·.name == text)

/-- Whether an operating system follows a convention. Each has a test of its own. -/
def matchesOs (p : Platform) (os : String) : Bool :=
  let os := normalizeOs os
  match p with
  | windows => os == "windows"
  | macos => ["macos", "ios", "watchos", "tvos"].contains os
  | unix => !(["windows", "macos", "ios", "watchos", "tvos"].contains os)

end Platform

/-- The directory that receives the files of every rule. -/
def runtimeDir : Path := .ofText "bin"

/-- Which files of a package are loaded at run time. -/
structure CopyRule where
  platform : Platform
  /-- The pattern of the file names. -/
  pattern : String
  /-- The directory inside the package. -/
  src : Path
  /-- The directory inside the run layout. -/
  dst : Path
  deriving DecidableEq, Repr

/-- The rules that hold for every package: libraries in `bin` on Windows and in `lib` elsewhere. -/
def defaultRules : List CopyRule := [
  ⟨.windows, "*.dll", .ofText "bin", runtimeDir⟩,
  ⟨.macos, "*.dylib*", .ofText "lib", runtimeDir⟩,
  ⟨.unix, "*.so*", .ofText "lib", runtimeDir⟩]

end ConsumerCheck
