import ConsumerCheck.Path.Basic

/-!
# Options of the command line

The options that `Cli`, `SettingsFlags` and `StepArgs` declare, as `clap` knows them.

* `Item` — what an argument can give;
* `Spelling` — how an item is written on the command line, and what kind of value it takes;
* `ValueKind.read` — a value from its octets, if it is one of its kind;
* `UsageError` — what is wrong with a command line, or what is asked for instead of a run.
-/

namespace ConsumerCheck.CommandLine

/-- What is wrong with a command line, or what is asked for instead of a run. -/
inductive UsageError where
  /-- A value that is missing or not one of its kind. -/
  | invalidValue
  /-- A value that is not UTF-8. -/
  | notText
  /-- A definition without a key or without `=`. -/
  | malformedDefinition (text : String)
  | unknownArgument
  | unknownCommand
  /-- No command, though something is given. -/
  | missingCommand
  /-- Nothing at all. -/
  | nothingGiven
  /-- An argument that a command cannot do without. -/
  | missingArgument
  /-- An option given twice. -/
  | repeated
  /-- A value for an option that takes none. -/
  | unneededValue
  | helpWanted
  | versionWanted
  deriving DecidableEq, Repr

/-- The shells for which completions are written. -/
inductive CompletionShell where
  | bash
  | elvish
  | fish
  | powershell
  | zsh
  deriving DecidableEq, Repr

/-- The name of a shell. -/
def CompletionShell.name : CompletionShell → String
  | bash => "bash"
  | elvish => "elvish"
  | fish => "fish"
  | powershell => "powershell"
  | zsh => "zsh"

/-- All shells. -/
def CompletionShell.all : List CompletionShell := [bash, elvish, fish, powershell, zsh]

/-- What an argument can give. -/
inductive Item where
  | verbose
  | config
  | help
  | version
  | os
  | compiler
  | compilerVersion
  | buildType
  | arch
  | osBuild
  | archBuild
  | packageFolder
  | sourceDir
  | buildDir
  | generator
  | define
  | filterHost
  | outputFormat
  | json
  | shell
  deriving DecidableEq, Repr

/-- A value of an item. -/
inductive ItemValue where
  | flag
  | text (text : String)
  | path (path : Path)
  | definition (key value : String)
  | shell (shell : CompletionShell)
  deriving DecidableEq, Repr

/-- The kinds of values. -/
inductive ValueKind where
  /-- No value; the item is given or not. -/
  | none
  | text
  /-- A path, which must not be empty. -/
  | path
  | definition
  | shell
  deriving DecidableEq, Repr

/-- How an item is written. -/
structure Spelling where
  item : Item
  /-- The name after two hyphens. -/
  long : Option String
  /-- The letter after one hyphen. -/
  short : Option UInt8
  kind : ValueKind
  /-- The variable that gives the item if no argument does. -/
  variableName : Option String
  deriving DecidableEq, Repr

namespace Spelling

/-- Whether an item takes a value. -/
def takesValue (s : Spelling) : Bool := s.kind != .none

/-- Whether an item may be given more than once. -/
def mayRepeat (s : Spelling) : Bool := s.kind == .definition

/-- An item that is written with a long name. -/
def named (item : Item) (long : String) (kind : ValueKind) : Spelling :=
  ⟨item, some long, none, kind, none⟩

end Spelling

/-- A definition from its text: the key is what stands before the first `=`, and must not be empty. -/
def readDefinition (text : String) : Except UsageError (String × String) :=
  let cs := text.toList
  let key := cs.takeWhile (· != '=')
  if key = [] ∨ key.length = cs.length then .error (.malformedDefinition text)
  else .ok (String.ofList key, String.ofList (cs.drop (key.length + 1)))

/-- A value of a kind from its octets. -/
def ValueKind.read (kind : ValueKind) (octets : Bytes) : Except UsageError ItemValue :=
  match kind with
  | none => .ok .flag
  | path => if octets = [] then .error .invalidValue else .ok (.path ⟨octets⟩)
  | text =>
    match Utf8.decode? octets with
    | some t => .ok (.text t)
    | .none => .error .notText
  | definition =>
    match Utf8.decode? octets with
    | some t => (readDefinition t).map fun d => .definition d.1 d.2
    | .none => .error .notText
  | shell =>
    match CompletionShell.all.find? fun s => Utf8.encode s.name == octets with
    | some s => .ok (.shell s)
    | .none => .error .invalidValue

/-- The options that hold for every command. -/
def commonOptions : List Spelling := [
  ⟨.verbose, some "verbose", some 0x76, .none, none⟩,
  ⟨.config, some "config", none, .path, some "PKGCHECK_CONFIG"⟩,
  ⟨.help, some "help", some 0x68, .none, none⟩]

/-- The options in front of a command. -/
def outerOptions : List Spelling :=
  commonOptions ++ [⟨.version, some "version", some 0x56, .none, none⟩]

/-- The options with the settings. -/
def settingsOptions : List Spelling := [
  .named .os "os" .text,
  .named .compiler "compiler" .text,
  .named .compilerVersion "compiler-version" .text,
  .named .buildType "build-type" .text,
  .named .arch "arch" .text,
  .named .osBuild "os-build" .text,
  .named .archBuild "arch-build" .text]

/-- The options of the commands that make a step. -/
def stepOptions : List Spelling :=
  commonOptions ++ settingsOptions ++ [
    ⟨.packageFolder, some "package-folder", none, .path, some "PKGCHECK_PACKAGE_FOLDER"⟩,
    .named .sourceDir "source-dir" .path,
    .named .buildDir "build-dir" .path,
    ⟨.generator, some "generator", some 0x47, .text, none⟩,
    ⟨.define, none, some 0x44, .definition, none⟩,
    .named .filterHost "filter-host" .none]

end ConsumerCheck.CommandLine
