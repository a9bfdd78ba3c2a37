import ConsumerCheck.CommandLine.Option
import ConsumerCheck.Settings.Basic

/-!
# What a command line asks for

The values that `Cli` and its `Commands` hold once the arguments are read.

* `StepFlags` — what the commands that make a step are given;
* `Request` — a command with what it is given;
* `Invocation` — a whole command line.
-/

namespace ConsumerCheck.CommandLine

/-- What the commands that make a step are given. -/
structure StepFlags where
  settings : Overrides
  packageFolder : Option Path
  sourceDir : Option Path
  buildDir : Option Path
  generator : Option String
  definitions : List (String × String)
  filterHost : Bool
  deriving DecidableEq, Repr

/-- A command with what it is given. -/
inductive Request where
  | verify (flags : StepFlags) (outputFormat : String)
  | imports (flags : StepFlags)
  | build (flags : StepFlags)
  | test (flags : StepFlags)
  | settings (flags : Overrides) (json : Bool)
  | completions (shell : CompletionShell)
  deriving DecidableEq, Repr

/-- A whole command line. -/
structure Invocation where
  verbose : Bool
  config : Option Path
  request : Request
  deriving DecidableEq, Repr

/-- The commands. -/
inductive CommandName where
  | verify
  | imports
  | build
  | test
  | settings
  | completions
  | help
  deriving DecidableEq, Repr

namespace CommandName

/-- All commands. -/
def all : List CommandName := [verify, imports, build, test, settings, completions, help]

/-- The name of a command. -/
def text : CommandName → String
  | verify => "verify"
  | imports => "imports"
  | build => "build"
  | test => "test"
  | settings => "settings"
  | completions => "completions"
  | help => "help"

/-- The command of a name. -/
def ofOctets? (octets : Bytes) : Option CommandName :=
  all.find? fun c => Utf8.encode c.text == octets

/-- The options of a command. -/
def options : CommandName → List Spelling
  | verify => stepOptions ++ [.named .outputFormat "output-format" .text]
  | settings => commonOptions ++ settingsOptions ++ [.named .json "json" .none]
  | completions => commonOptions
  | help => commonOptions
  | _ => stepOptions

/-- The argument without a name that a command takes. -/
def operand? : CommandName → Option Spelling
  | completions => some ⟨.shell, none, none, .shell, none⟩
  | _ => none

end CommandName

end ConsumerCheck.CommandLine
