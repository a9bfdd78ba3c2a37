import ConsumerCheck.FileSystem.Error
import ConsumerCheck.Pattern

/-!
# Failures of a step

* `Failure` — the causes that end a verification (`VerifyError`);
* `Failure.kind` — what they are sorted into (`VerifyErrorKind`);
* `Failure.message` — their wording.
-/

namespace ConsumerCheck

/-- What is wrong with the copy rules. -/
inductive ConfigFault where
  /-- The rule with this pattern has a destination other than `bin`. -/
  | foreignTarget (pattern : String) (dst : Path)
  /-- The pattern of a rule cannot be read. -/
  | badPattern (pattern : String) (error : PatternError)
  /-- A fault with a text of its own. -/
  | other (text : String)
  deriving DecidableEq, Repr

/-- The wording of a fault. -/
def ConfigFault.message : ConfigFault → String
  | foreignTarget pattern dst =>
    "copy rule `" ++ pattern ++ "` targets `" ++ dst.display ++
      "`; runtime artifacts must go to `bin`"
  | badPattern pattern error => "invalid copy pattern `" ++ pattern ++ "`: " ++ error.message
  | other text => text

/-- Why a step failed. -/
inductive Failure where
  /-- The package could not be read, or the run directory not be written. -/
  | filesystem (path : Path) (cause : IoError)
  /-- CMake could not be started, or ended with this exit code; a signal leaves none. -/
  | build (command : String) (code : Option Int) (output : String)
  /-- The example could not be started, or ended with this exit code; a signal leaves none. -/
  | testExecution (command : String) (code : Option Int) (message : String)
  /-- The options make no sense. -/
  | config (fault : ConfigFault)
  deriving DecidableEq, Repr

/-- The kinds of failure. -/
inductive FailureKind where
  | filesystem
  | build
  | testExecution
  | config
  deriving DecidableEq, Repr

/-- The name of a kind. -/
def FailureKind.name : FailureKind → String
  | filesystem => "filesystem"
  | build => "build"
  | testExecution => "test_execution"
  | config => "config"

namespace Failure

/-- The kind of a failure. -/
def kind : Failure → FailureKind
  | filesystem .. => .filesystem
  | build .. => .build
  | testExecution .. => .testExecution
  | config .. => .config

/-- An exit code as a build failure shows it. -/
def codeText : Option Int → String
  | some code => "Some(" ++ toString code ++ ")"
  | none => "None"

/-- The wording of a failure. -/
def message : Failure → String
  | filesystem path cause => "filesystem error at " ++ path.display ++ ": " ++ cause.message
  | build command code output =>
    "`" ++ command ++ "` failed with exit code " ++ codeText code ++ "\n" ++ output
  | testExecution command (some code) text =>
    "example `" ++ command ++ "` exited with status " ++ toString code ++
      (if text = "" then "" else "\n" ++ text)
  | testExecution command none text => "example `" ++ command ++ "` could not be run: " ++ text
  | config fault => "invalid configuration: " ++ fault.message

/-- The wordings of a failure and of what caused it, the outermost first. -/
def chain (f : Failure) : List String :=
  match f with
  | filesystem _ cause => f.message :: cause.chain
  | _ => [f.message]

end Failure

end ConsumerCheck
