import ConsumerCheck.Path.Basic
import ConsumerCheck.Text.Blank

/-!
# Commands and what comes of them

* `Command` — a program with arguments, variables and a directory to run in (`ProcessBuilder`);
* `Output` — how a program that was started ended, and what it wrote;
* `Output.combine` — both streams in one text for a reader (`combined_output`);
* `LaunchFailure` — why a program was not started: the chain of an `anyhow::Error`.
-/

namespace ConsumerCheck

/-- A program to be run. -/
structure Command where
  program : Path
  arguments : List String
  /-- Variables that the program sees beside those of its parent, by name. -/
  environment : List (String × String)
  directory : Option Path
  deriving DecidableEq, Repr

namespace Command

/-- A program without arguments. -/
def new (program : Path) : Command := ⟨program, [], [], none⟩

/-- With one more argument. -/
def arg (c : Command) (text : String) : Command := { c with arguments := c.arguments ++ [text] }

/-- With one more argument, given as octets. -/
def argOctets (c : Command) (octets : Bytes) : Command := c.arg (Utf8.decodeLossy octets)

/-- With a variable set, whatever it was before. -/
def set (c : Command) (name value : String) : Command :=
  { c with environment := (name, value) :: c.environment.filter (·.1 != name) }

/-- To be run in a directory. -/
def inDirectory (c : Command) (p : Path) : Command := { c with directory := some p }

/-- The value of a variable that the command sets. -/
def valueOf? (c : Command) (name : String) : Option String := c.environment.lookup name

/-- The command in one line, for messages. -/
def display (c : Command) : String := " ".intercalate (c.program.display :: c.arguments)

end Command

/-- How a program ended. -/
inductive Exit where
  | code (n : Nat)
  | signal (n : Nat)
  deriving DecidableEq, Repr

/-- The exit code of a program that ended by itself. -/
def Exit.code? : Exit → Option Int
  | code n => some n
  | signal _ => none

/-- What came of a program that was started. -/
structure Output where
  exit : Exit
  stdout : Bytes
  stderr : Bytes
  deriving DecidableEq, Repr

namespace Output

/-- Whether a program ended by itself with the code zero. -/
def success (o : Output) : Bool := o.exit == .code 0

theorem success_iff {o : Output} : o.success = true ↔ o.exit = .code 0 := beq_iff_eq

/-- Both streams in one text: each that is not blank, without the blanks at its end. -/
def combine (stdout stderr : Bytes) : String :=
  let out := Utf8.decodeLossy stdout
  let err := Utf8.decodeLossy stderr
  match Text.isBlankText out, Text.isBlankText err with
  | true, true => ""
  | false, true => Text.trimEnd out
  | true, false => Text.trimEnd err
  | false, false => Text.trimEnd out ++ "\n" ++ Text.trimEnd err

/-- What a program wrote, in one text. -/
def combined (o : Output) : String := combine o.stdout o.stderr

end Output

/-- Why a program was not started: the causes, the outermost first. -/
structure LaunchFailure where
  causes : List String
  deriving DecidableEq, Repr

/-- The causes in one line. -/
def LaunchFailure.message (f : LaunchFailure) : String := ": ".intercalate f.causes

/-- What comes of a command. -/
abbrev Reply := Except LaunchFailure Output

end ConsumerCheck
