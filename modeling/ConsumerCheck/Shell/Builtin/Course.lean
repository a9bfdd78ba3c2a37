import ConsumerCheck.Shell.Builtin.Arguments
import ConsumerCheck.Shell.Redirection

/-!
# The course of a script

* `Builtin.leaveLoops` — `break` and `continue`;
* `Builtin.exit`, `Builtin.return_` — the end of a script, and of a function or file;
* `Builtin.eval`, `Builtin.dot` — commands from a text and from a file.
-/

namespace ConsumerCheck.Shell.Builtin

/-- The commands `break` and `continue`. They go no further than there are loops. -/
def leaveLoops (flow : Nat → Flow) (arguments : List Chars) : Action Nat := do
  let n ← firstNumber 1 arguments
  if n = 0 then badNumber (arguments.headD [])
  let n := min n (← get).loops
  if n = 0 then return 0
  else
    Action.setStatus 0
    throw (flow n)

/-- The status that a command is given, or that of the last command. While something is done on a signal,
that is the one before it. -/
def givenStatus (arguments : List Chars) : Action Nat := do
  let s ← get
  firstNumber (s.held.getD s.status) arguments

/-- The command `exit`. -/
def exit (arguments : List Chars) : Action Nat := do
  Action.setStatus (← givenStatus arguments)
  throw .ended

/-- The command `return`. -/
def return_ (arguments : List Chars) : Action Nat := do
  Action.setStatus (← givenStatus arguments)
  throw .back

section

variable (run : Evaluate)

/-- The command `eval`. -/
def eval (manner : Manner) (arguments : List Chars) : Action Nat := do
  if arguments.isEmpty then return 0
  else
    runText run manner.inside false ([' '].intercalate arguments)
    return (← get).status

/-- The file of a name: the name itself if it has a slash, else the first regular file on the search
path. -/
def fileOnPath? (s : Session) (name : Chars) : Option Chars :=
  if name.contains '/' then some name
  else
    let path := (s.stored? (chars "PATH")).getD []
    let paths := (Path.splitAt 0x3A (toOctets path)).map fun dir =>
      if dir = [] then name else ofOctets dir ++ '/' :: name
    paths.find? fun path => s.files.isFile s.directory (Session.path path)

/-- The command `.`, which runs a file. -/
def dot (arguments : List Chars) : Action Nat := do
  let (_, arguments) ← options "" arguments
  match arguments with
  | [] => return 0
  | name :: _ => do
    match fileOnPath? (← get) name with
    | none => Action.fail (name ++ chars ": not found")
    | some file => do
      let channel ← openTarget .read file
      let s ← get
      let text := (s.machine.available channel).toOption.getD []
      modify fun s => { s with command := some file }
      try runText run .usual true text
      catch flow => if flow ≠ .back then throw flow
      return (← get).status

end

end ConsumerCheck.Shell.Builtin
