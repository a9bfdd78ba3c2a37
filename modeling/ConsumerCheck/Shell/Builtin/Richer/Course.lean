import ConsumerCheck.Shell.Builtin.Course

/-!
# The course of a script in the richer shell

* `Richer.leaveLoops` — `break` and `continue`;
* `Richer.exit`, `Richer.return_` — the end of a script, and of a function or file;
* `Richer.shift` — arguments that are dropped;
* `Richer.eval`, `Richer.dot` — commands from a text and from a file.
-/

namespace ConsumerCheck.Shell.Builtin.Richer

/-- Leaves the line of commands because a command has too many arguments. -/
def tooMany : Action α := do
  Action.complain (chars "too many arguments")
  Action.setStatus 1
  throw .dropped

/-- Complains about an argument that is no number. -/
def notNumber (argument : Chars) : Action Unit :=
  Action.complain (argument ++ chars ": numeric argument required")

/-- The arguments without the sign that ends options. -/
def afterSign (arguments : List Chars) : List Chars :=
  if arguments.head? = some ['-', '-'] then arguments.tail else arguments

/-- The number that a command is given, or the usual one. A wrong one ends the script. -/
def numberOr (usual : Int) (status : Nat) (arguments : List Chars) : Action Int := do
  match afterSign arguments with
  | [] => return usual
  | argument :: more => do
    match Number.decimal? argument with
    | none => do
      notNumber argument
      Action.setStatus status
      throw .ended
    | some n => if more.isEmpty then return n else tooMany

/-- The commands `break` and `continue`. -/
def leaveLoops (flow : Nat → Flow) (arguments : List Chars) : Action Nat := do
  let loops := (← get).loops
  if loops = 0 then
    Action.complain (chars "only meaningful in a \x60for', \x60while', or \x60until' loop")
    return 0
  else
    let n ← numberOr 1 128 arguments
    if n ≤ 0 then
      Action.complain ((afterSign arguments).headD [] ++ chars ": loop count out of range")
      Action.setStatus 1
      throw (.leave loops)
    else
      Action.setStatus 0
      throw (flow (min n.toNat loops))

/-- The status that a number stands for. -/
def statusOfNumber (n : Int) : Nat := (n % 256).toNat

/-- The status of the last command, or while something is done on a signal of the one before it. -/
def lastStatus : Action Nat := do
  let s ← get
  return s.held.getD s.status

/-- The command `exit`. -/
def exit (arguments : List Chars) : Action Nat := do
  let n ← numberOr (← lastStatus) 2 arguments
  Action.setStatus (statusOfNumber n)
  throw .ended

/-- The command `return`. -/
def return_ (arguments : List Chars) : Action Nat := do
  let usual ← lastStatus
  let status ← match afterSign arguments with
    | [] => pure usual
    | argument :: more =>
      match Number.decimal? argument with
      | none => do
        notNumber argument
        pure 2
      | some n => if more.isEmpty then pure (statusOfNumber n) else tooMany
  if (← get).frames.isEmpty then
    Action.complain (chars "can only \x60return' from a function or sourced script")
    return 2
  else
    Action.setStatus status
    throw .back

/-- The command `shift`. -/
def shift (arguments : List Chars) : Action Nat := do
  let s ← get
  match afterSign arguments with
  | _ :: _ :: _ => tooMany
  | given =>
    let argument := given.headD ['1']
    match Number.decimal? argument with
    | none => do
      notNumber argument
      return 1
    | some n =>
      if n < 0 then
        Action.complain (argument ++ chars ": shift count out of range")
        return 1
      else if s.arguments.length < n.toNat then return 1
      else
        modify fun s => { s with arguments := s.arguments.drop n.toNat }
        return 0

section

variable (run : Evaluate)

/-- Does something as a part of a text that runs inside another one. -/
def oneLevelDown (action : Action Unit) : Action Unit := do
  modify fun s => { s with levels := s.levels + 1 }
  Action.afterwards action (modify fun s => { s with levels := s.levels - 1 })

/-- The command `eval`. -/
def eval (manner : Manner) (arguments : List Chars) : Action Nat := do
  let (_, arguments) ← options "" arguments
  if arguments.isEmpty then return 0
  else
    let line := (← get).line
    oneLevelDown (runTextFrom run line manner.inside false ([' '].intercalate arguments))
    return (← get).status

/-- The file of a name: the first one on the search path, or one in the working directory. -/
def fileOf (s : Session) (name : Chars) : Chars :=
  (fileOnPath? s name).getD name

/-- The command `.`, which runs a file. Further arguments take the place of those of the script. -/
def dot (manner : Manner) (arguments : List Chars) : Action Nat := do
  let command := (← get).command.getD []
  let (_, arguments) ← options "" arguments
  match arguments with
  | [] => do
    Action.complain (chars "filename argument required")
    Action.write 2 (command ++ chars ": " ++ usageOf command ++ ['\n'])
    return 2
  | name :: given => do
    let s ← get
    let file := fileOf s name
    if s.files.isDirectory s.directory (Session.path file) then
      Action.complain (file ++ chars ": is a directory")
      return 1
    else
      match openFile s .read file with
      | .error e => do
        Action.outsideCommand (Action.complain (name ++ chars (": " ++ e.text)))
        return 1
      | .ok (opened, channel) => do
        let text := (opened.machine.available channel).toOption.getD []
        let arguments := if given.isEmpty then s.arguments else given
        modify fun s =>
          { s with arguments, frames := ⟨none, file⟩ :: s.frames, line := 0, command := none }
        let body : Action Unit := do
          try runText run manner.inside true text
          catch flow => if flow ≠ .back then throw flow
        let restore : Action Unit := modify fun t =>
          { t with
            arguments := if given.isEmpty then t.arguments else s.arguments
            frames := s.frames
            line := s.line
            command := s.command }
        Action.afterwards (oneLevelDown body) restore
        return (← get).status

end

end ConsumerCheck.Shell.Builtin.Richer
