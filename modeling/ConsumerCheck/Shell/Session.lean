import ConsumerCheck.Command
import ConsumerCheck.Shell.Grammar
import ConsumerCheck.Shell.Machine
import ConsumerCheck.Shell.Mode
import ConsumerCheck.Shell.Number

/-!
# The state of a running shell

* `Session` — variables, arguments, descriptors, and what else a script can change;
* `Deferred` — a command in the background that has not begun;
* `Flow` — how a script goes on when it does not go on with the next command;
* `Action` — a step of a script;
* `Action.complain`, `Action.fail` — a complaint, and one that ends the script;
* `Action.assign` — a variable that is set;
* `Action.say` — the output of a command of the shell.
-/

namespace ConsumerCheck.Shell

/-- How a script goes on when it does not go on with the next command. -/
inductive Flow where
  /-- Leave so many loops. -/
  | leave (loops : Nat)
  /-- Leave so many loops but one, and begin that one's next round. -/
  | again (loops : Nat)
  /-- Leave the function, or the file that is read. -/
  | back
  /-- End the script because of a complaint. -/
  | failed
  /-- End the script. -/
  | ended
  /-- The script is ended by a signal. -/
  | killed (signal : Nat)
  /-- Leave the line of commands that runs. -/
  | dropped
  deriving DecidableEq, Repr

/-- A variable. -/
structure Variable where
  value : Option Chars
  /-- Whether commands see the variable. -/
  exported : Bool
  readonly : Bool
  /-- If the variable is a list: what stands at its places after the first one, which the value stands at. -/
  others : Option (List (Nat × Chars))
  deriving Repr

/-- A variable that is no list. -/
def Variable.ofValue (value : Option Chars) (exported readonly : Bool) : Variable :=
  ⟨value, exported, readonly, none⟩

/-- All values of a variable, each with its place. -/
def Variable.values (v : Variable) : List (Nat × Chars) :=
  (v.value.map fun value => (0, value)).toList ++ v.others.getD []

/-- What a function has made its own, as it was before. -/
structure Saved where
  bindings : List (Chars × Option Variable)
  modes : Option (List Mode)
  deriving Repr

/-- A program that was found on the search path. -/
structure Located where
  path : Chars
  /-- Whether the working directory has changed since. -/
  stale : Bool
  deriving Repr

/-- A command in the background. -/
structure Job where
  /-- The number under which the shell keeps it. -/
  slot : Nat
  process : Nat
  /-- How it has ended, if it has. -/
  exit : Option Exit
  /-- Whether the shell has taken note of that. -/
  noticed : Bool
  /-- Whether the script has waited for it. -/
  waited : Bool
  deriving Repr

/-- A function or a file of commands that runs. -/
structure Frame where
  /-- The name of the function, unless it is a file. -/
  function : Option Chars
  /-- The file that the commands come from. -/
  source : Chars
  deriving Repr

/-- The state of a shell, apart from what it has put off. -/
structure Situation where
  machine : Machine
  descriptors : List (Nat × Channel)
  directory : Location
  /-- The working directory as the script has named it. -/
  shownDirectory : Chars
  /-- The name of the script. -/
  name : Chars
  arguments : List Chars
  /-- The argument that the search for options looks at next, and how far it has come inside the one
  before. -/
  optionIndex : Nat
  optionOffset : Option Nat
  bindings : List (Chars × Variable)
  /-- What the functions that run have made their own, the innermost first. -/
  saved : List Saved
  functions : List (Chars × Statement)
  aliases : List (Chars × Chars)
  /-- The programs that were found on the search path, by name. -/
  located : List (Chars × Located)
  /-- What is done on a signal; number zero is the end of the script. -/
  traps : List (Nat × Chars)
  /-- The signals that have no meaning for the shell because it was started so. -/
  deaf : List Nat
  modes : List Mode
  /-- Whether the shell is the one that knows more commands and signs. -/
  rich : Bool
  /-- The permissions that new files do not get. -/
  mask : Nat
  /-- The line of the command that runs. -/
  line : Nat
  /-- The line up to which the script has been read. -/
  lineRead : Nat
  /-- The command of the shell that runs. -/
  command : Option Chars
  /-- How the last command ended. -/
  status : Nat
  /-- How the last command that stands in a word ended. -/
  inner : Nat
  /-- While something is done on a signal: how the last command before it ended. -/
  held : Option Nat
  /-- How many loops are open. -/
  loops : Nat
  /-- How many functions run inside one another. -/
  calls : Nat
  /-- What the richer shell runs: functions and files inside one another, the innermost first. -/
  frames : List Frame
  /-- How many texts the richer shell runs inside one another. -/
  levels : Nat
  /-- The directories to which the richer shell can go back, the last one first. -/
  stack : List Chars
  /-- The number of the shell that runs the script. -/
  process : Nat
  /-- Whether this is no copy of that shell. -/
  outermost : Bool
  parent : Nat
  /-- The commands in the background, the last one first. -/
  jobs : List Job
  lastJob : Option Nat
  documents : Array Word
  /-- Why a command could not write its output, if it could not. -/
  lost : Option OsError
  /-- The number of commands on the host after which this shell counts as one that never ends. -/
  patience : Option Nat

/-- A command in the background that has not begun. -/
structure Deferred where
  process : Nat
  /-- The shell that it runs in. -/
  begun : Situation
  body : Statement

/-- The state of a running shell. What it has put off begins as soon as it waits for something. -/
structure Session extends Situation where
  deferred : List Deferred

/-- The signal to a process that writes where nothing is read any more. -/
def brokenPipeSignal : Nat := 13

/-- A step of a script. -/
abbrev Action := EStateM Flow Session

namespace Session

/-- A path as the shell sees it. -/
def path (text : Chars) : Path := ⟨toOctets text⟩

/-- The files of the host. -/
def files (s : Session) : FileSystem := s.machine.files

/-- Whether a mode is switched on. -/
def has (s : Session) (mode : Mode) : Bool := s.modes.contains mode

/-- The names of the functions and files that run, the innermost first. -/
def frameNames (s : Session) : List Chars :=
  if s.frames.isEmpty then []
  else s.frames.map (fun f => f.function.getD (chars "source")) ++ [chars "main"]

/-- The greatest of the numbers that a script can draw. -/
def greatestDrawn : Nat := 32767

/-- The values of a variable that the richer shell sets by itself. -/
def ownValues? (s : Session) (name : Chars) : Option (List Chars) :=
  match String.ofList name with
  | "LINENO" => some [chars (toString s.line)]
  | "FUNCNAME" => some s.frameNames
  | "BASH_SOURCE" => some (s.frames.map (·.source) ++ [s.name])
  | "SECONDS" => some [['0']]
  | "RANDOM" => some [chars (toString (s.machine.commands * 7919 % (greatestDrawn + 1)))]
  | _ => none

/-- The value of a variable, if it has one. -/
def stored? (s : Session) (name : Chars) : Option Chars :=
  match if s.rich then s.ownValues? name else none with
  | some values => values.head?
  | none => (s.bindings.lookup name).bind (·.value)

/-- The characters that separate fields. -/
def separators (s : Session) : Chars := (s.stored? (chars "IFS")).getD [' ', '\t', '\n']

/-- The value of a parameter that stands for one value. -/
def value? (s : Session) (name : Chars) : Option Chars :=
  match name with
  | ['?'] => some (chars (toString s.status))
  | ['#'] => some (chars (toString s.arguments.length))
  | ['$'] => some (chars (toString s.process))
  | ['-'] => some (if s.rich then Mode.richLetters s.modes else Mode.letters s.modes)
  | ['!'] => s.lastJob.map fun n => chars (toString n)
  | _ =>
    if name.all Char.isDigit then
      match Text.numeral 10 name with
      | 0 => some s.name
      | n + 1 => s.arguments[n]?
    else s.stored? name

/-- Sets an entry of a list of variables, in its place or at the end. -/
def setIn (name : Chars) (v : Variable) : List (Chars × Variable) → List (Chars × Variable)
  | [] => [(name, v)]
  | (n, w) :: rest => if n = name then (n, v) :: rest else (n, w) :: setIn name v rest

/-- With a variable, whatever it was before. -/
def withVariable (s : Session) (name : Chars) (v : Variable) : Session :=
  { s with bindings := setIn name v s.bindings }

/-- The variables that the shell itself uses. They stay known when their value is taken away. -/
def ownVariables : List String := [
  "IFS", "MAIL", "MAILPATH", "OPTIND", "PATH", "PS1", "PS2", "PS4"]

/-- Without the value of a variable. -/
def withoutVariable (s : Session) (name : Chars) : Session :=
  let s := if name = chars "PATH" then { s with located := [] } else s
  if ownVariables.contains (String.ofList name) then
    match s.bindings.lookup name with
    | some v => s.withVariable name { v with value := none }
    | none => s
  else { s with bindings := s.bindings.filter (·.1 ≠ name) }

/-- With a value for a variable that may be set. -/
def assigned (s : Session) (name value : Chars) (exported : Bool) : Session :=
  let before := (s.bindings.lookup name).getD (.ofValue none false false)
  let s := s.withVariable name
    { before with
      value := some value
      exported := before.exported || exported || s.has .exportAll }
  if name = chars "OPTIND" then
    { s with optionIndex := max 1 ((Number.argument? value).getD 1), optionOffset := none }
  else if name = chars "PATH" then { s with located := [] }
  else s

/-- The octets of a name as one number, to which the first one counts sixteen times more. -/
def mixed (name : Chars) : Nat :=
  (name.headD '\x00').toNat * 16 + name.foldl (fun n c => n + c.toNat) 0

/-- The place of a variable among those that a command is given. -/
def bucket (name : Chars) : Nat :=
  mixed name % 39

/-- The place of a variable among so many in the richer shell. -/
def placeAmong (size : Nat) (name : Chars) : Nat :=
  name.foldl (fun n c => (n * 16777619 % 4294967296) ^^^ c.toNat) 2166136261 % size

/-- The variables that commands see, in the order in which they are given. In the richer shell those come first that
the command is given alone. -/
def environment (s : Session) : List (Chars × Chars) :=
  let seen := s.bindings.filterMap fun (name, v) =>
    match v.value, v.exported with
    | some value, true => some (name, value)
    | _, _ => none
  if s.rich then
    let own := (s.saved.head?.map fun frame => frame.bindings.map (·.1)).getD []
    let (first, others) := (seen.reverse.filter (·.1 ≠ ['_'])).partition fun entry => own.contains entry.1
    let sorted (size : Nat) (entries : List (Chars × Chars)) : List (Chars × Chars) :=
      entries.mergeSort fun a b => placeAmong size a.1 ≤ placeAmong size b.1
    sorted 4 first ++ sorted 1024 others
  else seen.mergeSort fun a b => bucket a.1 ≤ bucket b.1

/-- The descriptor that a name below `/dev` stands for. -/
def namedDescriptor? (name : Chars) : Option Nat :=
  let names := [("/dev/stdin", 0), ("/dev/stdout", 1), ("/dev/stderr", 2)]
  match names.lookup (String.ofList name) with
  | some n => some n
  | none =>
    ["/dev/fd/", "/proc/self/fd/"].findSome? fun start =>
      let digits := name.drop start.length
      if (chars start).isPrefixOf name && digits ≠ [] && digits.all Char.isDigit then
        some (Text.numeral 10 digits)
      else none

/-- The permissions of a new file. -/
def filePermissions (s : Session) : Permissions := Permissions.without ⟨0o666⟩ s.mask

/-- The permissions of a new directory. -/
def directoryPermissions (s : Session) : Permissions := Permissions.without ⟨0o777⟩ s.mask

/-- Where a descriptor leads. -/
def channel? (s : Session) (descriptor : Nat) : Option Channel := s.descriptors.lookup descriptor

/-- What a name leads to, which may be the name of a descriptor. A pipe is taken for a device. -/
def entryOf? (s : Session) (name : Chars) : Option Entry :=
  match namedDescriptor? name with
  | none => (s.files.stat s.directory (path name)).toOption
  | some descriptor =>
    match s.channel? descriptor with
    | none => none
    | some (.pipe ..) => some (.device .pipe)
    | some (.device kind) => some (.device kind)
    | some .directory => some (.directory .folder)
    | some (.file index) => s.machine.openFiles[index]?.bind fun f => s.files.get? f.place

/-- With a descriptor that leads elsewhere, or nowhere. -/
def connected (s : Session) (descriptor : Nat) (channel : Option Channel) : Session :=
  let others := s.descriptors.filter (·.1 ≠ descriptor)
  match channel with
  | none => { s with descriptors := others }
  | some c => { s with descriptors := (descriptor, c) :: others }

/-- A copy of the shell, which starts without what is done on signals. -/
def copied (s : Session) : Session :=
  { s with
    traps := s.traps.filter (·.2 = [])
    outermost := false
    loops := if s.rich then 0 else s.loops
    jobs := []
    deferred := [] }

/-- Whether something is to be done on signals, or at the end. -/
def hasTraps (s : Session) : Bool := s.traps.any (·.2 ≠ [])

/-- Text written to a descriptor. -/
def written (s : Session) (descriptor : Nat) (text : Chars) : Except OsError Session :=
  match s.channel? descriptor with
  | none => .error .badDescriptor
  | some channel => (s.machine.write channel text).map fun machine => { s with machine }

/-- The name of the script, or of the file whose commands run. -/
def source (s : Session) : Chars := (s.frames.head?.map (·.source)).getD s.name

/-- A complaint with the name of the script, the line and the command. -/
def complaint (s : Session) (text : Chars) : Chars :=
  let command := match s.command with
    | none => []
    | some name => name ++ chars ": "
  let place := if s.rich then ": line " else ": "
  s.source ++ chars (place ++ toString s.line ++ ": ") ++ command ++ text ++ ['\n']

end Session

namespace Action

/-- Writes to a descriptor, and says why that was not possible. If nothing is read from it any more, the shell
ends, unless that signal has a meaning for it. -/
def deliver (descriptor : Nat) (text : Chars) : Action (Option OsError) := do
  let s ← get
  match s.written descriptor text with
  | .ok s =>
    set s
    return none
  | .error e =>
    if e = .brokenPipe && (s.traps.lookup brokenPipeSignal).isNone then throw (.killed brokenPipeSignal)
    else return some e

/-- Writes to a descriptor, if that is possible. -/
def write (descriptor : Nat) (text : Chars) : Action Unit := do
  let _ ← deliver descriptor text

/-- Writes a complaint. -/
def complain (text : Chars) : Action Unit := do write 2 ((← get).complaint text)

/-- Sets how the last command ended. -/
def setStatus (n : Nat) : Action Unit := modify fun s => { s with status := n }

/-- Writes a complaint and ends the script. -/
def fail (text : Chars) : Action α := do
  complain text
  setStatus 2
  throw .failed

/-- The same in the words of the shell that runs. In the richer one only the command ends, with this
status. -/
def failWith (plain rich : Chars) (status : Nat) : Action α := do
  let isRich := (← get).rich
  complain (if isRich then rich else plain)
  setStatus (if isRich then status else 2)
  throw .failed

/-- Ends the richer shell because a value is missing. -/
def endUnset : Action α := do
  setStatus (if (← get).has .commandText then 127 else 1)
  throw .ended

/-- Does something as if outside the command that runs. -/
def outsideCommand (action : Action α) : Action α := do
  let before := (← get).command
  modify fun s => { s with command := none }
  let a ← action
  modify fun s => { s with command := before }
  return a

/-- Writes a complaint and ends the script, or in the richer shell the line of commands. -/
def drop (plain rich : Chars) : Action α := do
  if (← get).rich then
    outsideCommand (complain rich)
    setStatus 1
    throw .dropped
  else fail plain

/-- Writes output. -/
def say (text : Chars) : Action Unit := do
  if text ≠ [] then
    match ← deliver 1 text with
    | none => pure ()
    | some e => modify fun s => { s with lost := some e }

/-- Writes a line of output. -/
def sayLine (text : Chars) : Action Unit := say (text ++ ['\n'])

/-- Ends the script with a complaint if a variable may not be set. -/
def checkWritable (name : Chars) : Action Unit := do
  match (← get).bindings.lookup name with
  | some v =>
    if v.readonly then
      if (← get).rich && (← get).has .stopOnFailure then
        outsideCommand (complain (name ++ chars ": readonly variable"))
        setStatus 1
        throw .ended
      else drop (name ++ chars ": is read only") (name ++ chars ": readonly variable")
  | none => pure ()

/-- Sets a variable. -/
def assign (name value : Chars) : Action Unit := do
  checkWritable name
  if name = chars "OPTIND" && (Number.argument? value).isNone then
    drop (chars "Illegal number: " ++ value) (value ++ chars ": invalid number")
  modify (·.assigned name value false)

/-- Takes the value of a variable away. -/
def forget (name : Chars) : Action Unit := do
  checkWritable name
  modify (·.withoutVariable name)

/-- Ends the script with a complaint if a text is no name of a variable. -/
def checkName (name : Chars) : Action Unit :=
  if isName name then pure ()
  else failWith (name ++ chars ": bad variable name") ('\x60' :: name ++ chars "': not a valid identifier") 1

/-- Does something, and something else after it, also if the first does not go on. -/
def afterwards (action : Action α) (cleanUp : Action Unit) : Action α := fun s =>
  match action s with
  | .ok a s =>
    match cleanUp s with
    | .ok _ s => .ok a s
    | .error flow s => .error flow s
  | .error flow s =>
    match cleanUp s with
    | .ok _ s => .error flow s
    | .error other s => .error other s

end Action

end ConsumerCheck.Shell
