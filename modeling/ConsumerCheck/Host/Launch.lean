import ConsumerCheck.Host.Context
import ConsumerCheck.Shell.Run
import ConsumerCheck.World

/-!
# Start of programs on the host

`Runner.system` starts a command for real, as `SystemRunner` does: it goes to the command's directory, looks
for the program, and runs it with the variables of the run and those of the command. A program without a slash
in its name is searched for on the search path of the run. If the command sets a search path of its own, that
one counts, and a file that is no program is then given to the shell.
-/

namespace ConsumerCheck.Host

open Shell (Chars Machine Session Tool)

/-- The octet zero, which no text that a program is given may hold. -/
def hasZero (text : String) : Bool := text.toList.contains '\x00'

/-- Whether a command cannot be handed to the system at all. -/
def isUnspeakable (c : Command) : Bool :=
  c.program.octets.contains 0 || c.arguments.any hasZero ||
    c.environment.any (fun v => hasZero v.1 || hasZero v.2) ||
    c.directory.any (·.octets.contains 0)

/-- The name of the variable with the search path. -/
def searchPathName : String := "PATH"

/-- The variables that a command's program sees. If the command sets some, all are in the order of their
names. -/
def environment (context : Context) (c : Command) : List (Bytes × Bytes) :=
  let own := c.environment.map fun v => (Utf8.encode v.1, Utf8.encode v.2)
  if own.isEmpty then context.environment
  else
    (own ++ context.environment.filter fun v => !own.any (·.1 == v.1)).mergeSort
      fun v w => !(w.1 < v.1 : Bool)

/-- The directory that a command is run in. -/
def directory (context : Context) (c : Command) (fs : FileSystem) : Except IoError Location :=
  match c.directory with
  | none => .ok context.workingDirectory
  | some p => do
    let place ← fs.locate context.workingDirectory p
    match fs.get? place with
    | some (.directory permissions) =>
      if permissions.mayEnter then .ok place else .error (.os .permissionDenied)
    | _ => .error (.os .notDirectory)

/-- The tool that runs for a command, with its arguments. -/
def tool (context : Context) (c : Command) (fs : FileSystem) (wd : Location) :
    Except OsError (Tool × List Chars) :=
  let arguments := Shell.ofOctets c.program.octets :: c.arguments.map Shell.chars
  match c.valueOf? searchPathName, c.program.octets.contains Path.slash with
  | some path, false =>
    Shell.search (some (Utf8.encode path)) c.program fun p =>
      Shell.programAt fs wd p arguments
  | _, _ =>
    Shell.search (context.valueOf? searchPathName) c.program fun p =>
      Shell.image fs wd Shell.maxInterpreters p arguments

/-- The process that starts a program: it has nothing to read, and both outputs are collected. -/
def starter (fs : FileSystem) (wd : Location) : Session :=
  let machine : Machine := {
    Machine.ofFiles fs with pipes := #[.ofText [], .ofText []] }
  { machine
    descriptors := [(0, .device .null), (1, .pipe 0 true), (2, .pipe 1 true)]
    directory := wd
    shownDirectory := []
    name := []
    arguments := []
    optionIndex := 1
    optionOffset := none
    bindings := []
    saved := []
    functions := []
    aliases := []
    located := []
    traps := []
    deaf := []
    modes := []
    rich := false
    mask := 0o022
    line := 0
    lineRead := 0
    command := none
    status := 0
    inner := 0
    held := none
    loops := 0
    calls := 0
    frames := []
    levels := 0
    stack := []
    process := machine.processes
    outermost := true
    parent := 1
    jobs := []
    lastJob := none
    documents := #[]
    lost := none
    patience := none
    deferred := [] }

/-- A variable as a program sees it. -/
def environmentText (v : Bytes × Bytes) : Chars := Shell.ofOctets (v.1 ++ 0x3D :: v.2)

/-- A command, started. -/
def start (context : Context) (c : Command) (fs : FileSystem) :
    Except IoError (Output × FileSystem) := do
  if isUnspeakable c then .error (.other "nul byte found in provided data")
  let wd ← directory context c fs
  match tool context c fs wd with
  | .error e => .error (.os e)
  | .ok (tool, arguments) =>
    let (exit, machine) := Shell.runProgram (starter fs wd) tool arguments
      ((environment context c).map environmentText)
    let collected (i : Nat) : Bytes := Shell.toOctets (machine.collected i)
    .ok (⟨exit, collected 0, collected 1⟩, machine.files)

end ConsumerCheck.Host

namespace ConsumerCheck

/-- The runner that starts programs on the host. -/
def Runner.system (context : Context) : Runner Unit where
  announce c := [.running c.display]
  respond c _ fs :=
    match Host.start context c fs with
    | .ok (output, fs) => (.ok output, (), fs)
    | .error e => (.error ⟨["failed to spawn `" ++ c.program.display ++ "`", e.message]⟩, (), fs)

end ConsumerCheck
