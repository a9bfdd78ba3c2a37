import ConsumerCheck.Shell.Builtin.Directory
import ConsumerCheck.Shell.Builtin.Output
import ConsumerCheck.Shell.Builtin.Variables
import ConsumerCheck.Shell.RichStart
import ConsumerCheck.Shell.Tools.Edit
import ConsumerCheck.Shell.Tools.Environment
import ConsumerCheck.Shell.Tools.Files
import ConsumerCheck.Shell.Tools.Lines
import ConsumerCheck.Shell.Tools.Search
import ConsumerCheck.Shell.Tools.Words

/-!
# Start of programs

A program gets its arguments, its environment and the descriptors of the process that starts it. The shell is
a program too: its arguments say what script it runs.

* `beginShell` — a shell as it is when it starts;
* `runShell` — a script in a shell of its own, as the arguments of the shell ask for;
* `runTool` — a tool of the host;
* `programAt` — the tool for a file, where a text that says nothing about its reader is read by the shell.
-/

namespace ConsumerCheck.Shell

/-- The path of the shell, as it starts itself. -/
def shellPath : Chars := chars "/bin/sh"

/-- The search path of a shell that is given none. -/
def defaultPath : Chars := chars "/usr/local/sbin:/usr/local/bin:/usr/sbin:/usr/bin:/sbin:/bin"

/-- The variables with which a shell begins. -/
def firstVariables (rich : Bool) : List (Chars × Variable) :=
  let both := [("IFS", some (chars " \t\n")), ("PATH", some defaultPath), ("OPTIND", some ['1'])]
  let plain := [("MAIL", none), ("MAILPATH", none), ("PS1", some (chars "# ")), ("PS2", some (chars "> ")),
    ("PS4", some (chars "+ "))]
  (both ++ if rich then [] else plain).map fun (name, value) => (chars name, Variable.ofValue value false false)

/-- The environment of a program that a shell starts. -/
def environmentOf (s : Session) : List Chars :=
  s.environment.map fun (name, value) => name ++ '=' :: value

/-- With the variables of an environment. -/
def withEnvironment (s : Session) (environment : List Chars) : Session :=
  environment.foldl (fun s text =>
    let name := Tools.nameIn text
    if isName name && name.length < text.length then
      s.withVariable name (.ofValue (some (text.drop (name.length + 1))) true false)
    else s) s

/-- With the value of a variable, which commands see as before. -/
def withValue (s : Session) (name : String) (value : Chars) : Session :=
  let exported := (s.bindings.lookup (chars name)).any (·.exported)
  s.withVariable (chars name) (.ofValue (some value) exported false)

/-- A shell as it is when another process starts it. -/
def beginShell (starter : Session) (rich : Bool) (name : Chars) (environment : List Chars) : Session :=
  let (machine, process) := starter.machine.newProcess
  let s : Session := {
    starter with
    machine := { machine with shells := process :: machine.shells }
    name := name
    arguments := []
    optionIndex := 1
    optionOffset := none
    bindings := firstVariables rich
    saved := []
    functions := []
    aliases := []
    located := []
    traps := []
    deaf := starter.deaf ++ (starter.traps.filter (·.2 = [])).map (·.1)
    modes := if rich then Mode.firstRich else []
    rich
    line := 0
    lineRead := 1
    command := none
    status := 0
    inner := 0
    held := none
    loops := 0
    calls := 0
    frames := []
    levels := 0
    stack := []
    process := process
    outermost := true
    parent := starter.process
    jobs := []
    lastJob := none
    documents := #[]
    lost := none
    deferred := [] }
  let s := withEnvironment s environment
  let s := withValue s "IFS" (chars " \t\n")
  let s := withValue s "OPTIND" ['1']
  let s := if rich then richVariables s else withValue s "PPID" (chars (toString starter.process))
  let given := (s.stored? (chars "PWD")).filter fun path =>
    path.head? = some '/' && Builtin.directoryAt? s path = some s.directory
  let shown := given.getD (Builtin.pathOf s.directory)
  ({ s with shownDirectory := shown }).withVariable (chars "PWD") (.ofValue (some shown) true false)

/-- Switches modes by the letters of an argument of the shell. The result says whether the letters ask for a
script among the arguments, and has the arguments that are left. -/
def startLetters (on : Bool) : Chars → List Chars → (asked : Bool) → Action (Bool × List Chars)
  | [], rest, asked => return (asked, rest)
  | c :: more, rest, asked => do
    if c = 'c' then startLetters on more rest true
    else if c = 'l' then startLetters on more rest asked
    else if c = 'o' then
      Builtin.switchName rest.head? on
      startLetters on more rest.tail asked
    else
      Builtin.switchLetter c on
      startLetters on more rest asked

/-- The same for all arguments that ask for modes. -/
def startOptions : Nat → List Chars → (asked : Bool) → Action (Bool × List Chars)
  | n + 1, argument :: rest, asked => do
    match argument with
    | ['-'] | ['-', '-'] => return (asked, rest)
    | '-' :: letters =>
      let (asked, rest) ← startLetters true letters rest asked
      startOptions n rest asked
    | '+' :: letters =>
      let (asked, rest) ← startLetters false letters rest asked
      startOptions n rest asked
    | _ => return (asked, argument :: rest)
  | _, rest, asked => return (asked, rest)

section

variable (run : Evaluate)

/-- The script that the arguments of a shell ask for. -/
def runScript (arguments : List Chars) : Action Unit := do
  let (asked, rest) ← startOptions (arguments.length + 1) arguments false
  if rest.isEmpty then
    if asked then Action.fail (chars "-c requires an argument")
    else Builtin.switch .standardInput true
  Builtin.checkTerminal
  let fromInput := (← get).has .standardInput
  let named (rest : List Chars) : Action Unit :=
    match rest with
    | [] => pure ()
    | name :: arguments => do
      modify fun s => { s with name }
      Builtin.giveArguments arguments
  match asked, rest with
  | true, text :: rest => do
    named rest
    runText run ⟨false, !fromInput⟩ false text
  | _, rest =>
    if fromInput then Builtin.giveArguments rest
    else do
      let file := rest.headD []
      let s ← get
      match openFile s .read file with
      | .error e => Action.fail (openingComplaint .read file e)
      | .ok (s, channel) => do
        named rest
        runText run .usual true ((s.machine.available channel).toOption.getD [])
  if fromInput then
    let text ← Tools.input
    runText run .usual true (text.toOption.getD [])

/-- A shell as a program. -/
def runShell (starter : Session) (rich : Bool) (arguments environment : List Chars) : Exit × Machine :=
  let begun := beginShell starter rich (arguments.headD []) environment
  let script := if rich then runRichScript run arguments.tail else runScript run arguments.tail
  let (exit, last) := conclude run script begun
  (exit, { last.machine with shells := last.machine.shells.erase begun.process })

/-- The tool for the file at a path, with its arguments. The shell reads a text that does not say by what it
is to be read. -/
def programAt (fs : FileSystem) (wd : Location) (path : Path) (arguments : List Chars) :
    Except OsError (Tool × List Chars) :=
  match image fs wd maxInterpreters path arguments with
  | .error e =>
    if e = .execFormat then .ok (.shell, shellPath :: ofOctets path.octets :: arguments.tail)
    else .error e
  | found => found

/-- What a tool does that is neither the shell nor one that starts another program. -/
def toolAction (tool : Tool) (environment : List Chars) (name : Chars) (arguments : List Chars) :
    Action Nat :=
  match tool with
  | .succeed | .shell | .richShell | .env => return 0
  | .fail => return 1
  | .echo => Tools.echo name arguments
  | .printf => Tools.printf name arguments
  | .test => Tools.test name false arguments
  | .bracket => Tools.test name true arguments
  | .pwd => Tools.pwd name arguments
  | .printenv => Tools.printenv environment name arguments
  | .sleep => Tools.sleep name arguments
  | .whoami => do
    Action.say (chars "root\n")
    return 0
  | .uname => Tools.uname name arguments
  | .cat => Tools.cat name arguments
  | .chmod => Tools.chmod name arguments
  | .mkdir => Tools.mkdir name arguments
  | .rmdir => Tools.rmdir name arguments
  | .rm => Tools.rm name arguments
  | .touch => Tools.touch name arguments
  | .copy => Tools.copy name arguments
  | .move => Tools.move name arguments
  | .link => Tools.link name arguments
  | .list => Tools.list name arguments
  | .readlink => Tools.readlink name arguments
  | .basename => Tools.basename name arguments
  | .dirname => Tools.dirname name arguments
  | .head => Tools.head name arguments
  | .tail => Tools.tail name arguments
  | .count => Tools.count name arguments
  | .sort => Tools.sort name arguments
  | .unique => Tools.unique name arguments
  | .translate => Tools.translate name arguments
  | .cut => Tools.cut name arguments
  | .tee => Tools.tee name arguments
  | .sequence => Tools.sequence name arguments
  | .repeat_ => Tools.repeat_ name arguments
  | .grep => Tools.grep name arguments
  | .edit => Tools.edit name arguments

/-- How a tool ends that could not write its output. -/
def lostStatus (tool : Tool) : Nat :=
  match tool with
  | .env => 125
  | .edit => 4
  | .list | .sort | .printenv | .grep => 2
  | _ => 1

/-- What a tool does, in a process that another one starts, as a program. -/
def inTool (starter : Session) (tool : Tool) (name : Chars) (action : Action Nat) : Exit × Machine :=
  let whole : Action Nat := do
    let status ← action
    match (← get).lost with
    | some e =>
      Tools.report name (chars ("write error: " ++ e.text))
      return lostStatus tool
    | none => return status
  match whole { starter.copied with outermost := false, lost := none } with
  | .ok status s => (.code status, s.machine)
  | .error (.killed n) s => (.signal n, s.machine)
  | .error _ s => (.code (s.status % 256), s.machine)

/-- How often a tool may start another one. -/
def maxStarts : Nat := 100

/-- A tool as a program. The first argument is the name under which it was started. -/
def runTool : Nat → Session → Tool → (arguments environment : List Chars) → Exit × Machine
  | 0, starter, _, _, _ => (.code 126, starter.machine)
  | n + 1, starter, tool, arguments, environment =>
    let name := arguments.headD []
    match tool with
    | .shell => runShell run starter false arguments environment
    | .richShell => runShell run starter true arguments environment
    | .env =>
      let message (status : Nat) (texts : List Chars) (help : Bool) : Exit × Machine :=
        inTool starter tool name do
          texts.forM (Tools.report name)
          if help then Tools.tryHelp name
          return status
      match Tools.readEnv environment arguments.tail with
      | .error fault => message 125 fault.messages fault.needsHelp
      | .ok r =>
        let remarks : Action Nat := do
          r.remarks.forM fun text => Action.write 2 (text ++ ['\n'])
          return 0
        let starter := { starter with machine := (inTool starter tool name remarks).2 }
        let place := match r.directory with
          | none => some starter.directory
          | some path => Builtin.directoryAt? starter path
        match place, r.command with
        | none, _ =>
          message 125 [chars "cannot change directory to " ++ Tools.named (r.directory.getD []) ++
            chars ": No such file or directory"] false
        | some _, [] =>
          inTool starter tool name do
            Action.say (r.environment.flatMap (· ++ [r.terminator]))
            return 0
        | some directory, program :: _ =>
          let path := (Tools.valueIn? r.environment (chars "PATH")).map toOctets
          match search path (Session.path program) fun p =>
              programAt starter.files directory p r.command with
          | .error e =>
            let missing := e = .noEntry
            let advice := missing && program.any Tools.blanks.contains
            message (if missing then 127 else 126)
              ((Tools.named program ++ chars (": " ++ e.text)) ::
                if advice then [Tools.EnvFault.advice] else []) false
          | .ok (tool, arguments) =>
            runTool n { starter with directory } tool arguments r.environment
    | tool => inTool starter tool name (toolAction tool environment name arguments.tail)

end

end ConsumerCheck.Shell
