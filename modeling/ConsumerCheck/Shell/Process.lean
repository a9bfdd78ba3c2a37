import ConsumerCheck.Command
import ConsumerCheck.Shell.Expansion

/-!
# Scripts and copies of a shell

A script is read and run command by command. A copy of the shell runs what stands between brackets, in a
pipeline, in a word or in the background: it shares files, pipes and open files with the shell, and keeps
everything else for itself.

* `Manner` — how a statement is run;
* `runText` — a text as commands, one after the other;
* `attend` — what is to be done on the signals that have come;
* `finish` — what is to be done at the end of a script;
* `catchUp` — what was put off, run at last;
* `inCopy` — a step in a copy of the shell;
* `capture` — what a statement writes.

What runs a statement is handed in.
-/

namespace ConsumerCheck.Shell

/-- How a statement is run. -/
structure Manner where
  /-- Whether a failure of the statement is looked at. -/
  tested : Bool
  /-- Whether the shell ends with the statement. A program may then take the shell's place. -/
  final : Bool

namespace Manner

/-- As one of many statements. -/
def usual : Manner := ⟨false, false⟩

/-- As the last statement of a shell. -/
def last : Manner := ⟨false, true⟩

/-- As a condition. -/
def condition : Manner := ⟨true, false⟩

/-- The same, but not as the last statement. -/
def inside (manner : Manner) : Manner := { manner with final := false }

end Manner

/-- What runs a statement. -/
abbrev Evaluate := Manner → Statement → Action Unit

/-- The numbers of signals by name. -/
def signalNames : List (Nat × String) := [
  (1, "HUP"), (2, "INT"), (3, "QUIT"), (4, "ILL"), (5, "TRAP"), (6, "ABRT"), (7, "BUS"),
  (8, "FPE"), (9, "KILL"), (10, "USR1"), (11, "SEGV"), (12, "USR2"), (13, "PIPE"), (14, "ALRM"),
  (15, "TERM"), (17, "CHLD"), (18, "CONT"), (19, "STOP"), (20, "TSTP"),
  (21, "TTIN"), (22, "TTOU"), (23, "URG"), (24, "XCPU"), (25, "XFSZ"), (26, "VTALRM"),
  (27, "PROF"), (28, "WINCH"), (29, "IO"), (30, "PWR"), (31, "SYS"), (34, "RTMIN"), (35, "RTMIN+1"),
  (36, "RTMIN+2"), (37, "RTMIN+3"), (38, "RTMIN+4"), (39, "RTMIN+5"), (40, "RTMIN+6"),
  (41, "RTMIN+7"), (42, "RTMIN+8"), (43, "RTMIN+9"), (44, "RTMIN+10"), (45, "RTMIN+11"),
  (46, "RTMIN+12"), (47, "RTMIN+13"), (48, "RTMIN+14"), (49, "RTMIN+15"), (50, "RTMAX-14"),
  (51, "RTMAX-13"), (52, "RTMAX-12"), (53, "RTMAX-11"), (54, "RTMAX-10"), (55, "RTMAX-9"),
  (56, "RTMAX-8"), (57, "RTMAX-7"), (58, "RTMAX-6"), (59, "RTMAX-5"), (60, "RTMAX-4"),
  (61, "RTMAX-3"), (62, "RTMAX-2"), (63, "RTMAX-1"), (64, "RTMAX")]

/-- The greatest number of a signal. -/
def maxSignal : Nat := 64

/-- The signals that end nothing if nothing is to be done on them. -/
def harmlessSignals : List Nat := [0, 17, 18, 19, 20, 21, 22, 23, 28]

/-- What a signal that has ended a program is called. -/
def signalText (n : Nat) : String :=
  let texts := [
    (1, "Hangup"), (2, "Interrupt"), (3, "Quit"), (4, "Illegal instruction"),
    (5, "Trace/breakpoint trap"), (6, "Aborted"), (7, "Bus error"), (8, "Floating point exception"),
    (9, "Killed"), (10, "User defined signal 1"), (11, "Segmentation fault"),
    (12, "User defined signal 2"), (13, "Broken pipe"), (14, "Alarm clock"), (15, "Terminated"),
    (16, "Stack fault"), (24, "CPU time limit exceeded"), (25, "File size limit exceeded"),
    (26, "Virtual timer expired"), (27, "Profiling timer expired"), (29, "I/O possible"),
    (30, "Power failure"), (31, "Bad system call")]
  match texts.lookup n with
  | some text => text
  | none => if 34 ≤ n then "Real-time signal " ++ toString (n - 34) else "Unknown signal " ++ toString n

/-- How a program that has ended counts for the command that ran it. -/
def statusOf : Exit → Nat
  | .code n => n
  | .signal n => 128 + n

/-- A word about the signal that has ended a program. -/
def tellSignal (exit : Exit) : Action Unit := do
  match exit with
  | .signal n => if n ≠ 2 ∧ n ≠ 13 then Action.write 2 (chars (signalText n ++ "\n"))
  | .code _ => pure ()

/-- Takes note of how a program has ended, with a word about a signal that has ended it. -/
def settle (exit : Exit) : Action Unit := do
  tellSignal exit
  Action.setStatus (statusOf exit)

/-- A bound on the commands of a script, which no script reaches. -/
def maxCommands : Nat := 1000000000

/-- The signal that stops a script which goes too deep. -/
def depthSignal : Nat := 11

section

variable (run : Evaluate)

/-- The lines that were read from `before` when `after` was left, up to the end of the last one. -/
def linesRead (before after : Chars) : Chars :=
  let taken := before.take (before.length - after.length)
  if taken = [] || taken.getLast? = some '\n' then taken
  else taken ++ after.takeWhile (· != '\n') ++ (if after.contains '\n' then ['\n'] else [])

/-- The complaint of the richer shell about a text that cannot be read. `shown` ends with the line at which that was
found; `complete` says that this line has an end. -/
def refuseText (fromFile complete : Bool) (fault : SyntaxFault) (shown : Chars) : Action Unit := do
  let s ← get
  let (text, showsLine) := fault.richMessage
  let line := match fault with
    | .unclosed _ line => line
    | .unexpected .newline _ => s.line - 1
    | .unexpected .ending _ => if complete then s.line else s.line + 1
    | _ => s.line
  let source := match s.command with
    | some name => if fromFile then [] else name ++ chars ": "
    | none => []
  let start := s.source ++ chars ": " ++ source ++ chars ("line " ++ toString line ++ ": ")
  Action.write 2 (start ++ text ++ ['\n'])
  if showsLine then
    let last := (shown.reverse.takeWhile (· != '\n')).reverse
    Action.write 2 (start ++ '\x60' :: last ++ ['\'', '\n'])
  Action.setStatus 2
  throw .failed

/-- The aliases that count. In the richer shell that takes a habit that scripts do not begin with. -/
def knownAliases (s : Session) : List (Chars × Chars) :=
  if s.rich && !Mode.hasHabit s.modes "expand_aliases" then [] else s.aliases

/-- Commands of a text, one after the other, of which the last one may be the last of the shell. `any` says
whether there was one already. -/
def runCommands (manner : Manner) (fromFile : Bool) :
    Nat → (inserted : List AliasText) → (rest : Chars) → (any : Bool) → Action Unit
  | 0, _, _, _ => pure ()
  | n + 1, inserted, rest, any => do
    let s ← get
    let reading : Reading :=
      ⟨knownAliases s, inserted, [], [], rest, s.lineRead, .ending, false, false, [], s.documents, s.rich, [],
        false⟩
    let showLines (r : Reading) : Action Unit :=
      if fromFile && s.has .verbose then Action.write 2 (linesRead rest r.rest) else pure ()
    let result := readCommand reading
    let remarks := match result with
      | .error _ r | .ok _ r => r.remarks.reverse
    remarks.forM fun (line, text) =>
      Action.write 2 (s.source ++ chars (": line " ++ toString line ++ ": ") ++ text ++ ['\n'])
    match result with
    | .error fault r =>
      showLines r
      modify fun s => { s with line := r.line, lineRead := r.line }
      if s.rich then
        let shown := ((linesRead rest r.rest).reverse.dropWhile (· == '\n')).reverse
        refuseText fromFile (rest.getLast? = some '\n') fault shown
      else Action.fail (chars ("Syntax error: " ++ fault.message))
    | .ok none r =>
      showLines r
      if !any then Action.setStatus 0
    | .ok (some command) r =>
      showLines r
      modify fun s => { s with lineRead := r.line, documents := r.documents }
      match command with
      | none => runCommands manner fromFile n r.inserted r.rest any
      | some command =>
        let step := run { manner with final := manner.final && r.unread && r.last.isEnding } command
        let named := (← get).command
        if s.rich then modify fun s => { s with command := none }
        try step
        catch flow =>
          if flow ≠ .dropped then throw flow
          else if !fromFile || s.levels ≠ 0 then throw (if s.has .commandText then .ended else .dropped)
        modify fun s => { s with command := named }
        runCommands manner fromFile n r.inserted r.rest true

/-- A text as commands, whose first line has a number. -/
def runTextFrom (line : Nat) (manner : Manner) (fromFile : Bool) (text : Chars) : Action Unit := do
  let before := (← get).lineRead
  modify fun s => { s with lineRead := line }
  let text := text.filter (· ≠ aliasEnd)
  Action.afterwards (runCommands run manner fromFile maxCommands [] text false)
    (modify fun s => { s with lineRead := before })

/-- A text as commands, whose lines are counted from one. -/
def runText (manner : Manner) (fromFile : Bool) (text : Chars) : Action Unit :=
  runTextFrom run 1 manner fromFile text

/-- The signals on which a script cannot do anything. -/
def relentlessSignals : List Nat := [9, 19]

/-- What is done on a signal. How the last command has ended counts again after it. -/
def onSignal (signal : Nat) : Action Unit := do
  let s ← get
  let action := if relentlessSignals.contains signal then none else s.traps.lookup signal
  if s.deaf.contains signal then return
  match action with
  | none => if harmlessSignals.contains signal then pure () else throw (.killed signal)
  | some [] => pure ()
  | some text =>
    if s.rich then modify fun s => { s with command := some (chars "trap") }
    else modify fun s => { s with held := some (s.held.getD s.status) }
    runText run .usual false text
    modify fun t => { t with status := s.status, held := s.held, command := s.command }

/-- What is to be done on the signals that have come. -/
def attend : Action Unit := do
  let s ← get
  if s.machine.signals.isEmpty || !s.outermost then pure ()
  else
    let (own, others) := s.machine.signals.partition (·.1 = s.process)
    modify fun s => { s with machine := { s.machine with signals := others } }
    (((own.map (·.2)).mergeSort (· ≤ ·)).eraseDups).forM (onSignal run)

/-- What is to be done at the end of a script. -/
def finish : Action Unit := do
  let s ← get
  match s.traps.lookup 0 with
  | none => pure ()
  | some text =>
    modify fun s =>
      { s with
        traps := s.traps.filter (·.1 ≠ 0)
        held := some s.status
        loops := 0
        command := if s.rich then some (chars "exit trap") else s.command }
    let ended : Action Bool := do
      try
        runText run .usual false text
        pure false
      catch flow =>
        match flow with
        | .killed n => throw (.killed n)
        | .ended | .failed => pure true
        | _ => pure false
    if !(← ended) then Action.setStatus s.status

/-- How a shell has ended after a step, with its last state. -/
def ended (action : Action Unit) (s : Session) : Exit × Session :=
  let ending (s : Session) : Exit × Session :=
    match finish run s with
    | .error (.killed n) s => (.signal n, s)
    | .error _ s => (.code (s.status % 256), s)
    | .ok _ s => (.code (s.status % 256), s)
  match action s with
  | .error (.killed n) s =>
    if s.rich && !relentlessSignals.contains n then
      match ending s with
      | (.code _, s) => (.signal n, s)
      | found => found
    else (.signal n, s)
  | .error _ s => ending s
  | .ok _ s => ending s

/-- How many commands a command in the background may run before it counts as one that never ends. -/
def backgroundPatience : Nat := 200000

/-- Runs what was put off, and what that puts off. The result says of each command how it has ended, if it
has. -/
def workOff : Nat → List Deferred → Machine → Machine × List (Nat × Option Exit)
  | 0, _, machine => (machine, [])
  | _, [], machine => (machine, [])
  | n + 1, d :: more, machine =>
    let patience := machine.commands + backgroundPatience
    let begun : Session :=
      { toSituation := { d.begun with machine, patience := some patience }, deferred := [] }
    let (exit, last) := ended run (run .last d.body) begun
    let endless := patience ≤ last.machine.commands
    let (machine, others) := workOff n (last.deferred ++ more) last.machine
    (machine, (d.process, if endless then none else some exit) :: others)

/-- Runs what was put off, and takes note of what has ended. -/
def catchUp : Action Unit :=
  modify fun s =>
    if s.jobs.isEmpty then s
    else
      let (machine, exits) := workOff run maxCommands s.deferred s.machine
      let jobs := s.jobs.map fun j =>
        let exit := (exits.lookup j.process).getD j.exit
        { j with exit, noticed := exit.isSome }
      { s with machine, jobs, deferred := [] }

/-- How a shell has ended after a step and after all that it has put off, with its last state. -/
def conclude (action : Action Unit) (s : Session) : Exit × Session :=
  let (exit, last) := ended run action s
  let (machine, _) := workOff run maxCommands last.deferred last.machine
  (exit, { last with machine, deferred := [] })

/-- Forgets the first command in the background that has ended and was waited for, when another one
begins. -/
def forgetJob : Action Unit :=
  modify fun s =>
    let gone := s.jobs.filter fun j => j.waited && j.exit.isSome
    match (gone.map (·.slot)).min? with
    | none => s
    | some slot => { s with jobs := s.jobs.filter (·.slot ≠ slot) }

/-- The signal to a process when one that it has started has ended. -/
def childSignal : Nat := 17

/-- Takes note of the end of another process, on which something may be to be done. -/
def noteEnd : Action Unit :=
  modify fun s =>
    if (s.traps.lookup childSignal).any (· ≠ []) then
      { s with machine := { s.machine with
        signals := s.machine.signals ++ [(s.process, childSignal)] } }
    else s

/-- A step in another process: what the shell has put off runs before it, and the shell takes note of its
end. The step is given the shell, and says how it has ended and what it has left. -/
def elsewhere (step : Session → Exit × Machine) : Action Exit := do
  catchUp run
  forgetJob
  let exit ← modifyGet fun s =>
    let (exit, machine) := step s
    (exit, { s with machine })
  noteEnd
  return exit

/-- A step in a copy of the shell. -/
def inCopy (action : Action Unit) : Action Exit :=
  elsewhere run fun s =>
    let (exit, last) := conclude run action s.copied
    (exit, last.machine)

/-- Ends the shell as a program has ended that took its place. -/
def replaceBy (exit : Exit) : Action Unit := do
  match exit with
  | .signal n => throw (.killed n)
  | .code n =>
    Action.setStatus n
    throw .ended

/-- A new pipe with a text in it. -/
def newPipe (text : Chars) : Action Nat :=
  modifyGet fun s =>
    let (machine, index) := s.machine.newPipe (.ofText text)
    (index, { s with machine })

/-- How much can be written to a pipe before something is read from it. -/
def pipeRoom : Nat := 262144

/-- A new pipe that takes only so much. -/
def newNarrowPipe : Action Nat :=
  modifyGet fun s =>
    let (machine, index) := s.machine.newPipe ⟨[], [], some pipeRoom⟩
    (index, { s with machine })

/-- Lets a descriptor lead elsewhere, or nowhere. -/
def connect (descriptor : Nat) (channel : Option Channel) : Action Unit :=
  modify (·.connected descriptor channel)

/-- What a statement writes. How it has ended only counts if there is no command around it. -/
def capture (body : Statement) : Action Chars := do
  let pipe ← newPipe []
  let exit ← inCopy run do
    connect 1 (some (.pipe pipe true))
    modify fun s =>
      if s.rich then
        let stops := s.has .stopOnFailure && Mode.hasHabit s.modes "inherit_errexit"
        { s with levels := s.levels + 1, modes := Mode.set s.modes .stopOnFailure stops }
      else s
    run .last body
  if !(← get).rich then tellSignal exit
  modify fun s =>
    { s with inner := statusOf exit, status := if s.rich then statusOf exit else s.status }
  return (← get).machine.collected pipe

end

end ConsumerCheck.Shell
