import ConsumerCheck.Shell.Builtin.Richer.Directory
import ConsumerCheck.Shell.Builtin.Richer.Input
import ConsumerCheck.Shell.Builtin.Richer.Names
import ConsumerCheck.Shell.Builtin.Richer.Signals
import ConsumerCheck.Shell.Start
import ConsumerCheck.Shell.Values

/-!
# Statements, run

* `Call`, `callOf` — a simple command with its fields: what is to be called, and how;
* `execute` — a program;
* `builtin` — a command that the shell has itself;
* `simple` — a simple command;
* `evaluate` — a statement, where what runs the statements in it is handed in.
-/

namespace ConsumerCheck.Shell

/-- The commands whose arguments may set variables. -/
def settingCommands : List String := ["export", "local", "readonly"]

/-- The same in the richer shell. -/
def richSettingCommands : List String := settingCommands ++ ["declare", "typeset"]

/-- The search path of the system. -/
def systemPath : Chars := chars "/usr/sbin:/usr/bin:/sbin:/bin"

/-- The search path of the system, as the richer shell has it. -/
def richSystemPath : Chars := chars "/bin:/usr/bin:/sbin:/usr/sbin"

/-- A simple command with its fields. -/
structure Call where
  /-- The fields before the name, which say how the command is called. -/
  before : List Chars
  /-- The fields, the name of the command first. -/
  fields : List Chars
  /-- The words that are not expanded yet. -/
  words : List Word
  /-- Whether functions count. -/
  functions : Bool
  /-- A search path in the place of the usual one. -/
  path : Option Chars
  /-- Whether assignments before the command are for it alone. -/
  own : Bool
  /-- Whether failures of the command end the script. -/
  special : Bool
  /-- Whether later words may set variables. -/
  sets : Bool
  /-- The lists that later words set. -/
  lists : List Setting

/-- A pattern for the options of `command`: nothing but the letter `p` behind a dash. -/
def asksForSystemPath (field : Chars) : Bool :=
  match field with
  | '-' :: c :: cs => (c :: cs).all (· == 'p')
  | _ => false

section

variable (run : Evaluate)

/-- The fields of the first words that have any, and the words left. -/
def firstFields : List Word → Action (List Chars × List Word)
  | [] => return ([], [])
  | w :: ws => do
    match ← Action.fieldsOf (capture run) w with
    | [] => firstFields ws
    | found => return (found, ws)

/-- What `command` is to call, after its options: the fields, the words left, and whether the search path of
the system counts. The first component has all fields that were seen; the second is nothing if `command`
itself is called. -/
def afterCommand : Nat → (seen left : List Chars) → List Word → (system : Bool) →
    Action (List Chars × List Word × Option (List Chars × Bool))
  | 0, seen, left, words, _ => return (seen ++ left, words, none)
  | n + 1, seen, [], words, system => do
    match ← firstFields run words with
    | ([], words) => return (seen, words, none)
    | (left, words) => afterCommand n seen left words system
  | n + 1, seen, field :: more, words, system => do
    if field = ['-', '-'] then
      match more with
      | [] => do
        let (left, words) ← firstFields run words
        return (seen ++ field :: left, words, if left.isEmpty then none else some (left, system))
      | more => return (seen ++ field :: more, words, some (more, system))
    else if asksForSystemPath field then afterCommand n (seen ++ [field]) more words true
    else if field.head? = some '-' && field ≠ ['-'] then
      return (seen ++ field :: more, words, none)
    else return (seen ++ field :: more, words, some (field :: more, system))

/-- Finds out what is to be called. `decided` says that this was looked at for a command before it. -/
def resolve : Nat → (decided : Bool) → Call → Action Call
  | 0, _, c => return c
  | n + 1, decided, c => do
    match c.fields with
    | [] => return c
    | name :: rest => do
      let s ← get
      let isFunction := c.functions && (s.functions.lookup name).isSome
      if isFunction || !isBuiltin s.rich name then return { c with own := true }
      else
        let special := if decided then c.special else isSpecial name && !s.rich
        let setting := if s.rich then richSettingCommands else settingCommands
        let c := { c with
          special
          own := if decided then c.own else !special
          sets := setting.contains (String.ofList name) }
        if name ≠ chars "command" then return c
        else
          match ← afterCommand run (n + 1) [] rest c.words false with
          | (seen, words, none) => return { c with fields := name :: seen, words }
          | (seen, words, some (fields, system)) =>
            let path := if system then some (if s.rich then richSystemPath else systemPath) else c.path
            let passed := name :: seen.take (seen.length - fields.length)
            let before := c.before ++ passed
            resolve n true { c with before, fields, words, functions := false, path }

/-- The fields of a word that stands after a command. -/
def laterFields (sets : Bool) (word : Word) : Action (List Chars × Option Setting) := do
  let s ← get
  match if sets && s.rich then richAssignment? word else none with
  | some a => do
    let setting ← settingOf run a
    match setting.value with
    | .inl _ => return ([setting.shown], none)
    | .inr _ => return ([setting.name], some setting)
  | none =>
    if sets && (assignment? word).isSome then return ([← Action.assignmentOf (capture run) word], none)
    else return (← Action.fieldsOf (capture run) word, none)

/-- A simple command with all its fields. -/
def callOf (words : List Word) : Action Call := do
  let (fields, rest) ← firstFields run words
  let c ← resolve run (words.length + fields.length + 1) false
    ⟨[], fields, rest, true, none, false, false, false, []⟩
  let later ← c.words.mapM (laterFields run c.sets)
  return { c with
    fields := c.fields ++ later.flatMap (·.1)
    words := []
    lists := later.filterMap (·.2) }

/-- Ends the step as a program has ended: the shell goes on, unless the program has taken its place. -/
def finishAs (manner : Manner) (exit : Exit) : Action Unit := do
  if manner.final && !(← get).hasTraps then replaceBy exit else settle exit

/-- The status of a program that cannot be started. -/
def startStatus (rich : Bool) (e : OsError) : Nat :=
  let missing := if rich then [OsError.noEntry] else [.noEntry, .notDirectory, .nameTooLong, .tooManyLinks]
  if missing.contains e then 127 else 126

/-- The complaint about a program at a path that cannot be started. -/
def startComplaint (s : Session) (path name : Chars) (e : OsError) : Chars :=
  if s.rich then
    let p := Session.path path
    if s.files.isDirectory s.directory p then path ++ chars ": Is a directory"
    else if e = .noEntry && s.files.exists_ s.directory p then
      path ++ chars ": cannot execute: required file not found"
    else if e = .execFormat then path ++ chars ": cannot execute binary file: Exec format error"
    else if e = .permissionDenied && s.files.isExecutable s.directory p then
      let reader := ((s.files.readFile s.directory p).toOption.bind interpreter).map (·.1.octets)
      path ++ chars ": " ++ ofOctets (reader.getD []) ++ chars ": bad interpreter: Permission denied"
    else path ++ chars (": " ++ e.text)
  else if e = .noEntry ∨ e = .notDirectory then missingComplaint name false
  else name ++ chars (": " ++ e.text)

/-- The tool for the file at a path, as the shell starts it. -/
def programFor (s : Session) (path : Chars) (arguments : List Chars) :
    Except OsError (Tool × List Chars) :=
  let p := Session.path path
  match image s.files s.directory maxInterpreters p arguments with
  | .error e =>
    let contents := (s.files.readFile s.directory p).toOption
    if e = .execFormat && contents.any (if s.rich then looksLikeScript else looksLikeText) then
      if s.rich then .ok (.richShell, chars "bash" :: path :: arguments.tail)
      else programAt s.files s.directory p arguments
    else .error e
  | found => found

/-- Runs a program in a process of its own. -/
def execute (manner : Manner) (path : Chars) (arguments : List Chars) : Action Unit := do
  let s ← get
  match programFor s path arguments with
  | .error e => do
    let exit ← elsewhere run fun s => (.code (startStatus s.rich e), s.machine)
    Action.complain (startComplaint s path (arguments.headD []) e)
    finishAs manner exit
  | .ok (tool, arguments) => do
    let last := if s.rich then [chars "_=" ++ path] else []
    let exit ← elsewhere run fun s =>
      runTool run maxStarts s tool arguments (environmentOf s ++ last)
    finishAs manner exit

/-- The first of these paths that can be started, or the last refusal that says more than that nothing is
there. -/
def firstProgram (s : Session) (arguments : List Chars) (last : OsError) :
    List Chars → Except OsError (Tool × List Chars)
  | [] => .error last
  | path :: rest =>
    match programFor s path arguments with
    | .ok found => .ok found
    | .error e =>
      firstProgram s arguments (if e = .noEntry ∨ e = .notDirectory then last else e) rest

/-- The command `exec`: a program takes the place of the shell. -/
def exec (arguments : List Chars) : Action Nat := do
  match arguments with
  | [] => return 0
  | name :: _ => do
    let s ← get
    let paths := if name.contains '/' then [name] else Session.candidates s.searchPath name
    match firstProgram s arguments .noEntry paths with
    | .error e => do
      if s.rich then
        let path := if name.head? = some '/' || !name.contains '/' then name
          else Builtin.logicalPath s.shownDirectory name
        if !name.contains '/' && e = .noEntry then Action.complain (name ++ chars ": not found")
        else
          modify fun s => { s with traps := [] }
          Action.outsideCommand (Action.complain (startComplaint s path path e))
          if e ≠ .noEntry then
            let reason := if s.files.isDirectory s.directory (Session.path path) then "Is a directory" else e.text
            Action.complain (path ++ chars (": cannot execute: " ++ reason))
      else Action.complain (startComplaint s name name e)
      Action.setStatus (startStatus s.rich e)
      throw .ended
    | .ok (tool, arguments) => do
      if s.rich then
        let level := ((s.stored? (chars "SHLVL")).bind Number.argument?).getD 1
        modify (·.assigned (chars "SHLVL") (chars (toString (level - 1))) true)
      let exit ← elsewhere run fun s =>
        runTool run maxStarts s tool arguments (environmentOf s)
      modify fun s => { s with traps := [] }
      replaceBy exit
      return 0

/-- The command `command`, when it is to say what names stand for. -/
def command (arguments : List Chars) : Action Nat := do
  let (found, names) ← Builtin.options "pvV" arguments
  let path := if Builtin.has found 'p' then some systemPath else none
  match names with
  | name :: _ =>
    if Builtin.has found 'v' || Builtin.has found 'V' then
      return if ← Builtin.describe path (Builtin.has found 'V') name then 0 else 127
    else return 0
  | [] => return 0

/-- A command that the shell has itself. The result is its status. -/
def builtin (manner : Manner) (name : Chars) (arguments : List Chars) : Action Nat :=
  match String.ofList name with
  | ":" | "true" => return 0
  | "false" => return 1
  | "echo" => Builtin.echo arguments
  | "printf" => Builtin.printf arguments
  | "test" | "[" => Builtin.test name arguments
  | "read" => Builtin.read arguments
  | "cd" | "chdir" => Builtin.cd arguments
  | "pwd" => Builtin.pwd arguments
  | "export" | "readonly" => Builtin.mark name arguments
  | "local" => Builtin.localNames arguments
  | "unset" => Builtin.unset arguments
  | "set" => Builtin.configure arguments
  | "shift" => Builtin.shift arguments
  | "getopts" => Builtin.getopts arguments
  | "break" => Builtin.leaveLoops .leave arguments
  | "continue" => Builtin.leaveLoops .again arguments
  | "exit" => Builtin.exit arguments
  | "return" => Builtin.return_ arguments
  | "eval" => Builtin.eval run manner arguments
  | "." => Builtin.dot run arguments
  | "exec" => exec run arguments
  | "command" => command arguments
  | "trap" => Builtin.trap arguments
  | "kill" => Builtin.kill arguments
  | "wait" => Builtin.wait run arguments
  | "jobs" => Builtin.jobs arguments
  | "fg" | "bg" => Builtin.foreground arguments
  | "alias" => Builtin.defineAliases arguments
  | "unalias" => Builtin.forgetAliases arguments
  | "type" => Builtin.type arguments
  | "hash" => Builtin.hash arguments
  | "umask" => Builtin.umask arguments
  | "ulimit" => Builtin.ulimit arguments
  | "times" => Builtin.times arguments
  | _ => return 0

/-- A command that the richer shell has itself, where it has its own way with it. -/
def richBuiltin (manner : Manner) (name : Chars) (arguments : List Chars) : Action Nat :=
  match String.ofList name with
  | "read" => Builtin.Richer.read arguments
  | "mapfile" | "readarray" => Builtin.Richer.mapfile arguments
  | "getopts" => Builtin.Richer.getopts arguments
  | "cd" => Builtin.Richer.cd arguments
  | "pushd" => Builtin.Richer.pushd arguments
  | "popd" => Builtin.Richer.popd arguments
  | "dirs" => Builtin.Richer.dirs arguments
  | "umask" => Builtin.Richer.umask arguments
  | "export" | "readonly" => Builtin.markRichly name arguments
  | "declare" | "typeset" => Builtin.declare name arguments
  | "local" => Builtin.localRichly arguments
  | "unset" => Builtin.unsetRichly arguments
  | "let" => Builtin.letAll arguments
  | "shopt" => Builtin.shopt arguments
  | "shift" => Builtin.Richer.shift arguments
  | "break" => Builtin.Richer.leaveLoops .leave arguments
  | "continue" => Builtin.Richer.leaveLoops .again arguments
  | "exit" => Builtin.Richer.exit arguments
  | "return" => Builtin.Richer.return_ arguments
  | "eval" => Builtin.Richer.eval run manner arguments
  | "." | "source" => Builtin.Richer.dot run manner arguments
  | "command" => Builtin.Richer.command richSystemPath arguments
  | "type" => Builtin.Richer.type arguments
  | "hash" => Builtin.Richer.hash arguments
  | "alias" => Builtin.Richer.defineAliases arguments
  | "unalias" => Builtin.Richer.forgetAliases arguments
  | "trap" => Builtin.Richer.trap arguments
  | "kill" => Builtin.Richer.kill arguments
  | "wait" => Builtin.Richer.wait run arguments
  | "jobs" => Builtin.Richer.jobs arguments
  | "fg" | "bg" => Builtin.Richer.foreground
  | _ => builtin run manner name arguments

/-- Runs a command that the shell has itself. If it is not special, its failures do not end the script. -/
def runBuiltin (manner : Manner) (special : Bool) (name : Chars) (arguments : List Chars) :
    Action Unit := do
  let before := (← get).command
  modify fun s => { s with command := some name, lost := none }
  let finished : Action Unit := do
    let rich := (← get).rich
    let status ← if rich then richBuiltin run manner name arguments else builtin run manner name arguments
    match (← get).lost with
    | some e => do
      Action.complain (if rich then chars ("write error: " ++ e.text) else name ++ chars ": I/O error")
      Action.setStatus (status ||| 1)
    | none => Action.setStatus status
  let caught : Action Unit := do
    try finished
    catch flow =>
      if flow = .failed && (!special || (← get).rich) then pure ()
      else throw flow
  Action.afterwards caught (modify fun s => { s with command := before, lost := none })

/-- How many functions may run inside one another. -/
def maxCalls : Nat := 1000

/-- Runs a function. -/
def callFunction (manner : Manner) (name : Chars) (body : Statement) (arguments : List Chars) :
    Action Unit := do
  let s ← get
  if maxCalls ≤ s.calls then
    if s.rich then throw (.killed depthSignal)
    Action.fail (chars ("Maximum function recursion depth (" ++ toString maxCalls ++ ") reached"))
  modify fun s => { s with
    arguments
    frames := if s.rich then ⟨some name, s.source⟩ :: s.frames else []
    optionIndex := 1
    optionOffset := none
    loops := 0
    calls := s.calls + 1 }
  let body : Action Unit := do
    try run manner.inside body
    catch flow => if flow ≠ .back then throw flow
  Action.afterwards body <| modify fun t => { t with
    arguments := s.arguments
    optionIndex := s.optionIndex
    optionOffset := s.optionOffset
    loops := s.loops
    frames := s.frames
    calls := s.calls }

/-- Runs what is to be called. -/
def runCall (manner : Manner) (c : Call) : Action Unit := do
  match c.fields with
  | [] => modify fun s => { s with status := s.inner }
  | name :: arguments => do
    match (← get).meaning c.functions c.path name with
    | .builtin =>
      if (← get).rich && name = chars "builtin" then
        match arguments with
        | [] => Action.setStatus 0
        | inner :: rest =>
          if isBuiltin true inner then runBuiltin run manner false inner rest
          else
            Action.complain (chars "builtin: " ++ inner ++ chars ": not a shell builtin")
            Action.setStatus 1
      else
        runBuiltin run manner c.special name arguments
        c.lists.forM Setting.apply
    | .function body => callFunction run manner name body arguments
    | .missing denied => do
      modify (·.withLocated name none)
      let s ← get
      let seen := (Session.candidates s.searchPath name).find? fun path =>
        s.files.isFile s.directory (Session.path path)
      match s.rich, seen with
      | true, some path => execute run manner path c.fields
      | rich, _ => do
        Action.complain (if rich then richMissingComplaint s name else missingComplaint name denied)
        Action.setStatus 127
    | .program path _ => do
      if !name.contains '/' && c.path.isNone then modify (·.withLocated name (some path))
      execute run manner path c.fields

/-- Sets a variable before a command, for the command alone or for good. -/
def assignBefore (own exported : Bool) (word : Word) : Action Chars := do
  match if (← get).rich then richAssignment? word else none with
  | some a => do
    let setting ← settingOf run a
    if own && Builtin.isFixedVariable (← get) setting.name then
      Action.outsideCommand (Action.complain (setting.name ++ chars ": readonly variable"))
    else if own && setting.key.isNone && setting.value.isLeft then Builtin.makeLocal true setting.shown
    else
      setting.apply
      if exported then modify (·.assigned a.name (((← get).stored? a.name).getD []) true)
    return setting.shown
  | none => do
  let text ← Action.assignmentOf (capture run) word
  if own then Builtin.makeLocal true text
  else
    let (name, value) := Builtin.nameAndValue text
    Action.assign name (value.getD [])
    if exported then modify (·.assigned name (value.getD []) true)
  return text

/-- The text of a prompt, with its parameters replaced. -/
def promptText (prompt : Chars) : Action Chars := do
  if prompt.any fun c => "$`\\".toList.contains c || c == '\x60' then
    let s ← get
    let reading : Reading := ⟨s.aliases, [], [], [], prompt.filter (· ≠ aliasEnd), 1, .ending, false, false, [],
      s.documents, s.rich, [], false⟩
    match readDocument (parse maxNesting) ⟨0, [aliasEnd], false, true⟩ reading with
    | .ok word r => do
      modify fun s => { s with documents := r.documents }
      Action.documentOf (capture run) word
    | .error _ _ => return prompt
  else return prompt

/-- Shows a line before a command runs, if that is asked for. The commands that the prompt asks for are not shown. In
the richer shell the first character of the prompt stands once for each text that runs inside another. -/
def traceLine (channel : Option Channel) (texts : List Chars) : Action Unit := do
  let s ← get
  if s.has .tracing then
    let silently : Evaluate := fun manner statement => do
      Builtin.switch .tracing false
      run manner statement
    let prompt ← promptText silently ((s.stored? (chars "PS4")).getD [])
    let prompt := if s.rich then (prompt.head?.map (List.replicate s.levels)).getD [] ++ prompt else prompt
    let line := prompt ++ [' '].intercalate texts ++ ['\n']
    modify fun s =>
      match channel.map fun c => s.machine.write c line with
      | some (.ok machine) => { s with machine }
      | _ => s

/-- An assignment as the richer shell shows it. -/
def shownAssignment (text : Chars) : Chars :=
  let (name, value) := Builtin.nameAndValue text
  let value := value.getD []
  name ++ '=' :: if value.head? = some '(' then value else Builtin.shown value

/-- Shows a command before it runs: the assignments before it, and its fields. The richer shell has a line for
each assignment. -/
def trace (channel : Option Channel) (assignments fields : List Chars) : Action Unit := do
  if (← get).rich then
    assignments.forM fun text => traceLine run channel [shownAssignment text]
    if !fields.isEmpty then traceLine run channel (fields.map Builtin.shownWord)
    let marks := [some (chars "export"), some (chars "readonly")].contains fields.head?
    if marks then
      (fields.filter (·.contains '=')).forM fun text => traceLine run channel [shownAssignment text]
  else traceLine run channel (assignments ++ fields)

/-- Shows a text before a command of the richer shell runs. -/
def traceText (text : Chars) : Action Unit := do
  let s ← get
  if s.rich && s.has .tracing then traceLine run (s.channel? 2) [text]

/-- Does something, and gives up what it has made its own, unless it ends the script. -/
def withOwn (own : Bool) (action : Action Unit) : Action Unit := do
  if own then
    Builtin.enter
    try
      action
      Builtin.leave
    catch flow =>
      match flow with
      | .failed | .ended | .killed _ => throw flow
      | _ =>
        Builtin.leave
        throw flow
  else action

/-- Whether a command is `exec` without a program: then its redirections last. -/
def redirectsShell (c : Call) : Bool := c.fields.head? = some (chars "exec")

/-- A simple command. -/
def simple (manner : Manner) (assignments words : List Word) (redirections : List Redirection) :
    Action Unit := do
  modify fun s => { s with inner := 0 }
  let c ← callOf run words
  let s ← get
  let traceChannel := s.channel? 2
  let replaces := redirectsShell c
  let refused : Action Unit := do
    Action.setStatus (if s.rich then 1 else 2)
    if c.special then throw .failed
  let isOwnCommand := c.fields.head?.any fun name =>
    isBuiltin true name && !(c.functions && (s.functions.lookup name).isSome)
  let own := c.own && !(s.rich && isOwnCommand && assignments.isEmpty)
  if s.rich then modify fun s => match c.fields.getLast? with
    | some last => s.withVariable ['_'] (.ofValue (some last) false false)
    | none => s
  withOwn own do
    redirected run replaces redirections refused do
      let texts ← assignments.mapM (assignBefore run own (replaces && 1 < c.fields.length))
      trace run traceChannel texts (c.before ++ c.fields)
      runCall run manner c

/-- Does what is to be done when a command has failed in the richer shell. -/
def noteFailure : Action Unit := do
  let s ← get
  let event := 66
  match s.traps.lookup event with
  | none | some [] => pure ()
  | some text =>
    if s.calls = 0 || s.has (.named "errtrace") then
      set { s with traps := s.traps.filter (·.1 ≠ event), command := some (chars "error trap") }
      runText run .usual false text
      modify fun t =>
        { t with
          status := s.status
          command := s.command
          traps := if t.traps.any (·.1 = event) then t.traps else (event, text) :: t.traps }

/-- Ends the script if the last command has failed and nothing looks at that. -/
def checkFailure (tested : Bool) : Action Unit := do
  let s ← get
  if s.status ≠ 0 && !tested then
    if s.rich then noteFailure run
    if s.has .stopOnFailure then throw .ended

/-- A round of a loop. The result says whether the loop goes on. -/
def round (body : Action Unit) : Action Bool := do
  try
    body
    return true
  catch flow =>
    match flow with
    | .leave n => if 1 < n then throw (.leave (n - 1)) else return false
    | .again n => if 1 < n then throw (.again (n - 1)) else return true
    | flow => throw flow

/-- A loop. The status is that of the last round. -/
def loopRounds (manner : Manner) (untilSuccess : Bool) (condition body : Statement) :
    Nat → (status : Nat) → Action Unit
  | 0, status => Action.setStatus status
  | n + 1, status => do
    let holds : Action Bool := do
      run .condition condition
      return ((← get).status = 0) ≠ untilSuccess
    let decided ← (do
      try
        return some (← holds)
      catch flow =>
        match flow with
        | .leave n => if 1 < n then throw (.leave (n - 1)) else return none
        | .again n => if 1 < n then throw (.again (n - 1)) else return some true
        | flow => throw flow : Action (Option Bool))
    match decided with
    | some true => do
      let goesOn ← round (run manner body)
      let status := (← get).status
      if goesOn then loopRounds manner untilSuccess condition body n status
      else Action.setStatus status
    | _ => Action.setStatus status

/-- A loop over values. -/
def eachRound (manner : Manner) (name shown : Chars) (body : Statement) : List Chars → Action Unit
  | [] => pure ()
  | value :: rest => do
    traceText run shown
    let s ← get
    if s.rich && (!isName name || Builtin.isFixedVariable s name) then
      Action.complain (if isName name then name ++ chars ": readonly variable"
        else '\x60' :: name ++ chars "': not a valid identifier")
      Action.setStatus 1
    else
      Action.assign name value
      if ← round (run manner body) then eachRound manner name shown body rest

/-- A loop that counts. The status is that of the last round. -/
def countedRound (manner : Manner) (test after : Word) (body : Statement) : Nat → (status : Nat) → Action Unit
  | 0, status => Action.setStatus status
  | n + 1, status => do
    let holds ← if test.all (fun p => (literal? [p]).isSome && (plainText [p]).all Number.isGap) then pure 0
      else arithmeticStatus run test
    if holds ≠ 0 then Action.setStatus status
    else
      let goesOn ← round (run manner body)
      let status := (← get).status
      if goesOn then
        let _ ← arithmeticStatus run after
        countedRound manner test after body n status
      else Action.setStatus status

/-- A step inside a loop. -/
def inLoop (action : Action Unit) : Action Unit := do
  modify fun s => { s with loops := s.loops + 1 }
  Action.afterwards action (modify fun s => { s with loops := s.loops - 1 })

/-- Whether a text matches one of the patterns. -/
def matchesAny (text : Chars) : List Word → Action Bool
  | [] => return false
  | word :: rest => do
    let pattern ← Action.patternOf (capture run) word
    if pattern.matchesText text then return true else matchesAny text rest

/-- The arms from the first one on that has a pattern that matches. `chosen` says that the first arm is not to be
looked at, and `before` that an arm has run. -/
def chooseArm (manner : Manner) (text : Chars) :
    (chosen before : Bool) → List (List Word × Option Statement × ArmEnd) → Action Unit
  | _, before, [] => if before then pure () else Action.setStatus 0
  | chosen, before, (patterns, body, armEnd) :: rest => do
    if ← if chosen then pure true else matchesAny run text patterns then
      let manner := if armEnd = .choiceEnds then manner else manner.inside
      match body with
      | some body => run manner body
      | none => Action.setStatus 0
      match armEnd with
      | .choiceEnds => pure ()
      | .nextRuns => chooseArm manner text true true rest
      | .goesOn => chooseArm manner text false true rest
    else chooseArm manner text false before rest

/-- Runs statements side by side, each of which reads what the one before it writes. The result says how each
has ended. -/
def runStages (tested : Bool) : (source : Option Nat) → List Statement → Action (List Exit)
  | _, [] => return []
  | source, stage :: rest => do
    let sink ← if rest.isEmpty then pure none else some <$> newNarrowPipe
    let exit ← inCopy run do
      source.forM fun pipe => connect 0 (some (.pipe pipe false))
      sink.forM fun pipe => connect 1 (some (.pipe pipe true))
      run ⟨tested, true⟩ stage
    return exit :: (← runStages tested sink rest)

/-- The least number that is not taken. -/
def freeSlot (taken : List Nat) : Nat :=
  ((List.range (taken.length + 2)).find? fun n => 0 < n && !taken.contains n).getD 1

/-- Puts off a statement, which is to run in the background. -/
def defer (body : Statement) : Action Unit := do
  forgetJob
  modify fun s =>
    let (machine, process) := s.machine.newProcess
    let job : Job := ⟨freeSlot (s.jobs.map (·.slot)), process, none, false, false⟩
    let copy := s.copied.connected 0 (some (.device .null))
    let begun := { copy.toSituation with deaf := copy.deaf ++ Builtin.backgroundDeaf }
    { s with
      machine
      jobs := job :: s.jobs
      lastJob := some process
      deferred := s.deferred ++ [⟨process, begun, body⟩]
      status := 0 }

/-- Counts a command. A shell that has run out of patience ends. -/
def countCommand : Action Unit := do
  modify fun s => { s with machine := { s.machine with commands := s.machine.commands + 1 } }
  let s ← get
  if s.patience.any (· ≤ s.machine.commands) then throw (.killed depthSignal)

/-- Several statements, of which only the last may be the last of the shell. -/
def inOrder (manner : Manner) : List Statement → Action Unit
  | [] => pure ()
  | [last] => run manner last
  | statement :: rest => do
    run manner.inside statement
    inOrder manner rest

/-- Sets the line that complaints name. -/
def atLine (line : Nat) : Action Unit := modify fun s => { s with line }

/-- Statements in brackets, in a copy of the shell. -/
def subshell (manner : Manner) (body : Statement) (redirections : List Redirection) :
    Action Unit := do
  let connections := (← redirections.mapM (Redirection.connections run)).flatten
  let exit ← inCopy run do
    connections.forM (Connection.establish run)
    run ⟨manner.tested, true⟩ body
  finishAs manner exit

/-- A statement, apart from what is to be done on signals. -/
def course (manner : Manner) : Statement → Action Unit
  | .simple line assignments words redirections => do
    atLine line
    try simple run manner assignments words redirections
    catch flow =>
      /- A function or file that is left with a failure may end the script too. -/
      if flow = .back then checkFailure run manner.tested
      throw flow
    checkFailure run manner.tested
  | .pipeline true stages => defer (.pipeline false stages)
  | .pipeline false stages => do
    let exits ← runStages run manner.tested none stages
    exits.forM settle
    if (← get).rich then
      let codes := exits.map statusOf
      let shown := codes.zipIdx.map fun (code, i) => (i, chars (toString code))
      modify (·.withList (chars "PIPESTATUS") shown)
      if (← get).has .failingPipes then
        Action.setStatus ((codes.reverse.find? (· ≠ 0)).getD 0)
    checkFailure run manner.tested
  | .both first second => do
    run .condition first
    if (← get).status = 0 then run manner second
  | .either first second => do
    run .condition first
    if (← get).status ≠ 0 then run manner second
  | .sequence list => inOrder run manner list
  | .negated body => do
    run .condition body
    modify fun s => { s with status := if s.status = 0 then 1 else 0 }
  | .background line body redirections => do
    atLine line
    defer (if redirections.isEmpty then body else .redirected line body redirections)
  | .subshell line body redirections => do
    atLine line
    subshell run manner body redirections
    checkFailure run manner.tested
  | .redirected line body redirections => do
    atLine line
    redirected run false redirections
      (do
        Action.setStatus (if (← get).rich then 1 else 2)
        checkFailure run manner.tested)
      (run manner.inside body)
  | .conditional condition body otherwise => do
    run .condition condition
    if (← get).status = 0 then run manner body
    else
      match otherwise with
      | some otherwise => run manner otherwise
      | none => Action.setStatus 0
  | .loop untilSuccess condition body =>
    inLoop (loopRounds run manner.inside untilSuccess condition body maxCommands 0)
  | .each line name words body => do
    atLine line
    let values ← words.mapM (Action.fieldsOf (capture run))
    let shown := chars "for " ++ name ++ chars " in " ++ [' '].intercalate (words.map sourceOf)
    match values.flatten with
    | [] => Action.setStatus 0
    | values => inLoop (eachRound run manner.inside name shown body values)
  | .choice line word arms => do
    atLine line
    let text ← Action.textOf (capture run) word
    traceText run (chars "case " ++ sourceOf word ++ chars " in")
    chooseArm run manner text false false arms
  | .function _ name body => do
    modify fun s =>
      { s with
        functions := (name, body) :: s.functions.filter (·.1 ≠ name)
        status := 0 }
    modify (·.withLocated name none)
  | .check line check => do
    atLine line
    Action.setStatus (← check.status run)
    checkFailure run manner.tested
  | .arithmetic line expression => do
    atLine line
    Action.setStatus (← arithmeticStatus run expression)
    checkFailure run manner.tested
  | .counted line before test after body => do
    atLine line
    let _ ← arithmeticStatus run before
    inLoop (countedRound run manner.inside test after body maxCommands 0)

/-- A statement. -/
def evaluate (manner : Manner) (statement : Statement) : Action Unit := do
  if !(← get).has .noRunning then
    countCommand
    course run manner statement
    attend run

end

end ConsumerCheck.Shell
