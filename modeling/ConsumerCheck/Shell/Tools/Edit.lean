import ConsumerCheck.Shell.Edit.Reading
import ConsumerCheck.Shell.Tools.Placing

/-!
# Lines that are edited

The tool `sed` reads one line after the other, carries out the commands of a script for each, and shows what has
become of it.

* `EditRequest` — what the tool is asked for besides its script;
* `Editor` — the line, and how far everything has come;
* `Editing.commands` — the commands, carried out for one line;
* `Tools.edit` — the tool.
-/

namespace ConsumerCheck.Shell.Tools

/-- What is asked for besides the script. -/
structure EditRequest where
  /-- The name under which the tool was started. -/
  name : Chars
  script : Edit.Script
  /-- What ends a line. -/
  terminator : Char
  /-- Whether each file is edited for itself. -/
  separate : Bool
  /-- Whether the files themselves are changed, and the ending of names under which they are kept. -/
  inPlace : Option Chars
  /-- How wide lines are that are shown in full. -/
  width : Nat

/-- Whether a range of lines has begun. -/
inductive RangeState where
  | idle
  /-- It ends with this line, or with one that is yet to be found. -/
  | active (last : Option Nat)
  | closed
  deriving DecidableEq, Repr

/-- What is shown at the end of a round. -/
inductive Queued where
  | text (text : Chars)
  | file (name : Chars)

/-- The line that is edited, and how far everything has come. -/
structure Editor where
  line : Chars
  /-- Whether the line has an end. -/
  ended : Bool
  /-- The text that is kept, and whether it is that of a line with an end. -/
  kept : Chars
  keptEnded : Bool
  number : Nat
  /-- The lines of the file that are left. -/
  lines : List Chars
  file : Chars
  /-- The files that are not open yet. -/
  waiting : List Chars
  queue : List Queued
  replaced : Bool
  ranges : List (Nat × RangeState)
  /-- The expression that was used last. -/
  last : Option Edit.Pattern
  outputs : List (Chars × Channel)
  /-- The outputs whose last line has no end. -/
  incomplete : List (Option Chars)
  /-- The lines that are left of files from which single ones are taken. -/
  readers : List (Chars × List Chars)
  /-- What the file that is changed is to hold. -/
  changed : Option Chars
  status : Nat

/-- A step of the tool. -/
abbrev Editing := StateT Editor Action

namespace Editing

variable (q : EditRequest)

/-- Writes to the usual output, or to a file. -/
def deliver (target : Option Chars) (text : Chars) : Editing Unit := do
  let e ← get
  match target with
  | none =>
    match e.changed with
    | some before => set { e with changed := some (before ++ text) }
    | none => Action.say text
  | some name =>
    if name = chars "/dev/stdout" then Action.say text
    else if name = chars "/dev/stderr" then Action.write 2 text
    else
      match e.outputs.lookup name with
      | none => pure ()
      | some channel =>
        match (← getThe Session).machine.write channel text with
        | .ok machine => modifyThe Session fun s => { s with machine }
        | .error _ => pure ()

/-- Writes a text. A line before it that has no end gets one. -/
def put (target : Option Chars) (text : Chars) : Editing Unit := do
  let missing := (← get).incomplete.contains target
  modify fun e => { e with incomplete := e.incomplete.filter (· ≠ target) }
  deliver target ((if missing then [q.terminator] else []) ++ text)

/-- Writes a line, which may have no end. -/
def putLine (target : Option Chars) (text : Chars) (ended : Bool) : Editing Unit := do
  put q target (text ++ if ended then [q.terminator] else [])
  if !ended then modify fun e => { e with incomplete := target :: e.incomplete }

/-- The output that a name stands for. -/
def targetOf (name : Chars) : Option Chars :=
  if name = chars "/dev/stdout" && q.inPlace.isNone then none else some name

/-- Shows the line as it is now. -/
def showLine : Editing Unit := do
  let e ← get
  putLine q none e.line e.ended

/-- Shows what waits for the end of the round. -/
def flush : Editing Unit := do
  let queue := (← get).queue
  modify fun e => { e with queue := [] }
  queue.forM fun queued =>
    match queued with
    | .text text => put q none text
    | .file name => do
      match ← contents (if name = chars "/dev/stdin" then ['-'] else name) with
      | .ok text => if text ≠ [] then put q none text
      | .error _ => pure ()

/-- Ends the tool. -/
def stop (text : Chars) (status : Nat) : Editing α := do
  report q.name text
  Action.setStatus status
  throw Flow.ended

/-- Puts what was changed into the file. -/
def finishFile : Editing Unit := do
  let e ← get
  match e.changed, q.inPlace with
  | some text, some ending => do
    let s ← getThe Session
    match s.files.locate s.directory (Session.path e.file) with
    | .ok place =>
      let permissions := ((s.files.get? place).map (·.permissions)).getD s.filePermissions
      let backup := if ending.contains '*' then
          ending.flatMap fun c => if c = '*' then lastName e.file else [c]
        else e.file ++ ending
      let files := if ending = [] then s.files
        else
          match s.files.target s.directory (Session.path backup) with
          | .ok other => s.files.write other (s.files.contentsAt place) permissions
          | .error _ => s.files
      modifyThe Session fun s => { s with
        machine := { s.machine with files := files.write place (toOctets text) permissions } }
      set { e with changed := none, incomplete := e.incomplete.filter (·.isSome) }
    | .error _ => set { e with changed := none }
  | _, _ => pure ()

/-- Opens the next file. The lines of one that cannot be read are none. -/
def openNext (file : Chars) : Editing Unit := do
  let s ← getThe Session
  if q.inPlace.isSome && s.files.isDirectory s.directory (Session.path file) then
    stop q (chars "couldn't edit " ++ file ++ chars ": not a regular file") 4
  else
    match ← contents file with
    | .ok text =>
      modify fun e => { e with lines := linesBy q.terminator text, file }
      if q.inPlace.isSome then modify fun e => { e with changed := some [] }
      if q.separate then modify fun e => { e with
        number := 0
        kept := []
        keptEnded := true
        ranges := e.ranges.filter fun (_, state) => state ≠ .closed }
    | .error .isDirectory => stop q (chars "read error on " ++ file ++ chars ": Is a directory") 4
    | .error e => do
      report q.name (chars "can't read " ++ file ++ chars (": " ++ e.text))
      modify fun e => { e with status := max e.status 2 }

/-- The next line of the input. -/
def take : Nat → Editing (Option Chars)
  | 0 => return none
  | n + 1 => do
    let e ← get
    match e.lines with
    | line :: lines => do
      set { e with lines, number := e.number + 1 }
      return some line
    | [] => do
      finishFile q
      match e.waiting with
      | [] => return none
      | file :: waiting => do
        modify fun e => { e with waiting }
        openNext q file
        take n

/-- Reads the next line, which stands alone or behind those that are there. The result says whether there
was one. -/
def advance (joins : Bool) : Editing Bool := do
  flush q
  modify fun e => { e with replaced := false }
  match ← take q ((← get).waiting.length + 2) with
  | none => return false
  | some line => do
    let text := withoutSign q.terminator line
    modify fun e => { e with
      line := if joins then e.line ++ q.terminator :: text else text
      ended := line.getLast? = some q.terminator }
    return true

/-- Whether a file that is still to be read has something in it. -/
def hasLines (s : Session) (file : Chars) : Bool :=
  match openFile s .read file with
  | .ok (s, channel) => ((s.machine.available channel).toOption.getD []) ≠ []
  | .error _ => false

/-- Whether the line is the last one. -/
def isLast : Editing Bool := do
  let e ← get
  let s ← getThe Session
  return e.lines = [] && (q.separate || !e.waiting.any (hasLines s))

/-- The expression that is meant. -/
def patternFor (pattern : Option Edit.Pattern) : Editing Edit.Pattern := do
  let before := (← get).last
  match pattern.orElse fun _ => before with
  | some p => do
    modify fun e => { e with last := some p }
    return p
  | none => do
    let fault : Edit.Refusal := ⟨none, 1, 0, .noExpression⟩
    stop q fault.message 1

/-- Whether an address selects the line. -/
def meets (address : Edit.Address) : Editing Bool := do
  let e ← get
  match address with
  | .line n => return e.number = n
  | .every first step => return first ≤ e.number && (e.number - first) % step = 0
  | .last => isLast q
  | .matching pattern => do
    let p ← patternFor q pattern
    return (p.regex.first? ⟨e.line.toArray, p.folded, p.byLine⟩ 0).isSome

/-- Whether a command is for the line, leaving aside that it may be for the others. -/
def selects (index : Nat) (command : Edit.Command) : Editing Bool := do
  match command.first, command.second with
  | none, _ => return true
  | some address, none => meets q address
  | some first, some last => do
    let e ← get
    let become (state : RangeState) : Editing Unit :=
      modify fun e => { e with ranges := (index, state) :: e.ranges.filter (·.1 ≠ index) }
    let isZero := match first with
      | .line 0 => true
      | _ => false
    let byNumber := match first with
      | .line _ => true
      | _ => false
    let state := (e.ranges.lookup index).getD (if isZero then .active none else .idle)
    match state with
    | .active (some n) => do
      if n ≤ e.number then become .closed
      return e.number ≤ n
    | .active none =>
      match last with
      | .at address => do
        if ← meets q address then become .closed
        return true
      | _ => return true
    | state =>
      if state = .closed && byNumber then return false
      else if ← meets q first then
        let upTo (n : Nat) : Editing Unit :=
          become (if n ≤ e.number then .closed else .active (some n))
        match last with
        | .at (.line n) => upTo n
        | .after n => upTo (e.number + n)
        | .multiple n => upTo ((e.number / n + 1) * n)
        | .at _ => become (.active none)
        return true
      else return false

/-- A line in full, where what cannot be seen is written in signs. -/
def inFull (width : Nat) (text : Chars) : Chars :=
  let letters := [('\x07', 'a'), ('\x08', 'b'), ('\x0c', 'f'), ('\n', 'n'), ('\r', 'r'), ('\t', 't'), ('\x0b', 'v')]
  let octal (c : Char) : Chars :=
    let digits := Nat.toDigits 8 c.toNat
    '\\' :: List.replicate (3 - digits.length) '0' ++ digits
  let sign (c : Char) : Chars :=
    if c = '\\' then ['\\', '\\']
    else
      match letters.lookup c with
      | some letter => ['\\', letter]
      | none => if ' ' ≤ c ∧ c ≤ '~' then [c] else octal c
  let (_, shown) := text.foldl (fun (column, shown) c =>
    let own := sign c
    if 1 < width && width - 1 < column + own.length then
      (own.length, own.reverse ++ ['\n', '\\'] ++ shown)
    else (column + own.length, own.reverse ++ shown)) (0, ([] : Chars))
  shown.reverse ++ ['$', '\n']

/-- How the round for a line goes on behind its commands. -/
inductive Course where
  /-- The line is shown if lines are shown. -/
  | finished
  | dropped
  /-- The commands are carried out once more for what is left of the line. -/
  | again
  | stopped (shows : Bool) (status : Nat)
  deriving DecidableEq, Repr

/-- Carries out a command that is followed by the next one. -/
def carryOut (operation : Edit.Operation) : Editing Unit := do
  let e ← get
  let firstLine := e.line.takeWhile (· != q.terminator)
  match operation with
  | .number => put q none (chars (toString e.number ++ "\n"))
  | .append text => modify fun e => { e with queue := e.queue ++ [.text text] }
  | .insert text => put q none text
  | .print => showLine q
  | .printFirst => putLine q none firstLine (e.ended || e.line.contains q.terminator)
  | .keep adds => modify fun e => { e with
      kept := if adds then e.kept ++ q.terminator :: e.line else e.line
      keptEnded := e.ended }
  | .recall adds => modify fun e => { e with
      line := if adds then e.line ++ q.terminator :: e.kept else e.kept
      ended := e.keptEnded }
  | .exchange => modify fun e => { e with
      line := e.kept, ended := e.keptEnded, kept := e.line, keptEnded := e.ended }
  | .list width => put q none (inFull (width.getD q.width) e.line)
  | .substitute s => do
    let pattern ← patternFor q s.pattern
    match s.replaced? pattern e.line with
    | none => pure ()
    | some line => do
      modify fun e => { e with line, replaced := true }
      if s.prints then showLine q
      match s.file with
      | some name => putLine q (targetOf q name) line e.ended
      | none => pure ()
  | .translate pairs => modify fun e => { e with line := e.line.map fun c => (pairs.lookup c).getD c }
  | .readFile name => modify fun e => { e with queue := e.queue ++ [.file name] }
  | .readLine name => do
    let lines ← match e.readers.lookup name with
      | some lines => pure lines
      | none => do pure (linesBy q.terminator ((← contents name).toOption.getD []))
    match lines with
    | [] => pure ()
    | line :: rest => modify fun e => { e with
        queue := e.queue ++ [.text (withoutSign q.terminator line ++ [q.terminator])]
        readers := (name, rest) :: e.readers.filter (·.1 ≠ name) }
  | .writeFile onlyFirst name =>
    if onlyFirst then putLine q (targetOf q name) firstLine true
    else putLine q (targetOf q name) e.line e.ended
  | .fileName => put q none (e.file ++ ['\n'])
  | .clear => modify fun e => { e with line := [] }
  | _ => pure ()

/-- Carries out the commands from a place on. -/
def commands : Nat → (index : Nat) → Editing Course
  | 0, _ => return .stopped false 4
  | n + 1, index => do
    match q.script.commands[index]? with
    | none => return .finished
    | some command => do
      let chosen := (← selects q index command) != command.negated
      let e ← get
      let goOn : Editing Course := commands n (index + 1)
      match command.operation, chosen with
      | .block past, false => commands n past
      | _, false => goOn
      | .change text, true => do
        let going := match e.ranges.lookup index with
          | some (.active _) => true
          | _ => false
        if !going || command.negated then put q none text
        return .dropped
      | .delete, true => return .dropped
      | .deleteFirst, true =>
        if e.line.contains q.terminator then
          set { e with line := (e.line.dropWhile (· != q.terminator)).tail }
          return .again
        else return .dropped
      | .next, true => do
        if ← isLast q then return .finished
        if !q.script.quiet then showLine q
        if ← advance q false then goOn else return .dropped
      | .join, true => do
        if ← isLast q then return .finished
        if ← advance q true then goOn else return .finished
      | .quit shows status, true => return .stopped shows status
      | .jump condition label, true => do
        let jumps := match condition with
          | .always => true
          | .replaced => e.replaced
          | .notReplaced => !e.replaced
        if condition ≠ .always then modify fun e => { e with replaced := false }
        if !jumps then goOn
        else if label = [] then return .finished
        else commands n ((q.script.labels.lookup label).getD q.script.commands.size)
      | operation, true => do
        carryOut q operation
        goOn

/-- The greatest number of commands for one line. -/
def maxCommands : Nat := 1000000

/-- All rounds, the first of which may be for what is left of a line. The result is the status. -/
def rounds : Nat → (left : Bool) → Editing Nat
  | 0, _ => return 4
  | n + 1, left => do
    let more ← if left then pure true else advance q false
    if !more then return (← get).status
    else
      let finish (shows : Bool) : Editing Unit := do
        if shows && !q.script.quiet then showLine q
        flush q
      match ← commands q maxCommands 0 with
      | .finished => do
        finish true
        rounds n false
      | .dropped => do
        finish false
        rounds n false
      | .again => do
        finish false
        rounds n true
      | .stopped shows status => do
        finish shows
        finishFile q
        return status

end Editing

/-- Opens the files that a script writes. -/
def openOutputs (tool : Chars) (names : List Chars) : Action (List (Chars × Channel)) := do
  let mut opened : List (Chars × Channel) := []
  for name in names do
    if (opened.lookup name).isNone && name ≠ chars "/dev/stdout" && name ≠ chars "/dev/stderr" then
      match openFile (← get) .write name with
      | .ok (s, channel) =>
        set s
        opened := (name, channel) :: opened
      | .error e => do
        report tool (chars "couldn't open file " ++ name ++ chars (": " ++ e.text))
        Action.setStatus 4
        throw Flow.ended
  return opened

/-- The options of `sed`. -/
def editOptions : Options := ⟨"nsuzErbi::l:e:f:πδφσ", [
  ("quiet", 'n'), ("silent", 'n'), ("separate", 's'), ("unbuffered", 'u'), ("null-data", 'z'),
  ("zero-terminated", 'z'), ("regexp-extended", 'E'), ("binary", 'b'), ("in-place", 'i'), ("line-length", 'l'),
  ("expression", 'e'), ("file", 'f'), ("posix", 'π'), ("debug", 'δ'), ("follow-symlinks", 'φ'), ("sandbox", 'σ')]⟩

/-- The tool `sed`. -/
def edit (name : Chars) (arguments : List Chars) : Action Nat := do
  match editOptions.readAll arguments.length arguments with
  | .error text => do
    report name text
    return 1
  | .ok (found, operands) => do
    let given ← (found.filter fun (c, _) => c == 'e' || c == 'f').mapM fun (c, text) => do
      if c = 'e' then return (⟨none, text⟩ : Edit.Source)
      else
        match ← contents text with
        | .ok script => return ⟨some text, script⟩
        | .error e => do
          report name (chars "couldn't open file " ++ text ++ chars (": " ++ e.text))
          Action.setStatus 4
          throw Flow.ended
    let (sources, files) := if given ≠ [] then (given, operands)
      else ((operands.head?.map fun text => (⟨none, text⟩ : Edit.Source)).toList, operands.tail)
    if sources = [] then return 1
    else
      match Edit.read (has found 'E' || has found 'r') sources with
      | .error (text, status) => do
        report name text
        return status
      | .ok script => do
        let inPlace := lastValue? found 'i'
        if inPlace.isSome && files = [] then
          report name (chars "no input files")
          return 4
        let outputs ← openOutputs name script.outputs
        let width := ((lastValue? found 'l').bind fun digits =>
          if digits ≠ [] && digits.all Char.isDigit then some (Text.numeral 10 digits) else none).getD 70
        let request : EditRequest := {
          name
          script := { script with quiet := script.quiet || has found 'n' }
          terminator := if has found 'z' then '\x00' else '\n'
          separate := has found 's' || inPlace.isSome
          inPlace
          width }
        let begun : Editor := {
          line := [], ended := true, kept := [], keptEnded := true, number := 0, lines := [], file := ['-']
          waiting := if files = [] then [['-']] else files
          queue := [], replaced := false, ranges := [], last := none, outputs, incomplete := []
          readers := [], changed := none, status := 0 }
        let (status, last) ← (Editing.rounds request Editing.maxCommands false).run begun
        return max status last.status

end ConsumerCheck.Shell.Tools
