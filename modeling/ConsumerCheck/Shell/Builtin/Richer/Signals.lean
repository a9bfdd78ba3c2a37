import ConsumerCheck.Shell.Builtin.Signals

/-!
# Signals and commands in the background in the richer shell

* `Richer.trap` — what is to be done on signals;
* `Richer.kill` — a signal to a process;
* `Richer.wait`, `Richer.jobs` — commands in the background.
-/

namespace ConsumerCheck.Shell.Builtin.Richer

/-- What is no signal, but something can be done on it too, with its number. -/
def events : List (Nat × String) := [(65, "DEBUG"), (66, "ERR"), (67, "RETURN")]

/-- The name of a signal without its first letters. -/
def bareName (n : Nat) : Chars :=
  match n, events.lookup n, signalNames.lookup n with
  | 0, _, _ => chars "EXIT"
  | _, some name, _ => chars name
  | 16, _, _ => chars "STKFLT"
  | _, _, some name => chars name
  | n, _, none => chars (toString n)

/-- The name of a signal. -/
def fullName (n : Nat) : Chars :=
  if n = 0 ∨ maxSignal < n ∨ n = 32 ∨ n = 33 then bareName n else chars "SIG" ++ bareName n

/-- The signal that a text stands for. -/
def signal? (text : Chars) : Option Nat :=
  match signalNumber? text with
  | some n => some n
  | none =>
    let name := text.map Char.toUpper
    (List.range 68).find? fun n => fullName n == name || bareName n == name

/-- All signals in columns. -/
def listAll : Action Unit := do
  let numbers := ((List.range (maxSignal + 1)).drop 1).filter fun n => n ≠ 32 ∧ n ≠ 33
  let texts := numbers.map fun n => chars ((if n < 10 then " " else "") ++ toString n ++ ") ") ++ fullName n
  texts.zipIdx.forM fun (text, i) => Action.say (text ++ [if i % 5 = 4 then '\n' else '\t'])
  if texts.length % 5 ≠ 0 then Action.say ['\n']

/-- Complains about a text that is no signal. -/
def invalidSignal (text : Chars) : Action Unit := Action.complain (text ++ chars ": invalid signal specification")

/-- Says how a command is used. -/
def showUsage (name : String) : Action Nat := do
  Action.write 2 (chars (name ++ ": ") ++ usageOf (chars name) ++ ['\n'])
  return 2

/-- What is to be done on a signal, as a line that the shell can read again. -/
def trapLine (s : Session) (n : Nat) : Action Unit :=
  match s.traps.lookup n with
  | some text => Action.sayLine (chars "trap -- " ++ singleQuoted text ++ ' ' :: fullName n)
  | none => pure ()

/-- The command `trap`. -/
def trap (arguments : List Chars) : Action Nat := do
  let (found, arguments) ← options "lp" arguments
  let s ← get
  let signalsOf (names : List Chars) (act : Nat → Action Unit) : Action Nat := do
    let results ← names.mapM fun name => do
      match signal? name with
      | some n => do
        act n
        return true
      | none => do
        invalidSignal name
        return false
    return if results.all id then 0 else 1
  if has found 'l' then
    listAll
    return 0
  else if has found 'p' && !arguments.isEmpty then signalsOf arguments (trapLine s)
  else
    match arguments with
    | [] => do
      (List.range 68).forM (trapLine s)
      return 0
    | [name] =>
      match signal? name with
      | some n => do
        modify fun s => trapped s n none
        return 0
      | none => showUsage "trap"
    | action :: names =>
      if (signalNumber? action).isSome then
        return ← signalsOf arguments fun n => modify fun s => trapped s n none
      let action := if action = ['-'] then none else some action
      signalsOf names fun n => modify fun s => trapped s n action

/-- Sends a signal to what a text names, and says whether that was possible. -/
def killOne (signal : Nat) (target : Chars) : Action Bool := do
  let s ← get
  let gone : Action Bool := do
    Action.complain ('(' :: target ++ chars ") - No such process")
    return false
  match target with
  | [] => do
    Action.complain (chars "\x60': not a pid or valid job spec")
    return false
  | '%' :: digits => do
    match s.jobs.find? fun j => Number.argument? digits = some j.slot with
    | some job => send signal job.process
    | none => do
      Action.complain (target ++ chars ": no such job")
      return false
  | '-' :: _ => gone
  | digits =>
    match Number.argument? digits with
    | none => do
      Action.complain (target ++ chars ": arguments must be process or job IDs")
      return false
    | some process => if ← send signal process then return true else gone

/-- Lists the signals that are named, or all. -/
def listSignals (names : List Chars) : Action Nat := do
  if names.isEmpty then
    listAll
    return 0
  else
    let results ← names.mapM fun name => do
      match Number.argument? name with
      | some n => do
        let n := if 128 < n then n - 128 else n
        if n ≤ maxSignal then
          Action.sayLine (bareName n)
          return true
        else
          invalidSignal name
          return false
      | none =>
        match signal? name with
        | some n => do
          Action.sayLine (chars (toString n))
          return true
        | none => do
          invalidSignal name
          return false
    return if results.all id then 0 else 1

/-- The command `kill`, where the signal is known that is to be sent. -/
def killWith (signal : Nat) : Nat → List Chars → Action Nat
  | 0, _ => return 0
  | n + 1, arguments => do
    let withSignal (name : Chars) (rest : List Chars) : Action Nat :=
      match signal? name with
      | some signal => killWith signal n rest
      | none => do
        invalidSignal name
        return 1
    match arguments with
    | [] => showUsage "kill"
    | argument :: rest =>
      if argument = ['-', 'l'] ∨ argument = ['-', 'L'] then listSignals rest
      else if argument = ['-', 's'] ∨ argument = ['-', 'n'] then
        match rest with
        | name :: rest => withSignal name rest
        | [] => do
          Action.complain (argument ++ chars ": option requires an argument")
          return 1
      else
        match argument, signal with
        | ['-', '-'], _ => finish signal rest
        | '-' :: c :: cs, 15 => withSignal (c :: cs) rest
        | _, signal => finish signal arguments
where
  /-- Sends the signal to what is left. -/
  finish (signal : Nat) (targets : List Chars) : Action Nat := do
    if targets.isEmpty then showUsage "kill"
    else
      let sent ← targets.mapM (killOne signal)
      return if sent.any id then 0 else 1

/-- The command `kill`. -/
def kill (arguments : List Chars) : Action Nat := killWith 15 (arguments.length + 1) arguments

/-- The commands `fg` and `bg`, which need a terminal. -/
def foreground : Action Nat := do
  Action.complain (chars "no job control")
  return 1

/-- The command `jobs`. -/
def jobs (arguments : List Chars) : Action Nat := do
  let (_, names) ← options "lnprs" arguments
  let s ← get
  match names.find? fun name => !s.jobs.any fun j => name = '%' :: chars (toString j.slot) with
  | some name => do
    Action.complain (name ++ chars ": no such job")
    return 1
  | none => Builtin.jobs arguments

section

variable (run : Evaluate)

/-- Waits for what a text names. -/
def waitOne (name : Chars) : Action Nat := do
  let known (name : Chars) (missing : Chars) : Action Nat := do
    match ← Builtin.waitFor run name with
    | some status => return status
    | none => do
      Action.complain missing
      return 127
  match name with
  | '%' :: digits => do
    if (← get).jobs.any fun j => Number.argument? digits = some j.slot then known name []
    else
      Action.complain (name ++ chars ": no such job")
      return 127
  | _ =>
    if name ≠ [] && name.all Char.isDigit && (Number.argument? name).isSome then
      known name (chars "pid " ++ name ++ chars " is not a child of this shell")
    else do
      Action.complain ('\x60' :: name ++ chars "': not a pid or valid job spec")
      return 1

/-- The command `wait`. -/
def wait (arguments : List Chars) : Action Nat := do
  let (found, names) ← options "fnp:" arguments
  if names.isEmpty then
    if has found 'n' then
      match (← get).jobs.getLast? with
      | none => return 127
      | some job => do
        let status ← waitOne run (chars (toString job.process))
        modify fun s => { s with jobs := s.jobs.filter (·.process ≠ job.process) }
        return status
    else
      catchUp run
      modify fun s => { s with jobs := [] }
      return 0
  else
    let results ← names.mapM (waitOne run)
    return results.getLastD 0

end

end ConsumerCheck.Shell.Builtin.Richer
