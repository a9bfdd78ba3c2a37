import ConsumerCheck.Shell.Builtin.Arguments
import ConsumerCheck.Shell.Process

/-!
# Signals and commands in the background

* `Builtin.trap` — what is to be done on signals;
* `Builtin.kill` — a signal to a process;
* `Builtin.wait`, `Builtin.jobs`, `Builtin.foreground` — commands in the background.
-/

namespace ConsumerCheck.Shell.Builtin

/-- The name of a signal; number zero is the end of the script. -/
def signalName (n : Nat) : Chars :=
  if n = 0 then chars "EXIT" else chars ((signalNames.lookup n).getD (toString n))

/-- The number of a signal that is given by its number. -/
def signalNumber? (text : Chars) : Option Nat :=
  if text ≠ [] && text.all Char.isDigit then
    let n := Text.numeral 10 text
    if n ≤ maxSignal then some n else none
  else none

/-- The signal, from a first one on, that a text stands for. -/
def signal? (first : Nat) (text : Chars) : Option Nat :=
  match signalNumber? text with
  | some n => some n
  | none =>
    let name := text.map Char.toUpper
    (List.range (maxSignal + 1)).find? fun n => first ≤ n && signalName n == name

/-- With something to be done on a signal, or nothing. -/
def trapped (s : Session) (signal : Nat) (action : Option Chars) : Session :=
  let others := s.traps.filter (·.1 ≠ signal)
  match action with
  | none => { s with traps := others }
  | some text => { s with traps := (signal, text) :: others }

/-- Sets what is to be done on signals, up to the first name that is none. -/
def trapAll (action : Option Chars) : List Chars → Action Nat
  | [] => return 0
  | name :: rest => do
    match signal? 0 name with
    | none => do
      Action.write 2 (chars "trap: " ++ name ++ chars ": bad trap\n")
      return 1
    | some signal => do
      modify fun s => trapped s signal action
      trapAll action rest

/-- The command `trap`. Without arguments it lists what is to be done. -/
def trap (arguments : List Chars) : Action Nat := do
  let (_, arguments) ← options "" arguments
  match arguments with
  | [] => do
    let s ← get
    (List.range (maxSignal + 1)).forM fun n =>
      match s.traps.lookup n with
      | some text =>
        Action.sayLine (chars "trap -- " ++ quoted text ++ ' ' :: signalName n)
      | none => pure ()
    return 0
  | [name] => trapAll none [name]
  | first :: names =>
    if (signalNumber? first).isSome then trapAll none (first :: names)
    else trapAll (if first = ['-'] then none else some first) names

/-- The complaint about a number or a name under which there is no command in the background. -/
def noJob (name : Chars) : Action α := Action.fail (chars "No such job: " ++ name)

/-- The command in the background that a name with a percent sign stands for. -/
def jobOf (name : Chars) : Action Job := do
  let s ← get
  let orElse (job : Option Job) (complaint : String) : Action Job :=
    match job with
    | some job => pure job
    | none => Action.fail (chars complaint)
  match name with
  | ['%'] | ['%', '%'] | ['%', '+'] => orElse s.jobs.head? "No current job"
  | ['%', '-'] => orElse s.jobs.tail.head? "No previous job"
  | '%' :: digits =>
    match s.jobs.find? fun j => Number.argument? digits = some j.slot with
    | some job => pure job
    | none => noJob name
  | _ => noJob name

/-- With a command in the background that has ended. -/
def jobEnded (s : Session) (process : Nat) (exit : Exit) : Session :=
  { s with
    jobs := s.jobs.map fun j => if j.process = process then { j with exit := some exit } else j
    deferred := s.deferred.filter (·.process ≠ process) }

/-- The signals on which a command in the background does nothing. -/
def backgroundDeaf : List Nat := [2, 3]

/-- Sends a signal to a process, and says whether there is such a process. -/
def send (signal process : Nat) : Action Bool := do
  let s ← get
  if process = s.process || s.machine.shells.contains process then
    if signal ≠ 0 then
      modify fun s => { s with machine := { s.machine with
        signals := s.machine.signals ++ [(process, signal)] } }
    return true
  else
    match s.jobs.find? (·.process = process) with
    | some job =>
      if job.noticed then return false
      else if job.exit.isSome then return true
      else
        let ignored := (s.traps.lookup signal) = some []
        if !(harmlessSignals ++ backgroundDeaf).contains signal && !ignored then
          modify fun s => jobEnded s process (.signal signal)
        return true
    | none => return process = 1 || process = s.parent

/-- How `kill` is used. -/
def killUsage : Chars := chars
  "Usage: kill [-s sigspec | -signum | -sigspec] [pid | job]... or\nkill -l [exitstatus]"

/-- Sends a signal to a process or a command in the background, and says whether that was possible. -/
def killOne (signal : Nat) (target : Chars) : Action Bool :=
  match target with
  | '%' :: _ => do
    let _ ← jobOf target
    return false
  | '-' :: digits => do
    let _ ← number digits
    return false
  | digits => do send signal (← number digits)

/-- Sends a signal to several processes. -/
def killAll (signal : Nat) : List Chars → (status : Nat) → Action Nat
  | [], status => return status
  | target :: rest, status => do
    if ← killOne signal target then killAll signal rest status
    else
      Action.complain (chars "No such process\n")
      killAll signal rest 1

/-- Lists the names of signals, or that of one, which may be given by the status of a command. -/
def listSignals (arguments : List Chars) : Action Nat := do
  match arguments with
  | [] => do
    Action.sayLine ['0']
    ((List.range (maxSignal + 1)).drop 1).forM fun n => Action.sayLine (signalName n)
    return 0
  | a :: _ => do
    let n ← number a
    let n := if 128 < n then n - 128 else n
    if 0 < n ∧ n ≤ maxSignal then
      Action.sayLine (signalName n)
      return 0
    else Action.fail (chars "invalid signal number or exit status: " ++ a)

/-- The command `kill`. -/
def kill (arguments : List Chars) : Action Nat := do
  let direct := match arguments with
    | ('-' :: name) :: _ => signal? 1 name
    | _ => none
  let (listing, signal, targets) ← match direct with
    | some n => pure (false, some n, arguments.tail)
    | none => do
      let (found, rest) ← options "ls:" arguments
      let signal ← match found.reverse.lookup 's' with
        | none => pure none
        | some name =>
          match signal? 1 name with
          | some n => pure (some n)
          | none => Action.fail (chars "invalid signal number or name: " ++ name)
      pure (found.any (·.1 = 'l'), signal, rest)
  if listing then
    if signal.isSome then Action.fail killUsage else listSignals targets
  else if targets.isEmpty then Action.fail killUsage
  else killAll (signal.getD 15) targets 0

/-- A command in the background as a line. `mark` says which of the last ones it is. -/
def jobLine (job : Job) (mark : Char) (process : Bool) : Chars :=
  let state := match job.exit with
    | none => "Running"
    | some (.code 0) => "Done"
    | some (.code n) => "Done(" ++ toString n ++ ")"
    | some (.signal n) => signalText n
  let number := if process then toString job.process ++ " " else ""
  let start := chars ("[" ++ toString job.slot ++ "] ") ++ mark :: ' ' :: chars (number ++ state)
  start ++ List.replicate (max 1 (33 - start.length)) ' '

/-- Lists commands in the background. Those that have ended are forgotten. -/
def listJobs (line : Job → Char → Chars) : List Job → (before : Nat) → Action Unit
  | [], _ => pure ()
  | job :: rest, before => do
    Action.sayLine (line job (if before = 0 then '+' else if before = 1 then '-' else ' '))
    if job.exit.isSome then
      modify fun s => { s with jobs := s.jobs.filter (·.process ≠ job.process) }
      listJobs line rest before
    else listJobs line rest (before + 1)

/-- The command `jobs`. -/
def jobs (arguments : List Chars) : Action Nat := do
  let (found, names) ← options "lp" arguments
  let line : Job → Char → Chars := match found.getLast?.map (·.1) with
    | some 'p' => fun job _ => chars (toString job.process)
    | some _ => fun job mark => jobLine job mark true
    | none => fun job mark => jobLine job mark false
  if names.isEmpty then listJobs line (← get).jobs 0
  else
    names.forM fun name => do
      let job ← jobOf name
      listJobs line [job] ((← get).jobs.takeWhile (·.process ≠ job.process)).length
  return 0

/-- The commands `fg` and `bg`, which need a terminal. -/
def foreground (arguments : List Chars) : Action Nat := do
  let (_, names) ← options "" arguments
  let name := names.headD ['%']
  let _ ← jobOf name
  Action.fail (chars "job " ++ names.headD (chars "(null)") ++ chars " not created under job control")

section

variable (run : Evaluate)

/-- Waits for a command in the background. The result is nothing if there is none. -/
def waitFor (name : Chars) : Action (Option Nat) := do
  let job ← match name with
    | '%' :: _ => do pure (some (← jobOf name))
    | _ => do
      let process ← number name
      pure ((← get).jobs.find? (·.process = process))
  match job with
  | none => return none
  | some job => do
    catchUp run
    let s ← get
    modify fun s =>
      { s with jobs := s.jobs.map fun j =>
        if j.process = job.process then { j with waited := true } else j }
    match (s.jobs.find? (·.process = job.process)).bind (·.exit) with
    | none => return none
    | some exit => do
      if !job.noticed then settle exit
      return some (statusOf exit)

/-- Waits for several commands in the background, one after the other. -/
def waitAll : List Chars → (status : Nat) → Action Nat
  | [], status => return status
  | name :: rest, status => do waitAll rest ((← waitFor run name).getD status)

/-- The command `wait`. -/
def wait (arguments : List Chars) : Action Nat := do
  let (_, names) ← options "" arguments
  if names.isEmpty then
    catchUp run
    modify fun s => { s with jobs := s.jobs.map fun j => { j with waited := true } }
    return 0
  else waitAll run names 127

end

end ConsumerCheck.Shell.Builtin
