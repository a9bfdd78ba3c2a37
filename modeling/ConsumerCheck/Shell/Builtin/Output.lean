import ConsumerCheck.Shell.Builtin.Arguments
import ConsumerCheck.Shell.Condition
import ConsumerCheck.Shell.Printing

/-!
# Commands that print or that look

* `Builtin.echo`, `Builtin.printf` — arguments as output;
* `Builtin.test` — a condition;
* `Builtin.ulimit`, `Builtin.times` — what the host allows, and the time that was spent.
-/

namespace ConsumerCheck.Shell.Builtin

/-- The command `echo`. -/
def echo (arguments : List Chars) : Action Nat := do
  Action.say (if (← get).rich then Printing.echoWithOptions .rich arguments else Printing.echo arguments)
  return 0

/-- The command `printf`, in the words of the shell that runs. -/
def printf (arguments : List Chars) : Action Nat := do
  let reader : Escape.Reader := if (← get).rich then .rich else .plain
  let (found, arguments) ← options (if reader = .rich then "v:" else "") arguments
  match arguments with
  | [] =>
    if reader = .rich then
      Action.write 2 (chars "printf: " ++ usageOf (chars "printf") ++ ['\n'])
      return 2
    else Action.fail (chars "usage: printf format [arg ...]")
  | format :: rest => do
    let (printed, _) := Printing.formatted reader format rest
    printed.complaints.forM fun misfit => Action.complain (misfit.message reader)
    match found.reverse.lookup 'v' with
    | some name => do
      Action.checkName name
      Action.assign name printed.text
    | none => Action.say printed.text
    let only := printed.complaints.all fun misfit => match misfit with
      | .outside _ => reader == .rich
      | _ => false
    return if printed.broken && reader = .plain then 2 else if only then 0 else 1

/-- The command `test`, which may also be written as a bracket. -/
def test (name : Chars) (arguments : List Chars) : Action Nat := do
  let bracket := name = ['[']
  if bracket && arguments.getLast? ≠ some [']'] then
    Action.failWith (chars "missing ]") (chars "missing \x60]'") 2
  else
    let s ← get
    let judge := if s.rich then Condition.holdsCounted else Condition.holds
    match judge s (if bracket then arguments.dropLast else arguments) with
    | .ok holds => return if holds then 0 else 1
    | .error fault => Action.failWith (fault.message .plain) (fault.message .rich) 2

/-- What can be limited, by its letter, with its name in lists and the usual limit. -/
def limits : List (Char × String × String) := [
  ('t', "time(seconds)", "unlimited"), ('f', "file(blocks)", "unlimited"),
  ('d', "data(kbytes)", "unlimited"), ('s', "stack(kbytes)", "8192"),
  ('c', "coredump(blocks)", "0"), ('m', "memory(kbytes)", "unlimited"),
  ('l', "locked memory(kbytes)", "8192"), ('p', "process", "unlimited"),
  ('n', "nofiles", "1048576"), ('v', "vmemory(kbytes)", "unlimited"), ('w', "locks", "unlimited"),
  ('r', "rtprio", "0")]

/-- The command `ulimit`. A limit that is set has no effect. -/
def ulimit (arguments : List Chars) : Action Nat := do
  let (found, arguments) ← options "HSatfdscmlpnvwr" arguments
  let letters := (found.map (·.1)).filter fun c => c != 'H' && c != 'S'
  match arguments with
  | [] =>
    if letters.contains 'a' then
      limits.forM fun (_, name, usual) =>
        Action.sayLine (chars name ++ List.replicate (20 - name.length) ' ' ++ ' ' :: chars usual)
    else
      let usual := (limits.lookup (letters.getLastD 'f')).map (·.2)
      Action.sayLine (chars (usual.getD "unlimited"))
    return 0
  | value :: rest =>
    if letters.contains 'a' || !rest.isEmpty then
      Action.failWith (chars "too many arguments") (chars "too many arguments") 2
    else if value = chars "unlimited" || (value ≠ [] && value.all Char.isDigit) then return 0
    else Action.failWith (chars "bad number") (value ++ chars ": invalid number") 1

/-- The command `times`. -/
def times (_ : List Chars) : Action Nat := do
  let line := chars "0m0.000000s 0m0.000000s"
  Action.sayLine line
  Action.sayLine line
  return 0

end ConsumerCheck.Shell.Builtin
