import ConsumerCheck.Shell.Builtin.Directory
import ConsumerCheck.Shell.Condition
import ConsumerCheck.Shell.Printing
import ConsumerCheck.Shell.Tools.Placing

/-!
# Tools that print words

* `Tools.echo`, `Tools.printf` — arguments as output;
* `Tools.test` — a condition;
* `Tools.pwd`, `Tools.basename`, `Tools.dirname` — paths and their parts;
* `Tools.sleep` — time that passes without anything to see.
-/

namespace ConsumerCheck.Shell.Tools

/-- The tool `echo`. -/
def echo (_ : Chars) (arguments : List Chars) : Action Nat := do
  Action.say (Printing.echoWithOptions .tool arguments)
  return 0

/-- The tool `printf`. -/
def printf (name : Chars) (arguments : List Chars) : Action Nat := do
  match if arguments.head? = some ['-', '-'] then arguments.tail else arguments with
  | [] => missingOperand name
  | format :: rest => do
    let (printed, left) := Printing.formatted .tool format rest
    printed.complaints.forM fun misfit => report name (misfit.message .tool)
    Action.say printed.text
    match left with
    | extra :: _ =>
      if !printed.broken && !printed.stopped then
        report name (chars "warning: ignoring excess arguments, starting with " ++ named extra)
    | [] => pure ()
    return if printed.complaints = [] then 0 else 1

/-- The tool `test`, which may also be written as a bracket. -/
def test (name : Chars) (bracket : Bool) (arguments : List Chars) : Action Nat := do
  if bracket && arguments.getLast? ≠ some [']'] then
    report name (chars "missing ']'")
    return 2
  else
    match Condition.holdsCounted (← get) (if bracket then arguments.dropLast else arguments) with
    | .ok holds => return if holds then 0 else 1
    | .error fault => do
      report name (fault.message .tool)
      return 2

/-- The tool `pwd`. -/
def pwd (name : Chars) (arguments : List Chars) : Action Nat :=
  withOptions ⟨"LP", [("logical", 'L'), ("physical", 'P')]⟩ 1 name arguments fun _ operands => do
    if !operands.isEmpty then report name (chars "ignoring non-option arguments")
    Action.say (Builtin.pathOf (← get).directory ++ ['\n'])
    return 0

/-- A name without an ending, unless that is all of it. -/
def withoutEnding (ending name : Chars) : Chars :=
  if ending ≠ name && ending.isSuffixOf name then name.take (name.length - ending.length) else name

/-- The tool `basename`. -/
def basename (name : Chars) (arguments : List Chars) : Action Nat :=
  withOptions ⟨"as:z", [("multiple", 'a'), ("suffix", 's'), ("zero", 'z')]⟩ 1 name arguments
    fun found operands => do
      let terminator := if has found 'z' then '\x00' else '\n'
      let show_ (ending path : Chars) : Action Unit :=
        Action.say (withoutEnding ending (lastName path) ++ [terminator])
      match operands, has found 'a' || has found 's' with
      | [], _ => missingOperand name
      | paths, true => do
        paths.forM (show_ ((found.lookup 's').getD []))
        return 0
      | [path], false => do
        show_ [] path
        return 0
      | [path, ending], false => do
        show_ ending path
        return 0
      | _ :: _ :: extra :: _, false => do
        report name (chars "extra operand " ++ named extra)
        tryHelp name
        return 1

/-- The tool `dirname`. -/
def dirname (name : Chars) (arguments : List Chars) : Action Nat :=
  withOptions ⟨"z", [("zero", 'z')]⟩ 1 name arguments fun found operands => do
    if operands.isEmpty then missingOperand name
    else
      let terminator := if has found 'z' then '\x00' else '\n'
      operands.forM fun path => Action.say (directoryName path ++ [terminator])
      return 0

/-- Whether a text is a length of time. -/
def isDuration (text : Chars) : Bool :=
  match Floating.leading text with
  | (some (n, _), after) => !n.isNegative && (after = [] || ["s", "m", "h", "d"].contains (String.ofList after))
  | (none, _) => false

/-- The tool `sleep`. -/
def sleep (name : Chars) (arguments : List Chars) : Action Nat := do
  if arguments.isEmpty then missingOperand name
  else
    let bad := arguments.filter fun a => !isDuration a
    bad.forM fun a => report name (chars "invalid time interval " ++ named a)
    if bad.isEmpty then return 0
    else
      tryHelp name
      return 1

/-- The tool `uname`, for a host whose system and processor are known. -/
def uname (name : Chars) (arguments : List Chars) : Action Nat :=
  withOptions ⟨"smo", [("kernel-name", 's'), ("machine", 'm'), ("operating-system", 'o')]⟩ 1 name arguments
    fun found _ => do
      let parts := [('s', "Linux"), ('m', "x86_64"), ('o', "GNU/Linux")].filterMap fun (c, text) =>
        if has found c || (found.isEmpty && c == 's') then some (chars text) else none
      Action.say ([' '].intercalate parts ++ ['\n'])
      return 0

end ConsumerCheck.Shell.Tools
