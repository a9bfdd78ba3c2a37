import ConsumerCheck.Shell.Builtin.Quoting
import ConsumerCheck.Shell.Session

/-!
# Arguments of the shell's own commands

Options are letters behind a dash. They end at the first argument that is none, or after `--`.

* `Builtin.options` — the options of a command, and the arguments after them;
* `Builtin.number` — an argument that must be a number;
* `Builtin.quoted` — a text as the shell can read it again.
-/

namespace ConsumerCheck.Shell.Builtin

/-- Whether a letter is an option, and whether an argument belongs to it. Such a letter has a colon behind
it in the list of those that are known. -/
def option? (c : Char) : List Char → Option Bool
  | [] => none
  | k :: ':' :: more => if k = c then some true else option? c more
  | k :: more => if k = c then some false else option? c more

/-- What is wrong with an option. -/
inductive OptionFault where
  | unknown (c : Char)
  | noArgument (c : Char)
  deriving DecidableEq, Repr

/-- How commands are used, as the richer shell says it. -/
def usages : List (String × String) := [
  (".", ". filename [arguments]"), ("alias", "alias [-p] [name[=value] ... ]"),
  ("bg", "bg [job_spec ...]"), ("cd", "cd [-L|[-P [-e]] [-@]] [dir]"),
  ("command", "command [-pVv] command [arg ...]"),
  ("declare", "declare [-aAfFgiIlnrtux] [name[=value] ...] or declare -p [-aAfFilnrtux] [name ...]"),
  ("eval", "eval [arg ...]"),
  ("exec", "exec [-cl] [-a name] [command [argument ...]] [redirection ...]"),
  ("export", "export [-fn] [name[=value] ...] or export -p"), ("fg", "fg [job_spec]"),
  ("getopts", "getopts optstring name [arg ...]"),
  ("hash", "hash [-lr] [-p pathname] [-dt] [name ...]"),
  ("jobs", "jobs [-lnprs] [jobspec ...] or jobs -x command [args]"),
  ("kill", "kill [-s sigspec | -n signum | -sigspec] pid | jobspec ... or kill -l [sigspec]"),
  ("local", "local [option] name[=value] ..."), ("printf", "printf [-v var] format [arguments]"),
  ("pwd", "pwd [-LP]"),
  ("read", "read [-ers] [-a array] [-d delim] [-i text] [-n nchars] [-N nchars] [-p prompt] [-t timeout] " ++
    "[-u fd] [name ...]"),
  ("readonly", "readonly [-aAf] [name[=value] ...] or readonly -p"),
  ("set", "set [-abefhkmnptuvxBCEHPT] [-o option-name] [--] [-] [arg ...]"),
  ("shopt", "shopt [-pqsu] [-o] [optname ...]"), ("source", "source filename [arguments]"),
  ("trap", "trap [-lp] [[arg] signal_spec ...]"), ("type", "type [-afptP] name [name ...]"),
  ("typeset", "typeset [-aAfFgiIlnrtux] name[=value] ... or typeset -p [-aAfFilnrtux] [name ...]"),
  ("ulimit", "ulimit [-SHabcdefiklmnpqrstuvxPRT] [limit]"), ("umask", "umask [-p] [-S] [mode]"),
  ("unalias", "unalias [-a] name [name ...]"), ("unset", "unset [-f] [-v] [-n] [name ...]"),
  ("wait", "wait [-fn] [-p var] [id ...]")]

/-- How a command is used, in a line. -/
def usageOf (name : Chars) : Chars :=
  chars "usage: " ++ chars ((usages.lookup (String.ofList name)).getD (String.ofList name))

/-- The words for a fault of an option, with how the command is used where the richer shell says so. -/
def OptionFault.messages (name : Chars) : OptionFault → Chars × Chars
  | unknown c => (chars "Illegal option -" ++ [c],
      '-' :: c :: chars ": invalid option\n" ++ name ++ chars ": " ++ usageOf name)
  | noArgument c => (chars "No arg for -" ++ c :: chars " option",
      '-' :: c :: chars ": option requires an argument\n" ++ name ++ chars ": " ++ usageOf name)

/-- The options of an argument without its dash, and the arguments after them. -/
def letters (known : List Char) : Chars → List Chars →
    Except OptionFault (List (Char × Chars) × List Chars)
  | [], rest => .ok ([], rest)
  | c :: more, rest =>
    match option? c known, more, rest with
    | none, _, _ => .error (.unknown c)
    | some false, more, rest => do
      let (others, rest) ← letters known more rest
      return ((c, []) :: others, rest)
    | some true, [], [] => .error (.noArgument c)
    | some true, [], a :: rest => .ok ([(c, a)], rest)
    | some true, more, rest => .ok ([(c, more)], rest)

/-- The options of so many arguments at most, and the arguments after them. -/
def optionsOf (known : List Char) : Nat → List Chars →
    Except OptionFault (List (Char × Chars) × List Chars)
  | n + 1, ('-' :: c :: cs) :: rest =>
    if c = '-' ∧ cs = [] then .ok ([], rest)
    else do
      let (first, rest) ← letters known (c :: cs) rest
      let (others, rest) ← optionsOf known n rest
      return (first ++ others, rest)
  | _, arguments => .ok ([], arguments)

/-- The options of a command, each with its argument, and the arguments after them. -/
def options (known : String) (arguments : List Chars) : Action (List (Char × Chars) × List Chars) :=
  match optionsOf known.toList arguments.length arguments with
  | .ok found => pure found
  | .error fault => do
    let (plain, rich) := fault.messages ((← get).command.getD [])
    Action.failWith plain rich 2

/-- The complaint about an argument that is no number. -/
def badNumber (argument : Chars) : Action α :=
  Action.failWith (chars "Illegal number: " ++ argument) (argument ++ chars ": numeric argument required") 1

/-- An argument that must be a number. -/
def number (argument : Chars) : Action Nat :=
  match Number.argument? argument with
  | some n => pure n
  | none => badNumber argument

/-- The first argument as a number, or the usual one. -/
def firstNumber (usual : Nat) (arguments : List Chars) : Action Nat :=
  match arguments with
  | [] => pure usual
  | a :: _ => number a

/-- Whether an option is given. -/
def has (found : List (Char × Chars)) (c : Char) : Bool := found.any (·.1 = c)

end ConsumerCheck.Shell.Builtin
