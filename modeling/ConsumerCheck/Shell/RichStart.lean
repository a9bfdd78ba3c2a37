import ConsumerCheck.Shell.Builtin.Declaration
import ConsumerCheck.Shell.Builtin.Directory
import ConsumerCheck.Shell.Lookup
import ConsumerCheck.Shell.Redirection

/-!
# Start of the richer shell

How `bash` begins.

* `richVariables` — the variables with which it begins;
* `readInvocation` — what its arguments ask for;
* `runRichScript` — the script that they ask for.
-/

namespace ConsumerCheck.Shell

/-- The version of the richer shell, part by part. -/
def richVersion : List String := ["5", "2", "15", "1", "release", "x86_64-pc-linux-gnu"]

/-- The variables with which the richer shell begins, after those of its environment. -/
def richVariables (s : Session) : Session :=
  let known (name : String) : Bool := (s.bindings.lookup (chars name)).isSome
  let number (text : String) : Variable := .ofValue (some (chars text)) false true
  let usual (s : Session) (name value : String) : Session :=
    if known name then s else s.withVariable (chars name) (.ofValue (some (chars value)) false false)
  let fixed (s : Session) (name value : String) : Session := s.withVariable (chars name) (number value)
  let s := [("BASH", "/bin/bash"), ("HOSTTYPE", "x86_64"), ("MACHTYPE", "x86_64-pc-linux-gnu"), ("OPTERR", "1"),
    ("OSTYPE", "linux-gnu"), ("PS4", "+ "), ("SHELL", "/bin/bash"), ("TERM", "dumb"),
    ("BASH_VERSION", "5.2.15(1)-release")].foldl (fun s (name, value) => usual s name value) s
  let s := [("EUID", "0"), ("UID", "0"), ("PPID", toString s.parent)].foldl
    (fun s (name, value) => fixed s name value) s
  let versions := richVersion.zipIdx.map fun (text, i) => (i, chars text)
  let s := s.withVariable (chars "BASH_VERSINFO")
    ⟨versions.lookup 0, false, true, some (versions.filter (·.1 ≠ 0))⟩
  let level := ((s.stored? (chars "SHLVL")).bind Number.argument?).getD 0
  let s := s.assigned (chars "SHLVL") (chars (toString (level + 1))) true
  let back := (s.stored? (chars "OLDPWD")).filter fun path => (Builtin.directoryAt? s path).isSome
  s.withVariable (chars "OLDPWD") (.ofValue back true false)

/-- How the richer shell is used. -/
def richUsage (name : Chars) : Chars :=
  let long := ["debug", "debugger", "dump-po-strings", "dump-strings", "help", "init-file", "login", "noediting",
    "noprofile", "norc", "posix", "pretty-print", "rcfile", "restricted", "verbose", "version"]
  chars "Usage:\t" ++ name ++ chars " [GNU long option] [option] ...\n\t" ++ name ++
    chars " [GNU long option] [option] script-file ...\nGNU long options:\n" ++
    long.flatMap (fun option => chars ("\t--" ++ option ++ "\n")) ++
    chars ("Shell options:\n\t-ilrsD or -c command or -O shopt_option\t\t(invocation only)\n" ++
      "\t-abefhkmnptuvxBCEHPT or -o option\n")

/-- Ends the richer shell at its start with a complaint. -/
def refuseStart (status : Nat) (text : Chars) : Action α := do
  Action.write 2 ((← get).name ++ chars ": " ++ text ++ ['\n'])
  Action.setStatus status
  throw .ended

/-- Passes over the long options of the richer shell. -/
def afterLongOptions : Nat → List Chars → Action (List Chars)
  | n + 1, ('-' :: '-' :: c :: cs) :: rest => do
    let name := String.ofList (c :: cs)
    if ["init-file", "rcfile"].contains name then
      if rest.isEmpty then refuseStart 2 (c :: cs ++ chars ": option requires an argument")
      else afterLongOptions n rest.tail
    else if name = "verbose" then
      Builtin.switch .verbose true
      afterLongOptions n rest
    else if ["debugger", "login", "noediting", "noprofile", "norc", "posix", "restricted"].contains name then
      afterLongOptions n rest
    else do
      let shell := (← get).name
      refuseStart 2 (chars "--" ++ c :: cs ++ chars ": invalid option\n" ++ (richUsage shell).dropLast)
  | _, arguments => return arguments

/-- Switches modes by the letters of an argument of the richer shell. The result has the arguments that are
left. -/
def richStartLetters (on : Bool) : Chars → List Chars → Action (List Chars)
  | [], rest => return rest
  | c :: more, rest => do
    let sign := if on then '-' else '+'
    if c = 'c' then
      Builtin.switch .commandText true
      richStartLetters on more rest
    else if c = 's' then
      Builtin.switch .standardInput true
      richStartLetters on more rest
    else if "ilrD".toList.contains c then richStartLetters on more rest
    else if c = 'O' then
      match rest with
      | [] => richStartLetters on more rest
      | name :: rest => do
        match Mode.habits.lookup (String.ofList name) with
        | some usual => Builtin.switch (.habit (String.ofList name)) (on != usual)
        | none => refuseStart 1 (name ++ chars ": invalid shell option name")
        richStartLetters on more rest
    else if c = 'o' then
      match rest.head?, rest.head?.bind (Mode.ofName? true) with
      | some _, some mode => Builtin.switch mode on
      | some name, none => refuseStart 2 (chars "line 0: " ++ (← get).name ++ chars ": " ++ name ++
          chars ": invalid option name")
      | none, _ => Builtin.switchName none on
      richStartLetters on more rest.tail
    else
      match Mode.ofLetter? true c with
      | some mode => do
        Builtin.switch mode on
        richStartLetters on more rest
      | none => do
        let shell := (← get).name
        refuseStart 2 (sign :: c :: chars ": invalid option\n" ++ (richUsage shell).dropLast)

/-- Switches modes by the arguments of the richer shell that ask for it. The result has the arguments that are
left. -/
def richStartOptions : Nat → List Chars → Action (List Chars)
  | n + 1, argument :: rest => do
    match argument with
    | ['-'] | ['-', '-'] => return rest
    | '-' :: letters => richStartOptions n (← richStartLetters true letters rest)
    | '+' :: letters => richStartOptions n (← richStartLetters false letters rest)
    | _ => return argument :: rest
  | _, rest => return rest

section

variable (run : Evaluate)

/-- The text of a script, which is looked for on the search path if it is not here. -/
def scriptText (name : Chars) : Action Chars := do
  let s ← get
  let onPath := if name.contains '/' then none
    else (Session.candidates s.searchPath name).find? fun path => s.files.isFile s.directory (Session.path path)
  let file := if s.files.exists_ s.directory (Session.path name) then name else onPath.getD name
  let refuse (text : String) : Action Chars := do
    modify fun s => { s with name := file }
    refuseStart 126 (file ++ chars (": " ++ text))
  if s.files.isDirectory s.directory (Session.path file) then refuse "Is a directory"
  else
    match openFile s .read file with
    | .error e => refuseStart (if e = .noEntry ∨ e = .notDirectory then 127 else 126) (file ++ chars (": " ++ e.text))
    | .ok (opened, channel) =>
      let text := (opened.machine.available channel).toOption.getD []
      if looksLikeScript (toOctets text) then return text else refuse "cannot execute binary file"

/-- The script that the arguments of the richer shell ask for. -/
def runRichScript (arguments : List Chars) : Action Unit := do
  let rest ← afterLongOptions (arguments.length + 1) arguments
  let rest ← richStartOptions (arguments.length + 1) rest
  let s ← get
  let named (rest : List Chars) : Action Unit :=
    match rest with
    | [] => pure ()
    | name :: arguments => modify fun s => { s with name, arguments }
  if s.has .commandText then
    match rest with
    | [] => refuseStart 2 (chars "-c: option requires an argument")
    | text :: rest => do
      named rest
      modify fun s => { s with command := some (chars "-c") }
      runText run ⟨false, true⟩ false text
  else
    let fromInput := rest.isEmpty || s.has .standardInput
    if fromInput then
      Builtin.switch .standardInput true
      modify fun s => { s with arguments := rest }
      let text := match s.channel? 0 with
        | some channel => (s.machine.available channel).toOption.getD []
        | none => []
      runText run .usual true text
    else
      let text ← scriptText (rest.headD [])
      named rest
      runText run .usual true text

end

end ConsumerCheck.Shell
