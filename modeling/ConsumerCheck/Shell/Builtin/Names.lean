import ConsumerCheck.Shell.Builtin.Arguments
import ConsumerCheck.Shell.Lookup

/-!
# Names of commands

* `Builtin.defineAliases`, `Builtin.forgetAliases` — texts that take the place of words;
* `Builtin.type`, `Builtin.describe` — what names stand for;
* `Builtin.hash` — the programs that the shell keeps in mind.
-/

namespace ConsumerCheck.Shell.Builtin

/-- An alias as a line that the shell can read again. -/
def aliasLine (name text : Chars) : Chars := name ++ '=' :: quoted text

/-- The command `alias`. Without arguments it lists all. -/
def defineAliases (arguments : List Chars) : Action Nat := do
  if arguments.isEmpty then
    let all := (← get).aliases.mergeSort fun a b => Session.bucket a.1 ≤ Session.bucket b.1
    all.forM fun (name, text) => Action.sayLine (aliasLine name text)
    return 0
  else
    let known ← arguments.mapM fun argument => do
      let start := argument.take 1
      let after := argument.drop 1
      let name := start ++ after.takeWhile (· != '=')
      if name.length < argument.length then
        let text := argument.drop (name.length + 1)
        modify fun s =>
          { s with aliases :=
            if s.aliases.any (·.1 = name) then
              s.aliases.map fun e => if e.1 = name then (name, text) else e
            else s.aliases ++ [(name, text)] }
        return true
      else
        match (← get).aliases.lookup argument with
        | some text => do
          Action.sayLine (aliasLine argument text)
          return true
        | none => do
          Action.write 2 (chars "alias: " ++ argument ++ chars " not found\n")
          return false
    return if known.all id then 0 else 1

/-- The command `unalias`. -/
def forgetAliases (arguments : List Chars) : Action Nat := do
  let (found, names) ← options "a" arguments
  if !found.isEmpty then
    modify fun s => { s with aliases := [] }
    return 0
  else
    let known ← names.mapM fun name => do
      let s ← get
      if s.aliases.any (·.1 = name) then
        set { s with aliases := s.aliases.filter (·.1 ≠ name) }
        return true
      else
        Action.write 2 (chars "unalias: " ++ name ++ chars " not found\n")
        return false
    return if known.all id then 0 else 1

/-- Says what a name stands for, in words or briefly. The result says whether it stands for anything. -/
def describe (path : Option Chars) (verbose : Bool) (name : Chars) : Action Bool := do
  let s ← get
  let report (words : String) (brief : Chars) : Action Bool := do
    Action.sayLine (if verbose then name ++ chars words else brief)
    return true
  if Token.reservedWords.contains (String.ofList name) then
    report " is a shell keyword" name
  else
    match s.aliases.lookup name with
    | some text => do
      Action.sayLine
        (if verbose then name ++ chars " is an alias for " ++ text
        else chars "alias " ++ aliasLine name text)
      return true
    | none =>
      let missing : Action Bool := do
        if verbose then Action.sayLine (name ++ chars ": not found")
        return false
      let located (place : Chars) (kept : Bool) : Action Bool := do
        if !name.contains '/' && path.isNone then modify (·.withLocated name (some place))
        let words := if kept then " is a tracked alias for " else " is "
        Action.sayLine (if verbose then name ++ chars words ++ place else place)
        return true
      match s.meaning true path name with
      | .function _ => report " is a shell function" name
      | .builtin =>
        report (if isSpecial name then " is a special shell builtin" else " is a shell builtin") name
      | .program place kept =>
        if name.contains '/' && !s.files.exists_ s.directory (Session.path name) then missing
        else located place kept
      | .missing _ => missing

/-- The command `type`. -/
def type (arguments : List Chars) : Action Nat := do
  let known ← arguments.mapM (describe none true)
  return if known.all id then 0 else 127

/-- The command `hash`. -/
def hash (arguments : List Chars) : Action Nat := do
  let (found, names) ← options "r" arguments
  if !found.isEmpty then
    modify fun s => { s with located := [] }
    return 0
  else if names.isEmpty then
    let place (name : Chars) : Nat :=
      Session.mixed name % 32768 % 31
    let all := (← get).located.mergeSort fun a b => place a.1 ≤ place b.1
    all.forM fun (_, l) => Action.sayLine (l.path ++ if l.stale then ['*'] else [])
    return 0
  else
    let known ← names.mapM fun name => do
      modify (·.withLocated name none)
      match (← get).meaning true none name with
      | .program path _ => do
        if !name.contains '/' then modify (·.withLocated name (some path))
        return true
      | .missing denied => do
        Action.complain (missingComplaint name denied)
        return false
      | _ => return true
    return if known.all id then 0 else 1

end ConsumerCheck.Shell.Builtin
