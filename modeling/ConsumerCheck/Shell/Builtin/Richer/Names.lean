import ConsumerCheck.Shell.Builtin.Names

/-!
# Names of commands in the richer shell

* `Richer.defineAliases`, `Richer.forgetAliases` — texts that take the place of words;
* `Richer.type`, `Richer.command` — what names stand for;
* `Richer.hash` — the programs that the shell keeps in mind.
-/

namespace ConsumerCheck.Shell.Builtin.Richer

/-- Complains that there is nothing of a name. -/
def notFound (name : Chars) : Action Unit := Action.complain (name ++ chars ": not found")

/-- An alias as a line that the shell can read again. -/
def aliasLine (name text : Chars) : Chars := chars "alias " ++ name ++ '=' :: singleQuoted text

/-- The status of a command that looks for names. -/
def allFound (found : List Bool) : Nat := if found.all id then 0 else 1

/-- The command `alias`. -/
def defineAliases (arguments : List Chars) : Action Nat := do
  let (found, arguments) ← options "p" arguments
  if arguments.isEmpty || !found.isEmpty then
    let all := (← get).aliases.mergeSort fun a b => !(b.1 < a.1 : Bool)
    all.forM fun (name, text) => Action.sayLine (aliasLine name text)
  let known ← arguments.mapM fun argument => do
    let name := argument.takeWhile (· != '=')
    let others := (← get).aliases.filter (·.1 ≠ name)
    if name ≠ [] && name.length < argument.length then
      modify fun s => { s with aliases := others ++ [(name, argument.drop (name.length + 1))] }
      return true
    else
      match (← get).aliases.lookup argument with
      | some text => do
        Action.sayLine (aliasLine argument text)
        return true
      | none => do
        notFound argument
        return false
  return allFound known

/-- The command `unalias`. -/
def forgetAliases (arguments : List Chars) : Action Nat := do
  let (found, names) ← options "a" arguments
  if !found.isEmpty then
    modify fun s => { s with aliases := [] }
    return 0
  else if names.isEmpty then
    Action.write 2 (chars "unalias: " ++ usageOf (chars "unalias") ++ ['\n'])
    return 2
  else
    let known ← names.mapM fun name => do
      let s ← get
      if s.aliases.any (·.1 = name) then
        set { s with aliases := s.aliases.filter (·.1 ≠ name) }
        return true
      else
        notFound name
        return false
    return allFound known

/-- What a name may stand for: the kind, and the words for it. -/
structure Description where
  kind : String
  words : Chars
  path : Option Chars

/-- The words of the richer shell's language. -/
def keywords : List String :=
  ["if", "then", "else", "elif", "fi", "case", "esac", "for", "select", "while", "until", "do", "done", "in",
    "function", "time", "\x7b", "\x7d", "!", "[[", "]]", "coproc"]

/-- All that a name stands for, what counts first. -/
def descriptions (s : Session) (path : Option Chars) (name : Chars) : List Description :=
  let word (here : Bool) (kind : String) (words : String) : List Description :=
    if here then [⟨kind, name ++ chars words, none⟩] else []
  let text := String.ofList name
  let programs :=
    if name.contains '/' then if isProgram s name then [name] else []
    else (Session.candidates (path.getD s.searchPath) name).filter (isProgram s)
  let kept := if path.isNone then (s.located.lookup name).map (·.path) else none
  let file (place : Chars) (hashed : Bool) : Description :=
    ⟨"file", name ++ if hashed then chars " is hashed (" ++ place ++ [')'] else chars " is " ++ place, some place⟩
  (((knownAliases s).lookup name).toList.map fun text =>
      ⟨"alias", name ++ chars " is aliased to \x60" ++ text ++ ['\''], none⟩) ++
    word (keywords.contains text) "keyword" " is a shell keyword" ++
    word (s.functions.lookup name).isSome "function" " is a function" ++
    word (isBuiltin true name) "builtin" " is a shell builtin" ++
    match kept with
    | some place => [file place true]
    | none => programs.map fun place => file place false

/-- The command `type`. -/
def type (arguments : List Chars) : Action Nat := do
  let (found, names) ← options "afptP" arguments
  let s ← get
  let known ← names.mapM fun name => do
    let all := descriptions s none name
    let all := if has found 'f' then all.filter (·.kind ≠ "function") else all
    let all := if has found 'P' then all.filter (·.kind = "file") else all
    let counted := if has found 'a' then all else all.take 1
    counted.forM fun d =>
      if has found 't' then Action.sayLine (chars d.kind)
      else if has found 'p' || has found 'P' then d.path.toList.forM Action.sayLine
      else Action.sayLine d.words
    if all.isEmpty && !(has found 't' || has found 'p' || has found 'P') then notFound name
    return !all.isEmpty
  return allFound known

/-- The command `command`, when it is to say what names stand for. -/
def command (systemPath : Chars) (arguments : List Chars) : Action Nat := do
  let (found, names) ← options "pvV" arguments
  let path := if has found 'p' then some systemPath else none
  if has found 'v' || has found 'V' then
    let s ← get
    let known ← names.mapM fun name => do
      match descriptions s path name with
      | [] => do
        if has found 'V' then notFound name
        return false
      | d :: _ => do
        let brief := match d.kind with
          | "alias" => aliasLine name ((s.aliases.lookup name).getD [])
          | _ => d.path.getD name
        Action.sayLine (if has found 'V' then d.words else brief)
        return true
    return if known.any id || names.isEmpty then 0 else 1
  else return 0

/-- The command `hash`. -/
def hash (arguments : List Chars) : Action Nat := do
  let (found, names) ← options "dlp:rt" arguments
  if has found 'r' then modify fun s => { s with located := [] }
  match found.reverse.lookup 'p' with
  | some path => do
    names.forM fun name => modify (·.withLocated name (some path))
    return 0
  | none => do
    if names.isEmpty then
      let all := (← get).located
      if !has found 'r' && all.isEmpty then Action.sayLine (chars "hash: hash table empty")
      return 0
    else
      let known ← names.mapM fun name => do
        let s ← get
        if has found 'd' || has found 't' then
          match s.located.lookup name with
          | none => do
            notFound name
            return false
          | some l => do
            if has found 't' then Action.sayLine l.path
            else modify (·.withLocated name none)
            return true
        else if name.contains '/' then return true
        else
          match s.search s.searchPath name with
          | .program path _ => do
            modify (·.withLocated name (some path))
            return true
          | _ => do
            let own := isBuiltin true name || (s.functions.lookup name).isSome
            if !own then notFound name
            return own
      return allFound known

end ConsumerCheck.Shell.Builtin.Richer
