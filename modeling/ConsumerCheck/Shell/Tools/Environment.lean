import ConsumerCheck.Shell.Program
import ConsumerCheck.Shell.Tools.Arguments

/-!
# The environment of a program

A program is started with texts such as `NAME=value`. The tool `env` starts another program with others, or
prints them.

* `Tools.EnvRequest`, `Tools.EnvFault` — what the tool `env` is asked for, and why it refuses;
* `Tools.splitWords` — the words of a text;
* `Tools.readEnv` — the request that its arguments make;
* `Tools.printenv` — the values of variables.
-/

namespace ConsumerCheck.Shell.Tools

/-- The name in a text of the environment. -/
def nameIn (text : Chars) : Chars := text.takeWhile (· != '=')

/-- The value of a variable in the environment. -/
def valueIn? (environment : List Chars) (name : Chars) : Option Chars :=
  (environment.find? fun text => nameIn text == name && name.length < text.length).map
    (·.drop (name.length + 1))

/-- The environment with a text in it, in the place of one for the same variable. -/
def withText (environment : List Chars) (text : Chars) : List Chars :=
  if environment.any fun e => nameIn e = nameIn text then
    environment.map fun e => if nameIn e = nameIn text then text else e
  else environment ++ [text]

/-- Why the tool `env` refuses its arguments. -/
inductive EnvFault where
  /-- An option, with the words of the complaint. -/
  | option (text : Chars)
  /-- A blank where an option must stand. -/
  | blankOption (c : Char)
  | openQuote
  | unknownEscape (c : Char)
  | endingBackslash
  | quotedEnd
  /-- A dollar sign that names no variable in braces. -/
  | expansion (rest : Chars)
  | unset (name : Chars)
  | directoryAlone
  | zeroWithCommand

namespace EnvFault

/-- What to do in the first line of a script instead. -/
def advice : Chars := chars "use -[v]S to pass options in shebang lines"

/-- The wording of a refusal. -/
def messages : EnvFault → List Chars
  | option text => [text]
  | blankOption c => [chars "invalid option -- '" ++ [c, '\''], advice]
  | openQuote => [chars "no terminating quote in -S string"]
  | unknownEscape c => [chars "invalid sequence '\\" ++ [c] ++ chars "' in -S"]
  | endingBackslash => [chars "invalid backslash at end of string in -S"]
  | quotedEnd => [chars "'\\c' must not appear in double-quoted -S string"]
  | expansion rest =>
    [chars "only $\x7bVARNAME\x7d expansion is supported, error at: " ++ rest]
  | unset name => [chars "cannot unset " ++ named name ++ chars ": Invalid argument"]
  | directoryAlone => [chars "must specify command with --chdir (-C)"]
  | zeroWithCommand => [chars "cannot specify --null (-0) with command"]

/-- Whether a refusal says where to look for help. -/
def needsHelp : EnvFault → Bool
  | option _ | blankOption _ | directoryAlone | zeroWithCommand => true
  | _ => false

end EnvFault

/-- How far the splitting of a text into words has come. -/
structure Split where
  /-- The words, the last one first, with their last characters first. -/
  words : List Chars
  /-- Whether the next character begins a word. -/
  fresh : Bool

/-- With characters at the end of the last word, which may begin with them. -/
def Split.put (s : Split) (cs : Chars) : Split :=
  match s.fresh, s.words with
  | false, word :: words => ⟨(cs.reverse ++ word) :: words, false⟩
  | _, words => ⟨cs.reverse :: words, false⟩

/-- The characters that separate words. -/
def blanks : Chars := " \t\n\x0b\x0c\r".toList

/-- The name of a variable between a brace and its end, and what follows. -/
def bracedName? (cs : Chars) : Option (Chars × Chars) :=
  match cs with
  | '\x7b' :: rest =>
    let name := rest.takeWhile isNameChar
    match rest.drop name.length with
    | '\x7d' :: after => if isName name then some (name, after) else none
    | _ => none
  | _ => none

/-- The words of so many characters at most. Between quotes of the one kind a variable in braces still gives
way to its value; between those of the other kind nearly everything stands for itself. -/
def splitFrom (environment : List Chars) :
    Nat → (quote : Option Char) → Split → Chars → Except EnvFault Split
  | 0, _, s, _ => .ok s
  | _, none, s, [] => .ok s
  | _, some _, _, [] => .error .openQuote
  | n + 1, quote, s, c :: rest =>
    let more := splitFrom environment n
    let itself := more quote (s.put [c]) rest
    let escaped (d : Char) (rest : Chars) := more quote (s.put [d]) rest
    match c with
    | '\'' | '"' =>
      if quote = some c then more none (s.put []) rest
      else if quote = none then more (some c) (s.put []) rest
      else itself
    | '#' => if s.fresh then .ok s else itself
    | '$' =>
      if quote = some '\'' then itself
      else
        match bracedName? rest with
        | none => .error (.expansion (c :: rest))
        | some (name, after) =>
          match valueIn? environment name with
          | some value => more quote (s.put value) after
          | none => more quote s after
    | '\\' =>
      match rest with
      | [] => if quote = some '\'' then itself else .error .endingBackslash
      | d :: after =>
        if quote = some '\'' && d != '\\' && d != '\'' then itself
        else
          match d with
          | '"' | '#' | '$' | '\'' | '\\' => escaped d after
          | '_' =>
            if quote = some '"' then escaped ' ' after else more quote { s with fresh := true } after
          | 'c' => if quote = some '"' then .error .quotedEnd else .ok s
          | 'f' => escaped '\x0c' after
          | 'n' => escaped '\n' after
          | 'r' => escaped '\r' after
          | 't' => escaped '\t' after
          | 'v' => escaped '\x0b' after
          | d => .error (.unknownEscape d)
    | c =>
      if quote = none && blanks.contains c then more quote { s with fresh := true } rest
      else itself

/-- The words of a text. -/
def splitWords (environment : List Chars) (text : Chars) : Except EnvFault (List Chars) :=
  (splitFrom environment (text.length + 1) none ⟨[], true⟩ text).map fun s =>
    s.words.reverse.map List.reverse

/-- What the tool `env` is asked for. -/
structure EnvRequest where
  environment : List Chars
  /-- What ends each text if the environment is printed. -/
  terminator : Char
  directory : Option Chars
  /-- The program to start, with its arguments. -/
  command : List Chars
  /-- What the tool says about what it does, if it is asked to. -/
  remarks : List Chars

/-- The options of `env`. -/
def envOptions : Options := ⟨"i0u:C:S:vσ::", [
  ("ignore-environment", 'i'), ("null", '0'), ("unset", 'u'), ("chdir", 'C'), ("split-string", 'S'),
  ("debug", 'v'), ("ignore-signal", 'σ'), ("default-signal", 'σ'), ("block-signal", 'σ')]⟩

/-- The remarks on a text that is split. -/
def splitRemarks (text : Chars) (words : List Chars) : List Chars :=
  (chars "split -S:  " ++ named text) ::
    words.zipIdx.map fun (word, i) => chars (if i = 0 then " into:    " else "     &    ") ++ named word

/-- The options before the first other argument, with the remarks on texts that are split. -/
def leadingOptions (environment : List Chars) : Nat → (verbose : Bool) → List Chars →
    Except EnvFault (List (Char × Chars) × List Chars × List Chars)
  | n + 1, verbose, argument :: rest =>
    /- What follows once some options are read. -/
    let after (first : List (Char × Chars)) (rest : List Chars) := do
      let verbose := verbose || has first 'v'
      let words ← match first.lookup 'S' with
        | none => .ok []
        | some text => splitWords environment text
      let remarks := if verbose then (first.lookup 'S').map (splitRemarks · words) else none
      let (found, rest, later) ← leadingOptions environment n verbose (words ++ rest)
      return (first ++ found, rest, remarks.getD [] ++ later)
    match argument with
    | ['-', '-'] => .ok ([], rest, [])
    | '-' :: '-' :: word =>
      match envOptions.readWord word rest with
      | .error text => .error (.option text)
      | .ok (first, rest) => after [first] rest
    | '-' :: c :: letters =>
      match envOptions.readLetters (c :: letters) rest with
      | .error text =>
        let faults := (blanks.map EnvFault.blankOption).filter fun fault => fault.messages.contains text
        .error (faults.headD (.option text))
      | .ok (first, rest) => after first rest
    | _ => .ok ([], argument :: rest, [])
  | _, _, arguments => .ok ([], arguments, [])

/-- The request that arguments make. -/
def readEnv (environment arguments : List Chars) : Except EnvFault EnvRequest := do
  let length := arguments.flatten.length + arguments.length
  let (found, rest, remarks) ← leadingOptions environment (length + 1) false arguments
  let (empty, rest) := if rest.head? = some ['-'] then (true, rest.tail) else (has found 'i', rest)
  let gone := if empty then [] else (found.filter (·.1 = 'u')).map (·.2)
  match gone.find? fun name => name = [] || name.contains '=' with
  | some name => throw (.unset name)
  | none => pure ()
  let kept := if empty then [] else environment.filter fun e => !gone.contains (nameIn e)
  let settings := rest.takeWhile (·.contains '=')
  let command := rest.drop settings.length
  let directory := (found.reverse.find? (·.1 = 'C')).map (·.2)
  if has found '0' && !command.isEmpty then throw .zeroWithCommand
  if directory.isSome && command.isEmpty then throw .directoryAlone
  let said :=
    (if empty then [chars "cleaning environ"] else gone.map (chars "unset:    " ++ ·)) ++
    settings.map (chars "setenv:   " ++ ·) ++
    (directory.map fun path => chars "chdir:    " ++ named path).toList ++
    (command.head?.map (chars "executing: " ++ ·)).toList ++
    command.zipIdx.map fun (argument, i) =>
      chars ("   arg[" ++ toString i ++ "]= ") ++ named argument
  return {
    environment := settings.foldl withText kept
    terminator := if has found '0' then '\x00' else '\n'
    directory
    command
    remarks := remarks ++ if has found 'v' then said else [] }

/-- The tool `printenv`. -/
def printenv (environment : List Chars) (_ : Chars) (names : List Chars) : Action Nat := do
  if names.isEmpty then
    Action.say (environment.flatMap (· ++ ['\n']))
    return 0
  else
    forEach names fun name =>
      match valueIn? environment name with
      | some value => do
        Action.say (value ++ ['\n'])
        return 0
      | none => return 1

end ConsumerCheck.Shell.Tools
