import ConsumerCheck.Shell.Redirection

/-!
# Arguments and messages of tools

Options of a tool may stand anywhere among its arguments, up to `--`. They are letters behind a dash, or words
behind two.

* `Tools.options` — the options of a tool, and its other arguments;
* `Tools.report` — a message of a tool;
* `Tools.input` — all that a tool can read.
-/

namespace ConsumerCheck.Shell.Tools

/-- Whether an option takes an argument. -/
inductive Takes where
  | nothing
  | value
  /-- Only one that stands in the same argument. -/
  | perhaps
  deriving DecidableEq, Repr

/-- The options that a tool knows: letters, with a colon behind each that takes an argument and two behind each
that may take one, and words with the letters that mean the same. An option that has no letter to be typed is
kept under one that cannot be. -/
structure Options where
  letters : String
  words : List (String × Char)

/-- Whether a letter is an option, and whether it takes an argument. -/
def Options.letter? (o : Options) (c : Char) : Option Takes :=
  let rec go : List Char → Option Takes
    | [] => none
    | k :: ':' :: ':' :: more => if k = c then some .perhaps else go more
    | k :: ':' :: more => if k = c then some .value else go more
    | k :: more => if k = c then some .nothing else go more
  go o.letters.toList

/-- The options in the letters of an argument, and what follows. -/
def Options.readLetters (o : Options) : Chars → List Chars →
    Except Chars (List (Char × Chars) × List Chars)
  | [], rest => .ok ([], rest)
  | c :: more, rest =>
    match o.letter? c, more, rest with
    | none, _, _ => .error (chars "invalid option -- '" ++ [c, '\''])
    | some .nothing, more, rest => do
      let (others, rest) ← o.readLetters more rest
      return ((c, []) :: others, rest)
    | some .perhaps, more, rest => .ok ([(c, more)], rest)
    | some .value, [], [] => .error (chars "option requires an argument -- '" ++ [c, '\''])
    | some .value, [], a :: rest => .ok ([(c, a)], rest)
    | some .value, more, rest => .ok ([(c, more)], rest)

/-- The option of a word behind two dashes, and what follows. The beginning of a word is enough if only one
option begins so. -/
def Options.readWord (o : Options) (word : Chars) (rest : List Chars) :
    Except Chars ((Char × Chars) × List Chars) :=
  let name := word.takeWhile (· != '=')
  let given := name.length < word.length
  let value := word.drop (name.length + 1)
  let exact := o.words.filter fun (text, _) => chars text = name
  let near := if exact = [] then o.words.filter fun (text, _) => name.isPrefixOf (chars text) else exact
  match near with
  | [] => .error (chars "unrecognized option '--" ++ word ++ ['\''])
  | (text, c) :: others =>
    if others.any (·.2 ≠ c) then
      .error (chars "option '--" ++ word ++ chars "' is ambiguous; possibilities:" ++
        near.flatMap fun (text, _) => chars (" '--" ++ text ++ "'"))
    else
      match (o.letter? c).getD .nothing with
      | .perhaps => .ok ((c, value), rest)
      | .nothing =>
        if given then .error (chars ("option '--" ++ text ++ "' doesn't allow an argument"))
        else .ok ((c, []), rest)
      | .value =>
        if given then .ok ((c, value), rest)
        else
          match rest with
          | [] => .error (chars ("option '--" ++ text ++ "' requires an argument"))
          | a :: rest => .ok ((c, a), rest)

/-- The options among so many arguments at most, and the other arguments. -/
def Options.readAll (o : Options) : Nat → List Chars →
    Except Chars (List (Char × Chars) × List Chars)
  | n + 1, argument :: rest =>
    match argument with
    | ['-', '-'] => .ok ([], rest)
    | '-' :: '-' :: word => do
      let (first, rest) ← o.readWord word rest
      let (others, operands) ← o.readAll n rest
      return (first :: others, operands)
    | '-' :: c :: cs => do
      let (first, rest) ← o.readLetters (c :: cs) rest
      let (others, operands) ← o.readAll n rest
      return (first ++ others, operands)
    | _ => do
      let (found, operands) ← o.readAll n rest
      return (found, argument :: operands)
  | _, arguments => .ok ([], arguments)

/-- Writes a message of a tool. -/
def report (name text : Chars) : Action Unit := Action.write 2 (name ++ chars ": " ++ text ++ ['\n'])

/-- A text between quotes, as messages name it. -/
def named (text : Chars) : Chars := '\'' :: text ++ ['\'']

/-- The last argument of an option. -/
def lastValue? (found : List (Char × Chars)) (c : Char) : Option Chars := found.reverse.lookup c

/-- Where to look for help. -/
def tryHelp (name : Chars) : Action Unit :=
  Action.write 2 (chars "Try '" ++ name ++ chars " --help' for more information.\n")

/-- What a tool does with its options and other arguments. -/
def withOptions (known : Options) (failure : Nat) (name : Chars) (arguments : List Chars)
    (use : List (Char × Chars) → List Chars → Action Nat) : Action Nat := do
  match known.readAll arguments.length arguments with
  | .ok (found, operands) => use found operands
  | .error text => do
    report name text
    tryHelp name
    return failure

/-- Whether an option is given. -/
def has (found : List (Char × Chars)) (c : Char) : Bool := found.any (·.1 = c)

/-- Complains that something more must be given. -/
def missingOperand (name : Chars) : Action Nat := do
  report name (chars "missing operand")
  tryHelp name
  return 1

/-- The text of the refusal behind a cause. -/
def reason (e : IoError) : Chars :=
  chars (match e with
    | .os e => e.text
    | e => e.message)

/-- All that a tool can read from its input. -/
def input : Action (Except OsError Chars) := do
  let s ← get
  match s.channel? 0 with
  | none => return .error .badDescriptor
  | some channel =>
    match s.machine.available channel with
    | .error e => return .error e
    | .ok text => do
      modify fun s => { s with machine := s.machine.consume channel text.length }
      return .ok text

/-- The contents of a file, or the input for a dash. -/
def contents (operand : Chars) : Action (Except OsError Chars) := do
  if operand = ['-'] then input
  else
    match openFile (← get) .read operand with
    | .error e => return .error e
    | .ok (s, channel) =>
      match s.machine.available channel with
      | .error e => return .error e
      | .ok text => do
        set { s with machine := s.machine.consume channel text.length }
        return .ok text

/-- The contents of all files, one after the other, with a message for each that cannot be read. The second
part is the status. -/
def allContents (name : Chars) (wording : Chars → Chars) (operands : List Chars) :
    Action (Chars × Nat) := do
  let parts ← (if operands.isEmpty then [['-']] else operands).mapM fun operand => do
    match ← contents operand with
    | .ok text => return some text
    | .error e => do
      report name (wording operand ++ chars (": " ++ e.text))
      return none
  return ((parts.filterMap id).flatten, if parts.all (·.isSome) then 0 else 1)

/-- The parts of a text up to each sign, with it. -/
def linesBy (sign : Char) (text : Chars) : List Chars :=
  let (done, last) := text.foldl (fun (done, line) c =>
    if c = sign then ((c :: line).reverse :: done, []) else (done, c :: line)) ([], [])
  (if last = [] then done else last.reverse :: done).reverse

/-- A line without the sign at its end. -/
def withoutSign (sign : Char) (line : Chars) : Chars :=
  if line.getLast? = some sign then line.dropLast else line

/-- The lines of a text, each with its end. -/
def lines (text : Chars) : List Chars := linesBy '\n' text

/-- Changes the files, or complains. The result is the status. -/
def change (name : Chars) (wording : Chars)
    (act : FileSystem → Location → Except IoError FileSystem) : Action Nat := do
  let s ← get
  match act s.files s.directory with
  | .ok files => do
    set { s with machine := { s.machine with files } }
    return 0
  | .error e => do
    report name (wording ++ chars ": " ++ reason e)
    return 1

/-- The greatest status of steps for several arguments. -/
def forEach (operands : List Chars) (step : Chars → Action Nat) : Action Nat := do
  return (← operands.mapM step).foldl max 0

end ConsumerCheck.Shell.Tools
