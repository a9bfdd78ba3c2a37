import ConsumerCheck.Shell.Builtin.Arguments
import ConsumerCheck.Shell.Fields

/-!
# Variables, arguments and options of a script

* `Builtin.mark` — `export` and `readonly`;
* `Builtin.makeLocal`, `Builtin.enter`, `Builtin.leave` — what a function has made its own;
* `Builtin.unset`, `Builtin.configure`, `Builtin.shift`;
* `Builtin.getopts` — the options of a script, one after the other;
* `Builtin.read` — a line of input, as fields in variables.
-/

namespace ConsumerCheck.Shell.Builtin

/-- The name and the value of an argument such as `NAME=value`. -/
def nameAndValue (argument : Chars) : Chars × Option Chars :=
  let name := argument.takeWhile (· != '=')
  (name, if name.length < argument.length then some (argument.drop (name.length + 1)) else none)

/-- A variable as a line that the shell can read again. -/
def declaration (start : Chars) (name : Chars) (value : Option Chars) : Chars :=
  start ++ name ++ match value with
    | some value => '=' :: quoted value
    | none => []

/-- Names with what belongs to them, in the order of the names. -/
def byName (entries : List (Chars × α)) : List (Chars × α) :=
  entries.mergeSort fun a b => !(b.1 < a.1 : Bool)

/-- Marks a variable as one that commands see, or as one that cannot be set. -/
def markOne (readonly : Bool) (argument : Chars) : Action Unit := do
  let (name, value) := nameAndValue argument
  let s ← get
  match s.bindings.lookup name, value with
  | some v, none =>
    modify (·.withVariable name
      { v with exported := v.exported || !readonly, readonly := v.readonly || readonly })
  | known, value => do
    Action.checkName name
    match value with
    | some value => do
      Action.assign name value
      let v := ((← get).bindings.lookup name).getD (.ofValue value false false)
      modify (·.withVariable name
        { v with exported := v.exported || !readonly, readonly := v.readonly || readonly })
    | none =>
      if known.isNone then
        modify (·.withVariable name (.ofValue none (!readonly) readonly))

/-- The commands `export` and `readonly`. Without names they list what is marked. -/
def mark (name : Chars) (arguments : List Chars) : Action Nat := do
  let readonly := name = chars "readonly"
  let (found, names) ← options "p" arguments
  if found.isEmpty && !names.isEmpty then names.forM (markOne readonly)
  else
    let listed := (← get).bindings.filter fun (_, v) => if readonly then v.readonly else v.exported
    (byName listed).forM fun (n, v) =>
      Action.sayLine (declaration (name ++ [' ']) n v.value)
  return 0

/-- Makes a variable, or the modes, the own of the function that runs. -/
def makeLocal (exported : Bool) (argument : Chars) : Action Unit := do
  let s ← get
  match s.saved with
  | [] => pure ()
  | frame :: outer =>
    if argument = ['-'] then
      set { s with saved := { frame with modes := some (frame.modes.getD s.modes) } :: outer }
    else
      let (name, value) := nameAndValue argument
      let before := s.bindings.lookup name
      if before.isNone then Action.checkName name
      modify fun s =>
        { s with saved := { frame with bindings := (name, before) :: frame.bindings } :: outer }
      match value with
      | some value => do
        Action.assign name value
        if exported then
          modify fun s => s.assigned name value true
      | none => if before.isNone then modify (·.withVariable name (.ofValue none false false))

/-- The command `local`. -/
def localNames (arguments : List Chars) : Action Nat := do
  if (← get).saved.isEmpty then Action.fail (chars "not in a function")
  arguments.forM (makeLocal false)
  return 0

/-- Begins what can have variables of its own. -/
def enter : Action Unit := modify fun s => { s with saved := ⟨[], none⟩ :: s.saved }

/-- A variable as it was before. -/
def restored (s : Session) (name : Chars) (before : Option Variable) : Session :=
  match before with
  | none => { s with bindings := s.bindings.filter (·.1 ≠ name) }
  | some v =>
    let s := match v.value with
      | some value => s.assigned name value false
      | none => s
    s.withVariable name v

/-- Ends what can have variables of its own. They are again what they were before. -/
def leave : Action Unit :=
  modify fun s =>
    match s.saved with
    | [] => s
    | frame :: outer =>
      let s := { s with saved := outer, modes := frame.modes.getD s.modes }
      frame.bindings.foldl (fun s (name, before) => restored s name before) s

/-- The command `unset`. -/
def unset (arguments : List Chars) : Action Nat := do
  let (found, names) ← options "vf" arguments
  let functions := (found.getLast?.map (·.1)) = some 'f'
  names.forM fun name =>
    if functions then
      modify fun s => { s with functions := s.functions.filter (·.1 ≠ name) }
    else do
      Action.checkName name
      Action.forget name
  return 0

/-- Switches a mode on or off. -/
def switch (mode : Mode) (on : Bool) : Action Unit := do
  let other := match mode with
    | .viKeys => some Mode.emacsKeys
    | .emacsKeys => some .viKeys
    | _ => none
  modify fun s =>
    let modes := match other, on with
      | some other, true => Mode.set s.modes other false
      | _, _ => s.modes
    { s with modes := Mode.set modes mode on }

/-- Switches a mode on or off by its letter. -/
def switchLetter (c : Char) (on : Bool) : Action Unit := do
  match Mode.ofLetter? (← get).rich c with
  | some mode => switch mode on
  | none => do
    let (plain, rich) := (OptionFault.unknown c).messages (chars "set")
    let sign := if on then '-' else '+'
    Action.failWith plain (sign :: rich.tail) 2

/-- Switches a mode on or off by its name. Without a name it lists all modes. -/
def switchName (name : Option Chars) (on : Bool) : Action Unit := do
  match name with
  | some name =>
    match Mode.ofName? (← get).rich name with
    | some mode => switch mode on
    | none => Action.failWith (chars "Illegal option -o " ++ name) (name ++ chars ": invalid option name") 2
  | none => do
    let s ← get
    if on && !s.rich then Action.sayLine (chars "Current option settings")
    (Mode.tableOf s.rich).forM fun (mode, name, _) =>
      let name := chars name
      let state := chars (if s.has mode then "on" else "off")
      let line := if on then
          if s.rich then name ++ List.replicate (15 - name.length) ' ' ++ '\t' :: state
          else name ++ List.replicate (16 - name.length) ' ' ++ state
        else chars (if s.has mode then "set -o " else "set +o ") ++ name
      Action.sayLine line

/-- Switches modes by the letters of an argument; after the letter `o` a name follows as an argument of its
own. The result is the arguments that are left. -/
def switchAll (on : Bool) : Chars → List Chars → Action (List Chars)
  | [], rest => return rest
  | 'o' :: more, rest => do
    switchName rest.head? on
    switchAll on more rest.tail
  | c :: more, rest => do
    switchLetter c on
    switchAll on more rest

/-- Switches modes by the arguments that ask for it. The result is the new arguments of the script, if
there are any. -/
def switchFrom : Nat → List Chars → Action (Option (List Chars))
  | 0, _ => return none
  | _, [] => return none
  | n + 1, argument :: rest => do
    match argument with
    | ['-'] => do
      switch .tracing false
      switch .verbose false
      return if rest.isEmpty then none else some rest
    | ['-', '-'] => return some rest
    | '-' :: letters => switchFrom n (← switchAll true letters rest)
    | '+' :: letters => switchFrom n (← switchAll false letters rest)
    | _ => return some (argument :: rest)

/-- The complaint of a shell that is to be the master of a terminal. -/
def checkTerminal : Action Unit := do
  if (← get).has .monitor then
    Action.complain (chars "can't access tty; job control turned off")
    switch .monitor false

/-- Gives a script new arguments. -/
def giveArguments (arguments : List Chars) : Action Unit :=
  modify fun s => { s with arguments, optionIndex := 1, optionOffset := none }

/-- The command `set`. Without arguments it lists the variables. -/
def configure (arguments : List Chars) : Action Nat := do
  if arguments.isEmpty then
    let valued := (← get).bindings.filter (·.2.value.isSome)
    (byName valued).forM fun (name, v) => Action.sayLine (declaration [] name v.value)
  else
    let replaced ← switchFrom (arguments.length + 1) arguments
    checkTerminal
    match replaced with
    | some arguments => giveArguments arguments
    | none => pure ()
  return 0

/-- The command `shift`. -/
def shift (arguments : List Chars) : Action Nat := do
  let n ← firstNumber 1 arguments
  let s ← get
  if s.arguments.length < n then Action.fail (chars "can't shift that many")
  giveArguments (s.arguments.drop n)
  return 0

/-- How the next option of a script is found. -/
structure OptionSearch where
  /-- The letters that are known; a colon after one says that an argument belongs to it. -/
  known : Chars
  /-- Whether faults are handed to the script. -/
  quiet : Bool
  arguments : List Chars
  /-- The number of the argument after the one that is looked at. -/
  index : Nat

/-- What is found: the text for the variable, the value that belongs to it, the number of the next argument,
and how far the search has come inside the one before. -/
structure OptionFound where
  letter : Char
  /-- Nothing if the value is not touched. -/
  value : Option (Option Chars)
  index : Nat
  offset : Option Nat
  complaint : Option Chars
  ended : Bool

/-- The next option: `cs` are the characters that are left of an argument, and `offset` counts those
before. -/
def OptionSearch.next (o : OptionSearch) (offset : Nat) (cs : Chars) : OptionFound :=
  match cs with
  | [] => ⟨'?', none, o.index, none, none, true⟩
  | c :: rest =>
    let found (letter : Char) (value : Option Chars) (index : Nat) (offset : Option Nat)
        (complaint : Option Chars) : OptionFound :=
      ⟨letter, some value, index, offset, complaint, false⟩
    let further := some (offset + 1)
    match option? c o.known with
    | none =>
      if o.quiet then found '?' (some [c]) o.index further none
      else found '?' none o.index further (some (chars "Illegal option -" ++ [c, '\n']))
    | some false => found c (some []) o.index further none
    | some true =>
      if rest ≠ [] then found c (some rest) o.index none none
      else
        match o.arguments[o.index - 1]? with
        | some argument => found c (some argument) (o.index + 1) none none
        | none =>
          if o.quiet then found ':' (some [c]) o.index none none
          else found '?' none o.index none (some (chars "No arg for -" ++ c :: chars " option\n"))

/-- The command `getopts`. -/
def getopts (arguments : List Chars) : Action Nat := do
  let (_, arguments) ← options "" arguments
  match arguments with
  | known :: target :: given => do
    let s ← get
    let own := given.isEmpty
    let list := if own then s.arguments else given
    let (index, offset) :=
      if list.length + 1 < s.optionIndex then (1, none) else (s.optionIndex, s.optionOffset)
    let quiet := known.head? = some ':'
    let search : OptionSearch := ⟨if quiet then known.tail else known, quiet, list, index⟩
    let current := match offset with
      | some n => if 1 < index then ((list[index - 2]?).getD []).drop n else []
      | none => []
    let found :=
      if current ≠ [] then search.next (offset.getD 0) current
      else
        match list[index - 1]? with
        | some ['-', '-'] => ⟨'?', none, index + 1, none, none, true⟩
        | some ('-' :: c :: cs) => { search with index := index + 1 }.next 1 (c :: cs)
        | _ => ⟨'?', none, index, none, none, true⟩
    match found.complaint with
    | some text => Action.write 2 text
    | none => pure ()
    match found.value with
    | some (some value) => Action.assign (chars "OPTARG") value
    | some none => Action.forget (chars "OPTARG")
    | none => pure ()
    Action.assign (chars "OPTIND") (chars (toString found.index))
    Action.checkName target
    Action.assign target [found.letter]
    modify fun s => { s with optionIndex := found.index, optionOffset := found.offset }
    return if found.ended then 1 else 0
  | _ => Action.fail (chars "Usage: getopts optstring var [arg...]")

/-- A line of input. -/
structure InputLine where
  stretches : List Stretch
  /-- How many characters it takes, with its end. -/
  length : Nat
  /-- Whether it has an end. -/
  complete : Bool

namespace InputLine

/-- A line with a character before it. -/
def after (l : InputLine) (c : Char) : InputLine :=
  match l.stretches with
  | ⟨.atSeparators, glyphs⟩ :: more =>
    { l with stretches := ⟨.atSeparators, .plain c :: glyphs⟩ :: more, length := l.length + 1 }
  | stretches =>
    { l with stretches := ⟨.atSeparators, [.plain c]⟩ :: stretches, length := l.length + 1 }

/-- A line after characters that are not split, of which `length` were read. -/
def afterWhole (l : InputLine) (glyphs : List Glyph) (length : Nat) : InputLine :=
  { l with
    stretches := ⟨.atSeparators, []⟩ :: ⟨.whole, glyphs⟩ :: l.stretches
    length := l.length + length }

/-- The first line of a text, up to the character that ends it. Unless it is raw, a backslash lets the next character
stand for itself and joins two lines. -/
def read (raw : Bool) (finish : Char) : Chars → InputLine
  | [] => ⟨[⟨.atSeparators, []⟩], 0, false⟩
  | c :: rest =>
    if c = finish then ⟨[⟨.atSeparators, []⟩], 1, true⟩
    else if c = '\x00' then
      let l := read raw finish rest
      { l with length := l.length + 1 }
    else if c = '\\' ∧ !raw then
      match rest with
      | [] => ⟨[⟨.atSeparators, []⟩], 1, false⟩
      | '\n' :: more => (read raw finish more).afterWhole [] 2
      | d :: more => (read raw finish more).afterWhole [.escaped d] 2
    else (read raw finish rest).after c

end InputLine

/-- The command `read`. -/
def read (arguments : List Chars) : Action Nat := do
  let (found, names) ← options "p:r" arguments
  if names.isEmpty then Action.fail (chars "arg count")
  let s ← get
  let input : Chars := ((s.channel? 0).bind fun channel => (s.machine.available channel).toOption).getD []
  let line := InputLine.read (found.any (·.1 = 'r')) '\n' input
  match s.channel? 0 with
  | some channel => modify fun s => { s with machine := s.machine.consume channel line.length }
  | none => pure ()
  let texts := (fields s.separators false (some names.length) line.stretches).map Glyph.text
  (names.zip (texts ++ List.replicate names.length [])).forM fun (name, value) => do
    Action.checkName name
    Action.assign name value
  return if line.complete then 0 else 1

end ConsumerCheck.Shell.Builtin
