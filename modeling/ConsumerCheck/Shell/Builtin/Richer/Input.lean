import ConsumerCheck.Shell.Builtin.Declaration

/-!
# Input and options of a script in the richer shell

* `Richer.read` — a line of input, as fields in variables;
* `Richer.mapfile` — all lines of input, as a list;
* `Richer.getopts` — the options of a script, one after the other.
-/

namespace ConsumerCheck.Shell.Builtin.Richer

/-- Sets a variable, and says whether that was possible. -/
def store (name value : Chars) : Action Bool := do
  if !isName name then
    Action.complain ('\x60' :: name ++ chars "': not a valid identifier")
    return false
  else if isFixedVariable (← get) name then
    Action.outsideCommand (Action.complain (name ++ chars ": readonly variable"))
    return false
  else
    modify (·.assigned name value false)
    return true

/-- Sets variables, up to the first one where that is not possible. -/
def storeAll : List (Chars × Chars) → Action Bool
  | [] => return true
  | (name, value) :: rest => do
    if ← store name value then storeAll rest else return false

/-- Sets a list. -/
def storeList (name : Chars) (values : List Chars) : Action Bool := do
  if ← store name [] then
    modify (·.withList name (values.zipIdx.map fun (value, i) => (i, value)))
    return true
  else return false

/-- A number that an option is given. -/
def numberOf (found : List (Char × Chars)) (c : Char) : Except Chars (Option Nat) :=
  match found.reverse.lookup c with
  | none => .ok none
  | some text =>
    match Number.argument? text with
    | some n => .ok (some n)
    | none => .error text

/-- Whether a text says how long something may take. -/
def isTimeout (text : Chars) : Bool :=
  let (whole, part) := (text.takeWhile Char.isDigit, text.dropWhile Char.isDigit)
  match part with
  | [] => whole ≠ []
  | '.' :: digits => digits.all Char.isDigit && !(whole.isEmpty && digits.isEmpty)
  | _ => false

/-- What a descriptor has to offer. -/
def offered (s : Session) (descriptor : Nat) : Chars :=
  ((s.channel? descriptor).bind fun channel => (s.machine.available channel).toOption).getD []

/-- Takes so many characters from a descriptor. -/
def take (descriptor count : Nat) : Action Unit :=
  modify fun s =>
    match s.channel? descriptor with
    | some channel => { s with machine := s.machine.consume channel count }
    | none => s

/-- The command `read`. -/
def read (arguments : List Chars) : Action Nat := do
  let (found, names) ← options "a:d:ei:n:N:p:rst:u:" arguments
  let refuse (text : Chars) (words : String) : Action Nat := do
    Action.complain (text ++ chars words)
    return 1
  match numberOf found 'n', numberOf found 'N', numberOf found 'u', found.reverse.lookup 't' with
  | .error text, _, _, _ | _, .error text, _, _ => refuse text ": invalid number"
  | _, _, .error text, _ => refuse text ": invalid file descriptor specification"
  | .ok limit, .ok exact, .ok from_, timeout =>
    let descriptor := from_.getD 0
    let s ← get
    if timeout.any fun text => !isTimeout text then
      refuse (timeout.getD []) ": invalid timeout specification"
    else if (s.channel? descriptor).isNone then
      refuse (chars (toString descriptor)) ": invalid file descriptor: Bad file descriptor"
    else if (names.head?.any fun name => !isName name) then
      refuse ('\x60' :: names.headD []) "': not a valid identifier"
    else
      let input := offered s descriptor
      let raw := has found 'r'
      let finish := if exact.isSome then '\uffff' else
        match found.reverse.lookup 'd' with
        | none => '\n'
        | some text => text.headD '\x00'
      let count := exact.orElse fun _ => limit
      let line := InputLine.read raw finish (match count with
        | none => input
        | some n => input.take n)
      take descriptor line.length
      let filled := count.any fun n => n ≤ line.length
      let whole := Stretch.text line.stretches
      let stored ← match found.reverse.lookup 'a', names with
        | some name, _ => storeList name ((fields s.separators true none line.stretches).map Glyph.text)
        | none, [] => store (chars "REPLY") whole
        | none, name :: others =>
          if exact.isSome then storeAll ((name, whole) :: others.map fun name => (name, []))
          else
            let texts := (fields s.separators true (some names.length) line.stretches).map Glyph.text
            storeAll (names.zip (texts ++ List.replicate names.length []))
      return if stored && (line.complete || filled) then 0 else 1

/-- The lines of a text. Each ends with a character, which is kept unless it is to be dropped. -/
def linesOf (finish : Char) (bare : Bool) : Chars → List Chars
  | [] => []
  | c :: rest =>
    if c = finish then (if bare then [] else [c]) :: linesOf finish bare rest
    else
      match rest, linesOf finish bare rest with
      | [], _ => [[c]]
      | _, first :: more => (c :: first) :: more
      | _, [] => [[c]]

/-- The command `mapfile`. -/
def mapfile (arguments : List Chars) : Action Nat := do
  let (found, names) ← options "C:c:d:n:O:s:tu:" arguments
  match numberOf found 'n', numberOf found 's', numberOf found 'u', numberOf found 'O' with
  | .ok count, .ok skipped, .ok from_, .ok origin => do
    let descriptor := from_.getD 0
    let input := offered (← get) descriptor
    let finish := match found.reverse.lookup 'd' with
      | none => '\n'
      | some text => text.headD '\x00'
    let lines := (linesOf finish false input).drop (skipped.getD 0)
    let lines := match count with
      | none | some 0 => lines
      | some n => lines.take n
    let bare := has found 't'
    let cut (line : Chars) : Chars := if bare && line.getLast? = some finish then line.dropLast else line
    take descriptor input.length
    let name := names.headD (chars "MAPFILE")
    let before ← if origin.isSome then do pure ((← get).elements name) else pure []
    let placed := (lines.map cut).zipIdx.map fun (line, i) => (i + origin.getD 0, line)
    if ← store name [] then
      modify (·.withList name (placed.foldl (fun all (n, line) => Session.putAt n line all) before))
      return 0
    else return 1
  | .error text, _, _, _ | _, .error text, _, _ => do
    Action.complain (text ++ chars ": invalid line count")
    return 1
  | _, _, .error text, _ => do
    Action.complain (text ++ chars ": invalid file descriptor specification")
    return 1
  | _, _, _, .error text => do
    Action.complain (text ++ chars ": invalid array origin")
    return 1

/-- The command `getopts`. The number that is kept is that of the argument that is looked at next, which is the
same one as long as letters are left in it. -/
def getopts (arguments : List Chars) : Action Nat := do
  let (_, arguments) ← options "" arguments
  match arguments with
  | known :: target :: given => do
    let s ← get
    let list := if given.isEmpty then s.arguments else given
    let quiet := known.head? = some ':'
    let letters := if quiet then known.tail else known
    let complains := !quiet && (s.stored? (chars "OPTERR")) ≠ some ['0']
    let finish (ended : Bool) (letter : Char) (value : Option Chars) (index : Nat) (offset : Option Nat) :
        Action Nat := do
      match value with
      | some value => modify (·.assigned (chars "OPTARG") value false)
      | none => if !ended then modify (·.withoutVariable (chars "OPTARG"))
      modify (·.assigned (chars "OPTIND") (chars (toString index)) false)
      let stored ← store target [letter]
      modify fun s => { s with optionIndex := index, optionOffset := offset }
      return if ended || !stored then 1 else 0
    let index := max 1 s.optionIndex
    let argument := (list[index - 1]?).getD []
    let offset := s.optionOffset.getD 1
    match argument with
    | ['-', '-'] => finish true '?' none (index + 1) none
    | '-' :: _ :: _ =>
      match argument.drop offset with
      | [] => finish true '?' none index none
      | c :: more => do
        let (index, after) := if more.isEmpty then (index + 1, none) else (index, some (offset + 1))
        let name := s.name
        match if c = ':' then none else option? c letters with
        | none => do
          if complains then Action.write 2 (name ++ chars ": illegal option -- " ++ [c, '\n'])
          finish false '?' (if quiet then some [c] else none) index after
        | some false => finish false c none index after
        | some true =>
          if !more.isEmpty then finish false c (some more) (index + 1) none
          else
            match list[index - 1]? with
            | some value => finish false c (some value) (index + 1) none
            | none => do
              if complains then
                Action.write 2 (name ++ chars ": option requires an argument -- " ++ [c, '\n'])
              finish false (if quiet then ':' else '?') (if quiet then some [c] else none) index none
    | _ => finish true '?' none index none
  | _ => do
    Action.write 2 (chars "getopts: " ++ usageOf (chars "getopts") ++ ['\n'])
    return 2

end ConsumerCheck.Shell.Builtin.Richer
