import ConsumerCheck.Shell.Builtin.Arguments

/-!
# The working directory

* `Builtin.cd`, `Builtin.pwd` — another working directory, and its name;
* `Builtin.logicalPath` — a path from the working directory as the script has named it;
* `Builtin.umask` — the permissions that new files do not get.
-/

namespace ConsumerCheck.Shell.Builtin

/-- The pieces of a path between its slashes. -/
def piecesOf (path : Chars) : List Chars :=
  ((Path.splitAt Path.slash (toOctets path)).filter (· ≠ [])).map ofOctets

/-- The names of a path after further pieces, where `..` takes the last name away. -/
def walkNames (names pieces : List Chars) : List Chars :=
  pieces.foldl (fun names piece =>
    if piece = ['.'] then names
    else if piece = ['.', '.'] then names.dropLast
    else names ++ [piece]) names

/-- Names as an absolute path. -/
def absolute (start : Chars) (names : List Chars) : Chars := start ++ ['/'].intercalate names

/-- A path, absolute and without `.` and `..`, from the working directory as the script has named it. -/
def logicalPath (shown path : Chars) : Chars :=
  let doubled (p : Chars) : Bool := p.take 2 = ['/', '/'] && (p.drop 2).head? ≠ some '/'
  match path with
  | '/' :: _ => absolute (if doubled path then ['/', '/'] else ['/']) (walkNames [] (piecesOf path))
  | _ =>
    let start := if shown.take 2 = ['/', '/'] then ['/', '/'] else ['/']
    absolute start (walkNames (piecesOf shown) (piecesOf path))

/-- A location as a path. -/
def pathOf (place : Location) : Chars := '/' :: ofOctets (Path.joinWith Path.slash place)

/-- The location of the directory that a path leads to. -/
def directoryAt? (s : Session) (path : Chars) : Option Location :=
  match s.files.locate s.directory (Session.path path) with
  | .ok place => if s.files.isDirectoryAt place then some place else none
  | .error _ => none

/-- Sets a variable that commands see. -/
def setSeen (name value : Chars) : Action Unit := do
  Action.assign name value
  modify (·.assigned name value true)

/-- Goes to a directory, and says whether there is one. -/
def goTo (physical : Bool) (path : Chars) : Action Bool := do
  let s ← get
  let target := if physical then path else logicalPath s.shownDirectory path
  match (directoryAt? s target).filter fun place =>
      (s.files.permissionsAt? place).any Permissions.mayEnter with
  | none => return false
  | some place => do
    setSeen (chars "OLDPWD") s.shownDirectory
    let shown := if physical then pathOf place else target
    modify fun s =>
      { s with
        directory := place
        shownDirectory := shown
        located := s.located.map fun (name, l) => (name, { l with stale := true }) }
    setSeen (chars "PWD") shown
    return true

/-- Whether a path is not looked for in other directories. -/
def isFixed (path : Chars) : Bool :=
  path.head? = some '/' || [['.'], ['.', '.']].contains (path.takeWhile (· != '/'))

/-- The directories in which a path is looked for, each with the path in it. -/
def directoriesFor (s : Session) (path : Chars) : List (Chars × Chars) :=
  match s.stored? (chars "CDPATH") with
  | none => []
  | some list =>
    (Path.splitAt 0x3A (toOctets list)).map fun dir =>
      let dir := ofOctets dir
      (dir, if dir = [] then path else dir ++ '/' :: path)

/-- The command `cd`. -/
def cd (arguments : List Chars) : Action Nat := do
  let (found, arguments) ← options "LP" arguments
  let physical := (found.getLast?.map (·.1)) = some 'P'
  let s ← get
  let back := arguments.head? = some ['-']
  let target := match arguments with
    | [] => (s.stored? (chars "HOME")).getD []
    | a :: _ => if back then (s.stored? (chars "OLDPWD")).getD [] else a
  let elsewhere :=
    if isFixed target then none
    else
      let path := if target = [] then ['.'] else target
      (directoriesFor s path).find? fun (_, path) => (directoryAt? s path).isSome
  let (path, shows) := match elsewhere with
    | some (dir, path) => (path, back || dir ≠ [])
    | none => (if target = [] then ['.'] else target, back)
  if ← goTo physical path then
    if shows then Action.sayLine (← get).shownDirectory
    return 0
  else Action.fail (chars "can't cd to " ++ target)

/-- The command `pwd`. -/
def pwd (arguments : List Chars) : Action Nat := do
  let (found, _) ← options "LP" arguments
  let s ← get
  Action.sayLine
    (if (found.getLast?.map (·.1)) = some 'P' then pathOf s.directory else s.shownDirectory)
  return 0

/-- Whether a bit of a number is set. -/
def hasBit (n bit : Nat) : Bool := n / bit % 2 == 1

/-- Permissions in letters. -/
def permissionText (granted : Nat) : Chars :=
  let part (c : Char) (bits : Nat) : Chars :=
    c :: '=' :: ([('r', 4), ('w', 2), ('x', 1)].filterMap fun (letter, bit) =>
      if hasBit bits bit then some letter else none)
  [','].intercalate [part 'u' (granted / 64), part 'g' (granted / 8), part 'o' granted]

/-- A number in octal digits, at least so many. -/
def octalText (width n : Nat) : Chars :=
  let digits := Nat.toDigits 8 n
  List.replicate (width - digits.length) '0' ++ digits

/-- The bits of letters, where `granted` is what is granted already. -/
def letterBits (granted : Nat) (letters : Chars) : Nat :=
  letters.foldl (fun bits c =>
    bits ||| (match c with
      | 'r' => 4
      | 'w' => 2
      | 'x' => 1
      | 'u' => granted / 64
      | 'g' => granted / 8
      | 'o' => granted
      | 'X' => if granted &&& 0o111 = 0 then 0 else 1
      | _ => 0)) 0 % 8

/-- Permissions after a change that is written in letters. `before` is what was granted at first, `who` the
classes of users that the change is about. -/
def changedBy (before : Nat) : Nat → (granted who : Nat) → Chars → Option Nat
  | 0, granted, _, _ => some granted
  | _, granted, _, [] => some granted
  | n + 1, granted, who, text =>
    let classes := text.takeWhile fun c => "augo".toList.contains c
    let who := classes.foldl (fun who c =>
      who ||| (match c with
        | 'a' => 0o111
        | 'u' => 0o100
        | 'g' => 0o010
        | _ => 0o001)) who
    let who := if who = 0 then 0o111 else who
    match text.drop classes.length with
    | sign :: rest =>
      if "=+-".toList.contains sign then
        let letters := rest.takeWhile fun c => "rwxugoXs".toList.contains c
        let bits := letterBits before letters * who
        let granted :=
          if sign = '-' then granted - (granted &&& bits)
          else if sign = '+' then granted ||| bits
          else (granted - (granted &&& (who * 7))) ||| bits
        match rest.drop letters.length with
        | [] => some granted
        | ',' :: more => changedBy before n granted 0 more
        | c :: more =>
          if "=+-".toList.contains c then changedBy before n granted who (c :: more) else none
      else none
    | [] => none

/-- The command `umask`. -/
def umask (arguments : List Chars) : Action Nat := do
  let (found, arguments) ← options "S" arguments
  let s ← get
  match arguments with
  | [] =>
    if found.isEmpty then Action.sayLine (octalText 4 s.mask)
    else Action.sayLine (permissionText (0o777 - s.mask))
  | mode :: _ =>
    if mode.head?.any Char.isDigit then
      if mode.all (Text.isDigitOf 8) then
        modify fun s => { s with mask := Text.numeral 8 mode % 0o1000 }
      else badNumber mode
    else
      match changedBy (0o777 - s.mask) (mode.length + 1) (0o777 - s.mask) 0 mode with
      | some granted => modify fun s => { s with mask := 0o777 - granted }
      | none => Action.fail (chars "Illegal mode: " ++ mode)
  return 0

end ConsumerCheck.Shell.Builtin
