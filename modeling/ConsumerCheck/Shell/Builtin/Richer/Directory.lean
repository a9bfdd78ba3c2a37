import ConsumerCheck.Shell.Builtin.Directory
import ConsumerCheck.Shell.Builtin.Richer.Course

/-!
# The working directory in the richer shell

* `Richer.cd` — another working directory;
* `Richer.pushd`, `Richer.popd`, `Richer.dirs` — directories to which the script can go back;
* `Richer.umask` — the permissions that new files do not get.
-/

namespace ConsumerCheck.Shell.Builtin.Richer

/-- Why a directory cannot be the working directory. -/
def refusalAt (s : Session) (path : Chars) : OsError :=
  match s.files.locate s.directory (Session.path path) with
  | .error e => refusal e
  | .ok place =>
    match s.files.get? place with
    | none => .noEntry
    | some entry => if entry.isDirectory then .permissionDenied else .notDirectory

/-- Goes to a directory. If that is not possible, a complaint names it as it was given. -/
def goOrComplain (physical shows : Bool) (path shown : Chars) : Action Nat := do
  if ← goTo physical path then
    if shows then Action.sayLine (← get).shownDirectory
    return 0
  else
    let s ← get
    let target := if physical then path else logicalPath s.shownDirectory path
    Action.complain (shown ++ chars (": " ++ (refusalAt s target).text))
    return 1

/-- Goes to the directory that a variable names. -/
def goToValue (physical shows : Bool) (name : String) : Action Nat := do
  match (← get).stored? (chars name) with
  | none => do
    Action.complain (chars (name ++ " not set"))
    return 1
  | some path =>
    if path.isEmpty then
      let status ← goOrComplain physical false ['.'] path
      if shows then Action.sayLine path
      return status
    else goOrComplain physical shows path path

/-- The command `cd`. -/
def cd (arguments : List Chars) : Action Nat := do
  let (found, arguments) ← options "LPe@" arguments
  let physical := ((found.map (·.1)).filter (· ≠ 'e')).getLast? = some 'P'
  match arguments with
  | [] => goToValue physical false "HOME"
  | [['-']] => goToValue physical true "OLDPWD"
  | [[]] => goOrComplain physical false ['.'] []
  | [target] => do
    let s ← get
    let elsewhere :=
      if isFixed target then none
      else (directoriesFor s target).find? fun (_, path) => (directoryAt? s path).isSome
    match elsewhere with
    | some (dir, path) => goOrComplain physical (dir ≠ []) path target
    | none => goOrComplain physical false target target
  | _ => do
    Action.complain (chars "too many arguments")
    return 1

/-- A directory as it is listed, where the user's own one has a sign. -/
def listed (s : Session) (path : Chars) : Chars :=
  match s.stored? (chars "HOME") with
  | some home =>
    if home ≠ [] && home.isPrefixOf path && (path.length = home.length || path[home.length]? = some '/') then
      '~' :: path.drop home.length
    else path
  | none => path

/-- Lists the working directory and those to which the script can go back. -/
def listStack : Action Unit := do
  let s ← get
  Action.sayLine ([' '].intercalate ((s.shownDirectory :: s.stack).map (listed s)))

/-- The command `dirs`. -/
def dirs (arguments : List Chars) : Action Nat := do
  let (found, _) ← options "clpv" arguments
  let s ← get
  if has found 'c' then set { s with stack := [] }
  else
    let show_ := if has found 'l' then id else listed s
    let all := (s.shownDirectory :: s.stack).map show_
    if has found 'v' then
      all.zipIdx.forM fun (path, i) =>
        Action.sayLine (chars ((if i < 10 then " " else "") ++ toString i ++ "  ") ++ path)
    else if has found 'p' then all.forM Action.sayLine
    else Action.sayLine ([' '].intercalate all)
  return 0

/-- The command `pushd`. -/
def pushd (arguments : List Chars) : Action Nat := do
  let s ← get
  match arguments, s.stack with
  | [], [] => do
    Action.complain (chars "no other directory")
    return 1
  | [], top :: rest => do
    let status ← goOrComplain false false top top
    if status = 0 then
      modify fun t => { t with stack := s.shownDirectory :: rest }
      listStack
    return status
  | target :: _, stack => do
    let status ← goOrComplain false false target target
    if status = 0 then
      modify fun t => { t with stack := s.shownDirectory :: stack }
      listStack
    return status

/-- The command `popd`. -/
def popd (_ : List Chars) : Action Nat := do
  match (← get).stack with
  | [] => do
    Action.complain (chars "directory stack empty")
    return 1
  | top :: rest => do
    let status ← goOrComplain false false top top
    if status = 0 then
      modify fun t => { t with stack := rest }
      listStack
    return status

/-- The first character of permissions in letters that is wrong, and whether it stands where letters do. -/
def wrongSign (text : Chars) : Char × Bool :=
  let after := text.dropWhile fun c => "augo".toList.contains c
  match after with
  | sign :: rest =>
    if "=+-".toList.contains sign then
      ((rest.dropWhile fun c => "rwxXstugo,=+-".toList.contains c).headD '\x00', true)
    else (sign, false)
  | [] => ('\x00', false)

/-- The command `umask`. -/
def umask (arguments : List Chars) : Action Nat := do
  let (found, arguments) ← options "pS" arguments
  match arguments with
  | [] => do
    let s ← get
    let start := if has found 'p' then if has found 'S' then "umask -S " else "umask " else ""
    Action.sayLine (chars start ++
      if has found 'S' then permissionText (0o777 - s.mask) else octalText 4 s.mask)
    return 0
  | mode :: _ => do
    let before := (← get).mask
    if mode.head?.any Char.isDigit then
      let n := Text.numeral 8 mode
      if mode.all (Text.isDigitOf 8) && n ≤ 0o777 then
        modify fun s => { s with mask := n }
      else
        Action.complain (mode ++ chars ": octal number out of range")
        return 1
    else
      match changedBy (0o777 - before) (mode.length + 1) (0o777 - before) 0 mode with
      | some granted => modify fun s => { s with mask := 0o777 - granted }
      | none => do
        let (sign, amongLetters) := wrongSign mode
        Action.complain ('\x60' :: sign :: chars ("': invalid symbolic mode " ++
          if amongLetters then "character" else "operator"))
        return 1
    if has found 'S' then Action.sayLine (permissionText (0o777 - (← get).mask))
    return 0

end ConsumerCheck.Shell.Builtin.Richer
