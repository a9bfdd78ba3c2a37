import ConsumerCheck.Shell.PermissionChange
import ConsumerCheck.Shell.Tools.Placing

/-!
# Tools for files

* `Tools.cat`, `Tools.touch`, `Tools.chmod` — files by their contents and permissions;
* `Tools.mkdir`, `Tools.rm` — directories and files made and taken away.
-/

namespace ConsumerCheck.Shell.Tools

/-- Lines with their numbers, from `n` on. Empty lines have none if only the others count. -/
def numbered (onlyFilled : Bool) (n : Nat) : List Chars → List Chars
  | [] => []
  | line :: rest =>
    if onlyFilled && line = ['\n'] then line :: numbered onlyFilled n rest
    else
      let number := chars (toString n)
      (List.replicate (6 - number.length) ' ' ++ number ++ '\t' :: line) ::
        numbered onlyFilled (n + 1) rest

/-- Lines of which at most one after the other is empty. -/
def withoutGaps : List Chars → List Chars
  | first :: second :: rest =>
    if first = ['\n'] ∧ second = ['\n'] then withoutGaps (second :: rest)
    else first :: withoutGaps (second :: rest)
  | rest => rest

/-- An octet as characters that can be seen. -/
def visible (c : Char) : Chars :=
  let low (n : Nat) : Chars :=
    if n < 32 then ['^', Char.ofNat (n + 64)] else if n = 127 then ['^', '?'] else [Char.ofNat n]
  if c = '\n' || c = '\t' then [c]
  else if c.toNat < 128 then low c.toNat else ['M', '-'] ++ low (c.toNat - 128)

/-- A text as `cat` shows it. -/
def shown (found : List (Char × Chars)) (text : Chars) : Chars :=
  let all := has found 'A'
  let lines := lines text
  let lines := if has found 's' then withoutGaps lines else lines
  let ends := lines.map fun line =>
    let line := if all || has found 'v' || has found 'e' || has found 't' then line.flatMap visible else line
    let line := if all || has found 'T' || has found 't' then
        line.flatMap fun c => if c = '\t' then ['^', 'I'] else [c]
      else line
    if (all || has found 'E' || has found 'e') && line.getLast? = some '\n' then line.dropLast ++ ['$', '\n']
    else line
  (if has found 'b' then numbered true 1 ends else if has found 'n' then numbered false 1 ends
    else ends).flatten

/-- The tool `cat`. -/
def cat (name : Chars) (arguments : List Chars) : Action Nat :=
  withOptions ⟨"AbeEnstTuv", [("show-all", 'A'), ("number-nonblank", 'b'), ("show-ends", 'E'),
    ("number", 'n'), ("squeeze-blank", 's'), ("show-tabs", 'T'), ("show-nonprinting", 'v')]⟩ 1
    name arguments fun found operands => do
    let plain := found.all (·.1 = 'u')
    let s ← get
    if (s.channel? 1).isNone then
      report name (chars ("standard output: " ++ OsError.badDescriptor.text))
      return 1
    let operands := if operands.isEmpty then [['-']] else operands
    let output := (s.channel? 1).bind s.machine.placeOf?
    let mut text : Chars := []
    let mut status := 0
    for operand in operands do
      let s ← get
      let place := if operand = ['-'] then (s.channel? 0).bind s.machine.placeOf?
        else (s.files.locate s.directory (Session.path operand)).toOption
      if place.isSome && place = output && !(place.map s.files.contentsAt = some []) then
        report name (operand ++ chars ": input file is output file")
        status := 1
        continue
      match ← contents operand with
      | .ok more =>
        if plain then Action.say more else text := text ++ more
      | .error e =>
        report name (operand ++ chars (": " ++ e.text))
        status := 1
    if !plain then Action.say (shown found text)
    if operands.contains ['-'] && (s.channel? 0).isNone then
      report name (chars ("closing standard input: " ++ OsError.badDescriptor.text))
    return status

/-- The tool `touch`. -/
def touch (name : Chars) (arguments : List Chars) : Action Nat :=
  withOptions ⟨"acfhmd:r:t:", [("no-create", 'c'), ("date", 'd'), ("reference", 'r')]⟩ 1 name arguments fun found operands => do
    if operands.isEmpty then
      report name (chars "missing file operand")
      tryHelp name
      return 1
    else
      let permissions := (← get).filePermissions
      forEach operands fun operand =>
        change name (chars "cannot touch " ++ named operand) fun fs wd =>
          let p := Session.path operand
          if fs.exists_ wd p || has found 'c' then .ok fs
          else fs.appendFile wd permissions p []

/-- Whether an argument of `chmod` is a mode though it begins like an option. -/
def isDashedMode (argument : Chars) : Bool :=
  match argument with
  | '-' :: c :: _ => "rwxXstugoa,+=01234567".toList.contains c
  | _ => false

/-- What `chmod` does to one file: its permissions are changed, and it is told if that is asked for. `surprises`
says that the mode looked like an option, so that permissions which the mask has spared are reported. -/
def changePermissions (name : Chars) (found : List (Char × Chars)) (change : PermissionChange)
    (surprises : Bool) (path : Chars) (place : Location) : Action Nat := do
  let s ← get
  match s.files.get? place with
  | none | some (.link _) => return 0
  | some entry =>
    let before := entry.permissions
    let after := change.apply entry.isDirectory s.mask before
    set { s with machine := { s.machine with files := s.files.permit place after } }
    let inWords (p : Permissions) : String := p.octal ++ " (" ++ p.letters ++ ")"
    if before ≠ after && (has found 'v' || has found 'c') then
      Action.say (chars "mode of " ++ named path ++
        chars (" changed from " ++ inWords before ++ " to " ++ inWords after ++ "\n"))
    else if has found 'v' then
      Action.say (chars "mode of " ++ named path ++ chars (" retained as " ++ inWords after ++ "\n"))
    let expected := change.apply entry.isDirectory 0 before
    if surprises && PermissionChange.less after.bits expected.bits ≠ 0 then
      report name (path ++ chars (": new permissions are " ++ after.letters ++ ", not " ++ expected.letters))
      return 1
    else return 0

/-- The same for all below a directory, as far as its names can be read. -/
def changeBelow (name : Chars) (found : List (Char × Chars))
    (step : Chars → Location → Action Nat) : Nat → Chars → Location → Action Nat
  | 0, _, _ => return 0
  | n + 1, path, place => do
    let s ← get
    match s.files.get? place with
    | some (.directory permissions) =>
      if !permissions.mayRead then
        report name (chars "cannot read directory " ++ named path ++ chars ": Permission denied")
        return 1
      else
        forEach (namesAt s.files place) fun inner => do
          let path := inside path inner
          let place := place ++ [toOctets inner]
          if !permissions.mayEnter then
            if !has found 'f' then
              report name (chars "cannot access " ++ named path ++ chars ": Permission denied")
            return 1
          else
            let status ← step path place
            return max status (← changeBelow name found step n path place)
    | _ => return 0

/-- The tool `chmod`. -/
def chmod (name : Chars) (arguments : List Chars) : Action Nat := do
  let (front, behind) := arguments.span (· ≠ ['-', '-'])
  let (modes, front) := front.partition isDashedMode
  withOptions ⟨"Rfcv", [("recursive", 'R'), ("silent", 'f'), ("quiet", 'f'), ("changes", 'c'),
    ("verbose", 'v')]⟩ 1 name (front ++ behind) fun found operands => do
    let (mode, operands) :=
      if modes = [] then (operands.head?, operands.tail)
      else (some ([','].intercalate modes), operands)
    match mode, operands with
    | none, _ => missingOperand name
    | some mode, [] => do
      report name (chars "missing operand after " ++ named mode)
      tryHelp name
      return 1
    | some mode, operands =>
      match PermissionChange.ofText? mode with
      | none => do
        report name (chars "invalid mode: " ++ named mode)
        tryHelp name
        return 1
      | some change =>
        let step := changePermissions name found change (modes ≠ [])
        forEach operands fun operand => do
          let s ← get
          let p := Session.path operand
          match s.files.locate s.directory p with
          | .error e =>
            let dangles := (s.files.locateLink s.directory p).isOk
            let failure := if dangles then chars "cannot operate on dangling symlink " ++ named operand
              else chars "cannot access " ++ named operand ++ chars ": " ++ reason e
            if !has found 'f' then report name failure
            return 1
          | .ok place =>
            let status ← step operand place
            if has found 'R' then
              return max status (← changeBelow name found step (s.files.entries.length + 1) operand place)
            else return status

/-- The tool `mkdir`. -/
def mkdir (name : Chars) (arguments : List Chars) : Action Nat :=
  withOptions ⟨"pm:v", [("parents", 'p'), ("mode", 'm'), ("verbose", 'v')]⟩ 1 name arguments
    fun found operands => do
      let s ← get
      let mode := (found.reverse.find? fun (c, _) => c == 'm').map (·.2)
      let permissions? : Option Permissions := match mode with
        | none => some s.directoryPermissions
        | some mode => (PermissionChange.ofText? mode).map fun change => change.apply true s.mask ⟨0o777⟩
      match permissions?, operands with
      | _, [] => missingOperand name
      | none, _ => do
        report name (chars "invalid mode " ++ named (mode.getD []))
        return 1
      | some permissions, operands =>
        forEach operands fun operand => do
          let s ← get
          let p := Session.path operand
          let made (path : Chars) : Action Unit :=
            if has found 'v' then
              Action.say (name ++ chars ": created directory " ++ named path ++ ['\n'])
            else pure ()
          let keep (files : FileSystem) : Action Unit :=
            modify fun s => { s with machine := { s.machine with files } }
          if has found 'p' then
            let missing := ((p :: p.ancestors).filter fun q =>
              q.octets ≠ [] && !s.files.exists_ s.directory q).reverse
            let open_ : Permissions := ⟨s.directoryPermissions.bits ||| 0o300⟩
            let (above, files) := if missing.length ≤ 1 then (.ok (), s.files)
              else FileSystem.makeChain s.directory open_ p.ancestors s.files
            let (outcome, files) := match above with
              | .ok () => FileSystem.makeChain s.directory permissions [p] files
              | .error e => (.error e, files)
            keep files
            match outcome with
            | .ok () =>
              missing.forM fun q => made (ofOctets q.octets)
              return 0
            | .error e =>
              let blocked := ((p :: p.ancestors).find? fun q => files.isFile s.directory q).getD p
              report name (chars "cannot create directory " ++ named (ofOctets blocked.octets) ++
                chars ": " ++ reason e)
              return 1
          else
            let status ← change name (chars "cannot create directory " ++ named operand) fun fs wd =>
              fs.makeDirectory wd permissions p
            if status = 0 then made operand
            return status

/-- Takes away what is at a place, and all below it. What may not be taken away stays, and so do the directories
above it. The result says whether all is gone. -/
def removeAll (name : Chars) (found : List (Char × Chars)) : Nat → Chars → Location → Action Bool
  | 0, _, _ => return false
  | n + 1, path, place => do
    let s ← get
    let denied : Action Bool := do
      report name (chars "cannot remove " ++ named path ++ chars ": Permission denied")
      return false
    let gone (kind : String) : Action Bool := do
      let s ← get
      if !s.files.mayChangeAt place.dropLast then denied
      else
        set { s with machine := { s.machine with files := s.files.remove place } }
        if has found 'v' then Action.say (chars kind ++ named path ++ ['\n'])
        return true
    match s.files.get? place with
    | some (.directory permissions) =>
      let inner := namesAt s.files place
      if !permissions.mayRead && inner ≠ [] then denied
      else
        let below ← inner.mapM fun inner => removeAll name found n (inside path inner) (place ++ [toOctets inner])
        if below.all id then gone "removed directory " else return false
    | _ => gone "removed "

/-- The tool `rm`. -/
def rm (name : Chars) (arguments : List Chars) : Action Nat :=
  withOptions ⟨"rRfdv", [("recursive", 'r'), ("force", 'f'), ("dir", 'd'), ("verbose", 'v')]⟩ 1 name arguments
    fun found operands => do
      let deep := has found 'r' || has found 'R'
      let force := has found 'f'
      if operands.isEmpty && !force then missingOperand name
      else
        forEach operands fun operand => do
          let s ← get
          let p := Session.path operand
          let refuse (e : OsError) : Action Nat := do
            report name (chars "cannot remove " ++ named operand ++ chars (": " ++ e.text))
            return 1
          let remove (place : Location) : Action Nat := do
            return if ← removeAll name found (s.files.entries.length + 1) operand place then 0 else 1
          let last := (p.fileName.map ofOctets).getD []
          match s.files.locateLink s.directory p with
          | .error (.os e) =>
            if force && (e = .noEntry || e = .notDirectory) then return 0 else refuse e
          | .error _ => refuse .noEntry
          | .ok place =>
            if s.files.isDirectoryAt place then
              if deep && place = [] then
                report name (chars "it is dangerous to operate recursively on " ++ named operand)
                report name (chars "use --no-preserve-root to override this failsafe")
                return 1
              else if deep && (last = [] || last = ['.'] || last = ['.', '.']) then
                report name (chars "refusing to remove '.' or '..' directory: skipping " ++ named operand)
                return 1
              else if deep then remove place
              else if has found 'd' then
                if (s.files.below place).isEmpty then remove place else refuse .notEmpty
              else refuse .isDirectory
            else remove place

end ConsumerCheck.Shell.Tools
