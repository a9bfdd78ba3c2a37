import ConsumerCheck.Shell.Tools.Arguments

/-!
# Tools for the places of files

* `Tools.lastName`, `Tools.directoryName` — the parts of a path;
* `Tools.copy`, `Tools.move`, `Tools.link` — files that get another place, or one more (`cp`, `mv`, `ln`);
* `Tools.rmdir`, `Tools.readlink` — directories that are taken away, and where links lead;
* `Tools.list` — the names in directories (`ls`).
-/

namespace ConsumerCheck.Shell.Tools

/-- A text without the slashes at its end. -/
def withoutSlashes (path : Chars) : Chars := (path.reverse.dropWhile (· == '/')).reverse

/-- The last name of a path. -/
def lastName (path : Chars) : Chars :=
  let bare := withoutSlashes path
  if bare = [] then path.take 1 else (bare.reverse.takeWhile (· != '/')).reverse

/-- The path of the directory that holds the last name of a path. -/
def directoryName (path : Chars) : Chars :=
  let bare := withoutSlashes path
  if bare = [] then (if path = [] then ['.'] else ['/'])
  else if bare.contains '/' then
    let above := withoutSlashes (bare.reverse.dropWhile (· != '/')).reverse
    if above = [] then ['/'] else above
  else ['.']

/-- The path of a name in a directory. -/
def inside (directory name : Chars) : Chars :=
  (if directory.getLast? = some '/' then directory else directory ++ ['/']) ++ name

/-- A complaint about one argument. -/
def refuse (name wording : Chars) (e : IoError) : Action Nat := do
  report name (wording ++ chars ": " ++ reason e)
  return 1

/-- What a tool does with several files, each of which goes to the last argument, or into the directory that
it is. -/
def eachInto (name : Chars) (operands : List Chars) (step : Chars → Chars → Action Nat) :
    Action Nat := do
  match operands.reverse with
  | [] => do
    report name (chars "missing file operand")
    tryHelp name
    return 1
  | [only] => do
    report name (chars "missing destination file operand after " ++ named only)
    tryHelp name
    return 1
  | last :: sources =>
    let s ← get
    if s.files.isDirectory s.directory (Session.path last) then
      forEach sources.reverse fun source => step source (inside last (lastName source))
    else
      match sources with
      | [source] => step source last
      | _ =>
        let why : OsError := if s.files.exists_ s.directory (Session.path last) then .notDirectory
          else .noEntry
        refuse name (chars "target " ++ named last) (.os why)

/-- The place that a path names, whether anything is there or not. -/
def placeNamed (fs : FileSystem) (wd : Location) (path : Chars) : Except IoError Location := do
  match ← fs.walk wd .itself (Session.path (if withoutSlashes path = [] then path else withoutSlashes path)) with
  | .found place => .ok place
  | .missing dir name _ => .ok (dir ++ [name])
  | _ => .error (.os .noEntry)

/-- The files with all that lies at one place moved to another one, where nothing is. -/
def moveAll (fs : FileSystem) (source place : Location) : FileSystem :=
  match fs.get? source with
  | none => fs
  | some entry =>
    let moved := (fs.below source).foldl (fun fs' (names, entry) => fs'.put (place ++ names) entry)
      (fs.put place entry)
    let shift (p : Location) : Location :=
      if source.isPrefixOf p then place ++ p.drop source.length else p
    { moved.remove source with shared := fs.shared.map (·.map shift) }

/-- A message of a tool that says what it does. -/
def tell (found : List (Char × Chars)) (text : Chars) : Action Unit :=
  if has found 'v' then Action.say (text ++ ['\n']) else pure ()

/-- Sets the files. -/
def setFiles (files : FileSystem) : Action Unit :=
  modify fun s => { s with machine := { s.machine with files } }

/-- The names in a directory, in order. -/
def namesAt (fs : FileSystem) (place : Location) : List Chars :=
  ordered ((Glob.namesIn fs place).filter fun name => name ≠ ['.'] && name ≠ ['.', '.'])

/-- Whether permissions are kept in a copy. -/
def keepsPermissions (found : List (Char × Chars)) : Bool := has found 'p' || has found 'a'

/-- Copies the contents of a file or a device. -/
def copyContents (name : Chars) (found : List (Char × Chars)) (entry : Entry) (source dest : Chars)
    (place : Location) : Action Nat := do
  let s ← get
  let fs := s.files
  let done (fs : FileSystem) (target : Location) (fresh : Bool) : Action Nat := do
    let contents := match entry with
      | .file contents _ => contents
      | _ => []
    let permissions := if keepsPermissions found then entry.permissions
      else ⟨entry.permissions.bits &&& 0o777⟩
    let written := fs.write target contents
      (if keepsPermissions found then permissions else permissions.without s.mask)
    setFiles (if keepsPermissions found && !fresh then written.permit target permissions else written)
    tell found (named source ++ chars " -> " ++ named dest)
    return 0
  if !entry.permissions.mayRead then
    refuse name (chars "cannot open " ++ named source ++ chars " for reading") (.os .permissionDenied)
  else
    match fs.target s.directory (Session.path dest) with
    | .ok target =>
      if (fs.locationsOf place).contains target then do
        report name (named source ++ chars " and " ++ named dest ++ chars " are the same file")
        return 1
      else if has found 'n' && (fs.get? target).isSome then return 0
      else done fs target (fs.get? target).isNone
    | .error e =>
      if fs.isDirectory s.directory (Session.path dest) then do
        report name (chars "cannot overwrite directory " ++ named dest ++ chars " with non-directory")
        return 1
      else
        let e : IoError := if dest.getLast? = some '/' then .os .notDirectory else e
        match placeNamed fs s.directory dest with
        | .ok target =>
          if has found 'f' && (fs.get? target).isSome && fs.mayChangeAt target.dropLast then
            done (fs.remove target) target true
          else refuse name (chars "cannot create regular file " ++ named dest) e
        | .error _ => refuse name (chars "cannot create regular file " ++ named dest) e

/-- Copies what lies at a place, and all below it. -/
def copyDeep (name : Chars) (found : List (Char × Chars)) :
    Nat → Chars → Chars → Location → Action Nat
  | 0, _, _, _ => return 1
  | n + 1, source, dest, place => do
    let s ← get
    let fs := s.files
    let failure := chars "cannot create directory " ++ named dest
    match fs.get? place, placeNamed fs s.directory dest with
    | none, _ => return 0
    | some (.directory _), .error e => refuse name failure e
    | some (.directory permissions), .ok target =>
      if place.isPrefixOf target then do
        report name (chars "cannot copy a directory, " ++ named source ++ chars ", into itself, " ++
          named dest)
        return 1
      else if (fs.get? target).isSome && !fs.isDirectoryAt target then do
        report name (chars "cannot overwrite non-directory " ++ named dest ++
          chars " with directory " ++ named source)
        return 1
      else
        let fresh := (fs.get? target).isNone
        if fresh && !fs.mayChangeAt target.dropLast then refuse name failure (.os .permissionDenied)
        else
          let final := if keepsPermissions found then permissions
            else Permissions.without ⟨permissions.bits &&& 0o777⟩ s.mask
          if fresh then
            setFiles (fs.put target (.directory ⟨final.bits ||| 0o700⟩))
            tell found (named source ++ chars " -> " ++ named dest)
          let status ←
            if !permissions.mayRead then
              refuse name (chars "cannot access " ++ named source) (.os .permissionDenied)
            else
              forEach (namesAt fs place) fun inner =>
                if !permissions.mayEnter then
                  refuse name (chars "cannot stat " ++ named (inside source inner)) (.os .permissionDenied)
                else
                  copyDeep name found n (inside source inner) (inside dest inner)
                    (place ++ [toOctets inner])
          if fresh || keepsPermissions found then setFiles ((← get).files.permit target final)
          return status
    | some (.link target), .ok there =>
      if (fs.get? there).isSome then
        if fs.isDirectoryAt there then do
          report name (chars "cannot overwrite directory " ++ named dest ++ chars " with non-directory")
          return 1
        else
          setFiles ((fs.remove there).put there (.link target))
          tell found (named source ++ chars " -> " ++ named dest)
          return 0
      else if !fs.mayChangeAt there.dropLast then
        refuse name (chars "cannot create symbolic link " ++ named dest) (.os .permissionDenied)
      else
        setFiles (fs.put there (.link target))
        tell found (named source ++ chars " -> " ++ named dest)
        return 0
    | some (.link _), .error e => refuse name (chars "cannot create symbolic link " ++ named dest) e
    | some entry, _ => copyContents name found entry source dest place

/-- The tool `cp`. -/
def copy (name : Chars) (arguments : List Chars) : Action Nat :=
  withOptions ⟨"rRapfnvdP", [("recursive", 'r'), ("archive", 'a'), ("force", 'f'), ("verbose", 'v'),
    ("no-clobber", 'n'), ("no-dereference", 'P')]⟩ 1
    name arguments fun found operands =>
      let deep := has found 'r' || has found 'R' || has found 'a'
      eachInto name operands fun source dest => do
        let s ← get
        let itself := deep || has found 'd' || has found 'P'
        let at? := if itself then s.files.locateLink s.directory (Session.path source)
          else s.files.locate s.directory (Session.path source)
        match at? with
        | .error e => refuse name (chars "cannot stat " ++ named source) e
        | .ok place =>
          if s.files.isDirectoryAt place && !deep then do
            report name (chars "-r not specified; omitting directory " ++ named source)
            return 1
          else copyDeep name found (s.files.entries.length + 1) source dest place

/-- The tool `mv`. -/
def move (name : Chars) (arguments : List Chars) : Action Nat :=
  withOptions ⟨"fnv", [("force", 'f'), ("no-clobber", 'n'), ("verbose", 'v')]⟩ 1 name arguments
    fun found operands =>
      eachInto name operands fun source dest => do
        let s ← get
        let fs := s.files
        match fs.locateLink s.directory (Session.path source) with
        | .error e => refuse name (chars "cannot stat " ++ named source) e
        | .ok place =>
          let failure := chars "cannot move " ++ named source ++ chars " to " ++ named dest
          match placeNamed fs s.directory dest with
          | .error e => refuse name failure e
          | .ok target =>
            let isDirectory := fs.isDirectoryAt place
            let denied := !fs.mayChangeAt place.dropLast || !fs.mayChangeAt target.dropLast
            if (fs.locationsOf place).contains target then do
              report name (named source ++ chars " and " ++ named dest ++ chars " are the same file")
              return 1
            else if has found 'n' && (fs.get? target).isSome then return 0
            else if !isDirectory && fs.isDirectoryAt target then do
              report name (chars "cannot overwrite directory " ++ named dest ++ chars " with non-directory")
              return 1
            else if isDirectory && (fs.get? target).isSome && !fs.isDirectoryAt target then do
              report name (chars "cannot overwrite non-directory " ++ named dest ++
                chars " with directory " ++ named source)
              return 1
            else if place.isPrefixOf target then do
              report name (chars "cannot move " ++ named source ++ chars " to a subdirectory of itself, " ++
                named dest)
              return 1
            else if denied then refuse name failure (.os .permissionDenied)
            else if isDirectory && !(fs.below target).isEmpty then refuse name failure (.os .notEmpty)
            else
              setFiles (moveAll (fs.remove target) place target)
              tell found (chars "renamed " ++ named source ++ chars " -> " ++ named dest)
              return 0

/-- The tool `ln`. -/
def link (name : Chars) (arguments : List Chars) : Action Nat :=
  withOptions ⟨"sfnvr", [("symbolic", 's'), ("force", 'f'), ("no-dereference", 'n'), ("verbose", 'v')]⟩ 1
    name arguments fun found operands => do
      let symbolic := has found 's'
      let step (source dest : Chars) : Action Nat := do
        let s ← get
        let fs := s.files
        let kind := if symbolic then "symbolic" else "hard"
        let failure := chars ("failed to create " ++ kind ++ " link ") ++ named dest
        match placeNamed fs s.directory dest with
        | .error e => refuse name failure e
        | .ok target =>
          let taken := (fs.get? target).isSome && !(has found 'f' && !fs.isDirectoryAt target)
          let denied := !fs.mayChangeAt target.dropLast
          if symbolic then
            if taken then refuse name failure (.os .exists_)
            else if denied then refuse name failure (.os .permissionDenied)
            else do
              setFiles ((fs.remove target).put target (.link (Session.path source)))
              tell found (named dest ++ chars " -> " ++ named source)
              return 0
          else
            match fs.locateLink s.directory (Session.path source) with
            | .error e => refuse name (chars "failed to access " ++ named source) e
            | .ok place =>
              match fs.get? place with
              | some (.directory _) => do
                report name (source ++ chars ": hard link not allowed for directory")
                return 1
              | some _ =>
                if taken then refuse name failure (.os .exists_)
                else if denied then
                  refuse name (failure ++ chars " => " ++ named source) (.os .permissionDenied)
                else if (fs.locationsOf place).contains target then do
                  if target = place then
                    report name (named source ++ chars " and " ++ named dest ++ chars " are the same file")
                    return 1
                  else return 0
                else do
                  setFiles ((fs.remove target).share place target)
                  tell found (named dest ++ chars " => " ++ named source)
                  return 0
              | none => return 0
      let s ← get
      match operands with
      | [source] => step source (inside ['.'] (lastName source))
      | [source, dest] =>
        let isLink := match (placeNamed s.files s.directory dest).toOption.bind s.files.get? with
          | some (.link _) => true
          | _ => false
        if has found 'n' && isLink then step source dest else eachInto name operands step
      | _ => eachInto name operands step

/-- The tool `rmdir`. -/
def rmdir (name : Chars) (arguments : List Chars) : Action Nat :=
  withOptions ⟨"pv", [("parents", 'p'), ("verbose", 'v')]⟩ 1 name arguments fun found operands => do
    if operands.isEmpty then missingOperand name
    else
      forEach operands fun operand => do
        let above := ((Session.path operand).ancestors.map fun p => ofOctets p.octets).filter fun p =>
          p ≠ [] && p ≠ ['/'] && p ≠ ['.']
        let mut status := 0
        for path in if has found 'p' then operand :: above else [operand] do
          if status = 0 then
            let s ← get
            match s.files.locateLink s.directory (Session.path path) with
            | .error e => status ← refuse name (chars "failed to remove " ++ named path) e
            | .ok place =>
              if path = ['.'] then
                report name (chars "failed to remove " ++ named path ++ chars ": Invalid argument")
                status := 1
              else if !s.files.isDirectoryAt place then
                status ← refuse name (chars "failed to remove " ++ named path) (.os .notDirectory)
              else if !s.files.mayChangeAt place.dropLast then
                status ← refuse name (chars "failed to remove " ++ named path) (.os .permissionDenied)
              else if !(s.files.below place).isEmpty then
                status ← refuse name (chars "failed to remove " ++ named path) (.os .notEmpty)
              else
                tell found (name ++ chars ": removing directory, " ++ named path)
                setFiles (s.files.remove place)
        return status

/-- A place as a path. -/
def placePath (place : Location) : Chars :=
  if place = [] then ['/'] else place.flatMap fun name => '/' :: ofOctets name

/-- The tool `readlink`. -/
def readlink (name : Chars) (arguments : List Chars) : Action Nat :=
  withOptions ⟨"fenmqsv", [("canonicalize", 'f'), ("canonicalize-existing", 'e'), ("no-newline", 'n')]⟩ 1
    name arguments fun found operands => do
      if operands.isEmpty then missingOperand name
      else
        forEach operands fun operand => do
          let s ← get
          let p := Session.path operand
          let result : Option Chars :=
            if has found 'e' then (s.files.locate s.directory p).toOption.map placePath
            else if has found 'f' || has found 'm' then
              match s.files.walk s.directory .through p with
              | .ok (.found place) => some (placePath place)
              | .ok (.missing dir name _) => some (placePath (dir ++ [name]))
              | _ => none
            else
              match (s.files.locateLink s.directory p).toOption.bind s.files.get? with
              | some (.link target) => some (ofOctets target.octets)
              | _ => none
          match result with
          | none => return 1
          | some text => do
            Action.say (text ++ if has found 'n' then [] else ['\n'])
            return 0

/-- A name with the sign of what it names. -/
def signed (fs : FileSystem) (found : List (Char × Chars)) (place : Location) (name : Chars) : Chars :=
  let all := has found 'F'
  match fs.get? place with
  | some (.directory _) => if all || has found 'p' then name ++ ['/'] else name
  | some (.link _) => if all then name ++ ['@'] else name
  | some (.file _ permissions) => if all && permissions.isRunnable then name ++ ['*'] else name
  | _ => name

/-- The lines for a directory, and for those below it if that is asked for. -/
def listingOf (fs : FileSystem) (found : List (Char × Chars)) (headed : Bool) :
    Nat → Chars → Location → List Chars
  | 0, _, _ => []
  | n + 1, path, place =>
    let turned (names : List Chars) : List Chars := if has found 'r' then names.reverse else names
    let every := namesAt fs place
    let shown := every.filter fun name =>
      has found 'a' || has found 'A' || name.head? ≠ some '.'
    let dots := if has found 'a' then [['.'], ['.', '.']] else []
    let lines := (turned (dots ++ shown)).map fun name =>
      signed fs found (place ++ [toOctets name]) name
    let head := if headed || has found 'R' then [path ++ [':']] else []
    let deeper := if has found 'R' then
        (turned shown).flatMap fun name =>
          let next := place ++ [toOctets name]
          if fs.isDirectoryAt next then [] :: listingOf fs found true n (inside path name) next else []
      else []
    head ++ lines ++ deeper

/-- The tool `ls`. -/
def list (name : Chars) (arguments : List Chars) : Action Nat :=
  withOptions ⟨"aA1dRrFpCx", [("all", 'a'), ("almost-all", 'A'), ("directory", 'd'), ("recursive", 'R'),
    ("reverse", 'r'), ("classify", 'F')]⟩ 2 name arguments fun found operands => do
      let s ← get
      let fs := s.files
      let operands := if operands.isEmpty then [['.']] else ordered operands
      let operands := if has found 'r' then operands.reverse else operands
      let reached ← operands.mapM fun operand => do
        let p := Session.path operand
        let place := if has found 'd' then fs.locateLink s.directory p
          else (fs.locate s.directory p).orElseLazy fun _ => fs.locateLink s.directory p
        match place with
        | .ok place => return some (operand, place)
        | .error e => do
          report name (chars "cannot access " ++ named operand ++ chars ": " ++ reason e)
          return none
      let (directories, files) := (reached.filterMap id).partition fun (_, place) =>
        !has found 'd' && fs.isDirectoryAt place
      let headed := 1 < operands.length
      let (directories, closed) := directories.partition fun (_, place) =>
        (fs.permissionsAt? place).any Permissions.mayRead
      let first := files.map fun (operand, place) => signed fs found place operand
      let blocks := directories.map fun (operand, place) =>
        listingOf fs found headed (fs.entries.length + 1) operand place
      let blocks := if first = [] then blocks else first :: blocks
      let text := [[]].intercalate blocks
      Action.say (text.flatMap (· ++ ['\n']))
      closed.forM fun (operand, _) =>
        report name (chars "cannot open directory " ++ named operand ++ chars ": Permission denied")
      return if reached.all (·.isSome) && closed.isEmpty then 0 else 2

end ConsumerCheck.Shell.Tools
