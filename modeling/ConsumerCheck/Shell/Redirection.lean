import ConsumerCheck.Shell.Process

/-!
# Redirections

A redirection lets a descriptor lead elsewhere. The targets of all redirections of a command are expanded
before the first of them is made.

* `Connection` — a redirection whose target is known;
* `Redirection.connection` — the target of a redirection, expanded;
* `openFile` — a file, opened as a redirection asks;
* `redirected` — a step with redirections, which are undone after it.

Some names below `/dev` stand for what a descriptor leads to already.
-/

namespace ConsumerCheck.Shell

/-- A redirection whose target is known. -/
inductive Connection where
  | file (descriptor : Nat) (opening : Opening) (name : Chars)
  /-- To where another descriptor leads, or nowhere. -/
  | duplicate (descriptor : Nat) (source : Option Nat)
  | document (descriptor : Nat) (expanded : Bool) (index : Nat)
  | text (descriptor : Nat) (text : Chars)

/-- The descriptor that a redirection is about. -/
def Connection.descriptor : Connection → Nat
  | file d .. => d
  | duplicate d _ => d
  | document d .. => d
  | text d _ => d

/-- The refusal behind a cause. -/
def refusal : IoError → OsError
  | .os e => e
  | _ => .noEntry

/-- A file or another place, opened. -/
def openPlace (s : Session) (opening : Opening) (place : Location) : Except OsError (Session × Channel) :=
  let reads := opening = .read || opening = .update
  let writes := opening ≠ .read
  match s.files.get? place with
  | some (.directory permissions) =>
    if writes then .error .isDirectory
    else if permissions.mayRead then .ok (s, .directory)
    else .error .permissionDenied
  | some (.link _) => .error .tooManyLinks
  | some (.device .terminal) => .error .noDevice
  | some (.device kind) => .ok (s, .device kind)
  | some (.file contents permissions) =>
    if (reads && !permissions.mayRead) || (writes && !permissions.mayWrite) then .error .permissionDenied
    else
      let empties := (opening = .write || opening = .replace) && contents ≠ []
      opened (if empties then s.files.write place [] permissions else s.files) reads writes
  | none =>
    if writes then opened (s.files.write place [] s.filePermissions) reads writes else .error .noEntry
where
  /-- The file, opened in these files. -/
  opened (files : FileSystem) (reads writes : Bool) : Except OsError (Session × Channel) :=
    let (machine, channel) := { s.machine with files }.openFile
      ⟨place, 0, reads, writes, opening == Opening.append⟩
    .ok ({ s with machine }, channel)

/-- What a descriptor leads to, opened once more. -/
def reopen (s : Session) (opening : Opening) (descriptor : Nat) :
    Except OsError (Session × Channel) :=
  match s.channel? descriptor with
  | none => .error .noEntry
  | some (.file index) =>
    match s.machine.openFiles[index]? with
    | some f => openPlace s opening f.place
    | none => .error .noEntry
  | some channel => .ok (s, channel)

/-- A file, opened as a redirection asks. -/
def openFile (s : Session) (opening : Opening) (name : Chars) : Except OsError (Session × Channel) :=
  match Session.namedDescriptor? name with
  | some descriptor => reopen s opening descriptor
  | none =>
    let path := Session.path name
    match if opening = .read then s.files.locate s.directory path
        else s.files.target s.directory path with
    | .error e => .error (refusal e)
    | .ok place => openPlace s opening place

/-- The complaint about a file that cannot be opened. -/
def openingComplaint (opening : Opening) (name : Chars) (e : OsError) : Chars :=
  let missing := e == .noEntry || e == .notDirectory
  if opening = .read then
    chars "cannot open " ++ name ++ chars (": " ++ if missing then "No such file" else e.text)
  else
    chars "cannot create " ++ name ++
      chars (": " ++ if missing then "Directory nonexistent" else e.text)

/-- Opens a file for a redirection. -/
def openTarget (opening : Opening) (name : Chars) : Action Channel := do
  let s ← get
  let kept := opening = .write && s.has .noClobber
  let path := Session.path name
  if kept && s.files.isFile s.directory path then
    Action.failWith (openingComplaint opening name .exists_)
      (name ++ chars ": cannot overwrite existing file") 1
  else
    match openFile s opening name with
    | .ok (s, channel) =>
      set s
      return channel
    | .error e =>
      let said := if kept && s.files.exists_ s.directory path then .read else opening
      Action.failWith (openingComplaint said name e) (name ++ chars (": " ++ e.text)) 1

section

variable (run : Evaluate)

/-- A word as it is written, as far as that is known. -/
def sourceOf (word : Word) : Chars :=
  word.flatMap fun p => match p with
    | .char c | .escaped c => [c]
    | .quotes => ['"']
    | .arguments => chars "\"$@\""
    | .parameter name _ .value _ _ => '$' :: name
    | .parameter name _ .unknown _ _ => name
    | .parameter name .. => chars "$\x7b" ++ name ++ ['\x7d']
    | .output _ => chars "$()"
    | _ => []

/-- The name of a file for a redirection, which in the richer shell must be one field. -/
def fileName (target : Word) : Action Chars := do
  if (← get).rich then
    match ← Action.fieldsOf (capture run) target with
    | [name] => return name
    | _ => Action.failWith [] (sourceOf target ++ chars ": ambiguous redirect") 1
  else Action.textOf (capture run) target

/-- The complaint about a target that is no descriptor. -/
def badDescriptor : Action α := do
  modify fun s => { s with line := s.lineRead }
  Action.fail (chars "Syntax error: Bad fd number")

/-- The targets of a redirection, expanded. -/
def Redirection.connections : Redirection → Action (List Connection)
  | file descriptor opening target => do
    return [.file descriptor opening (← fileName run target)]
  | document descriptor expanded index => return [.document descriptor expanded index]
  | text descriptor word => do
    return [.text descriptor ((← Action.textOf (capture run) word) ++ ['\n'])]
  | both appending target => do
    return [.file 1 (if appending then .append else .write) (← fileName run target), .duplicate 2 (some 1)]
  | duplicate descriptor source => do
    let name := match literal? source with
      | some name => pure [name]
      | none => Action.fieldsOf (capture run) source
    let rich := (← get).rich
    match ← name with
    | ['-'] :: _ => return [.duplicate descriptor none]
    | name :: more =>
      if name.all Char.isDigit && name ≠ [] && (name.length = 1 || rich) then
        return [.duplicate descriptor (some (Text.numeral 10 name))]
      else if rich then
        if descriptor = 1 && more.isEmpty then return [.file 1 .write name, .duplicate 2 (some 1)]
        else Action.failWith [] (sourceOf source ++ chars ": ambiguous redirect") 1
      else badDescriptor
    | _ => badDescriptor

/-- Makes a redirection. -/
def Connection.establish : Connection → Action Unit
  | file descriptor opening name => do
    let channel ← openTarget opening name
    connect descriptor (some channel)
  | duplicate descriptor none => connect descriptor none
  | duplicate descriptor (some source) => do
    match (← get).channel? source with
    | some channel => connect descriptor (some channel)
    | none => do
      let text := chars (toString source ++ ": " ++ OsError.badDescriptor.text)
      Action.failWith text text 1
  | document descriptor expanded index => do
    let word := (← get).documents[index]?.getD []
    let text ← if expanded then Action.documentOf (capture run) word
      else pure (plainText word)
    connect descriptor (some (.pipe (← newPipe text) false))
  | text descriptor content => do connect descriptor (some (.pipe (← newPipe content) false))

/-- Makes redirections one after the other. A descriptor is given up before it leads elsewhere, so that nobody
sees the complaint if the descriptor for complaints is to lead where nothing is. `moved` are the descriptors
that lead elsewhere already. -/
def establishAll (moved : List Nat) : List Connection → Action Unit
  | [] => pure ()
  | c :: rest => do
    let s ← get
    match c with
    | .duplicate 2 (some source) =>
      if !moved.contains 2 && (s.channel? source).isNone then connect 2 none
    | _ => pure ()
    c.establish run
    establishAll (c.descriptor :: moved) rest

/-- Lets descriptors lead again where they have led before. -/
def reconnect (before : List (Nat × Option Channel)) : Action Unit :=
  before.forM fun (descriptor, channel) => connect descriptor channel

/-- A step with redirections. If they fail, another step takes its place. Unless they are to last, they are
undone in the end. -/
def redirected (lasting : Bool) (redirections : List Redirection)
    (otherwise action : Action Unit) : Action Unit := do
  if redirections.isEmpty then action
  else
    let expanded : Action (Option (List Connection)) := do
      try return some (← redirections.mapM (Redirection.connections run)).flatten
      catch flow => if flow = .failed && (← get).rich then return none else throw flow
    match ← expanded with
    | none => otherwise
    | some connections => do
    let s ← get
    let before := connections.map fun c => (c.descriptor, s.channel? c.descriptor)
    let established : Action Bool := do
      try
        establishAll run [] connections
        return true
      catch flow =>
        if flow = .failed then return false else throw flow
    let whole : Action Unit := do if ← established then action else otherwise
    if lasting then whole
    else
      try
        whole
        reconnect before
      catch flow =>
        /- At the end of the richer shell its redirections still count. -/
        if !(flow = .ended && (← get).rich) then reconnect before
        throw flow

end

end ConsumerCheck.Shell
