import ConsumerCheck.FileSystem.Resolve

/-!
# Operations on files

Questions, which leave the file system alone:

* `stat`, `isFile`, `isDirectory`, `exists_`, `readFile`, `readText`;
* `checkReadableDirectory` — whether the names in a directory can be read (`check_readable_dir`).

Changes, which answer with the file system that they leave behind:

* `makeDirectory`, `makeDirectories` — one directory, or all that are missing on the way to it
  (`create_dir_all`);
* `write`, `permit` — the contents and the permissions of what is at a location;
* `appendFile` — contents through links, with a new file where there is none;
* `copyFile` — opens the source, empties the destination, and only then reads (`fs::copy`): a file copied onto
  itself ends up empty, and a copy can break off when its destination is already empty.
-/

namespace ConsumerCheck.FileSystem

/-- The entry that a path leads to. -/
def stat (fs : FileSystem) (wd : Location) (p : Path) : Except IoError Entry := do
  match fs.get? (← fs.locate wd p) with
  | some entry => .ok entry
  | none => .error (.os .noEntry)

/-- Whether a path leads to a regular file. -/
def isFile (fs : FileSystem) (wd : Location) (p : Path) : Bool :=
  (fs.stat wd p).toOption.any Entry.isFile

/-- Whether a path leads to a directory. -/
def isDirectory (fs : FileSystem) (wd : Location) (p : Path) : Bool :=
  (fs.stat wd p).toOption.any Entry.isDirectory

/-- Whether a path leads to anything. -/
def exists_ (fs : FileSystem) (wd : Location) (p : Path) : Bool := (fs.stat wd p).isOk

/-- Whether a path leads to a file that may be run. -/
def isExecutable (fs : FileSystem) (wd : Location) (p : Path) : Bool :=
  (fs.stat wd p).toOption.any fun entry => entry.isFile && entry.permissions.mayEnter

/-- The contents of a file. -/
def readFile (fs : FileSystem) (wd : Location) (p : Path) : Except IoError Bytes := do
  (← fs.stat wd p).read.mapError .os

/-- The contents of a file as text. -/
def readText (fs : FileSystem) (wd : Location) (p : Path) : Except IoError String := do
  match Utf8.decode? (← fs.readFile wd p) with
  | some text => .ok text
  | none => .error .notText

/-- Refuses a path that leads to no directory, or to one whose names may not be read, with the reason. -/
def checkReadableDirectory (fs : FileSystem) (wd : Location) (p : Path) : Except IoError Unit := do
  match ← fs.stat wd p with
  | .directory permissions => if permissions.mayRead then .ok () else .error (.os .permissionDenied)
  | _ => .error .notADirectory

/-- Whether names may be made in the directory at a location and taken away from it. -/
def mayChangeAt (fs : FileSystem) (place : Location) : Bool :=
  (fs.get? place).any fun entry => entry.isDirectory && entry.permissions.mayChange

/-- The permissions of what is at a location. -/
def permissionsAt? (fs : FileSystem) (place : Location) : Option Permissions :=
  (fs.get? place).map Entry.permissions

/-- A location, if the medium takes something there and the permissions on the way allow it. -/
def grant (fs : FileSystem) (place : Location) (allowed : Bool) : Except IoError Location :=
  match fs.medium.refusal? place with
  | some error => .error (.os error)
  | none => if allowed then .ok place else .error (.os .permissionDenied)

/-- The file system with a new directory. Its name must not exist, not even as a link. -/
def makeDirectory (fs : FileSystem) (wd : Location) (permissions : Permissions) (p : Path) :
    Except IoError FileSystem :=
  match if maxPath ≤ p.octets.length then .error (.os .nameTooLong) else fs.walk wd .itself p.bare with
  | .ok (.missing dir name _) =>
    (fs.grant (dir ++ [name]) (fs.mayChangeAt dir)).map fun place =>
      fs.put place (.directory permissions)
  | .ok _ => .error (.os .exists_)
  | .error error => .error error

/-- Makes the first of `paths`, where each is the directory above the one before it: if it cannot be
made because the one above is missing, that one first. A directory that exists is as good as made.
What was made before a refusal stays. -/
def makeChain (wd : Location) (permissions : Permissions) : List Path → FileSystem → Except IoError Unit × FileSystem
  | [], fs => (.error .noDirectoryAbove, fs)
  | p :: above, fs =>
    if p.components = [] then (.ok (), fs)
    else
      match fs.makeDirectory wd permissions p with
      | .ok fs => (.ok (), fs)
      | .error (.os .noEntry) =>
        match makeChain wd permissions above fs with
        | (.error error, fs) => (.error error, fs)
        | (.ok (), fs) =>
          match fs.makeDirectory wd permissions p with
          | .ok fs => (.ok (), fs)
          | .error error => (if fs.isDirectory wd p then .ok () else .error error, fs)
      | .error error => (if fs.isDirectory wd p then .ok () else .error error, fs)

/-- Makes a directory and those above it that are missing. -/
def makeDirectories (fs : FileSystem) (wd : Location) (p : Path) :
    Except IoError Unit × FileSystem :=
  makeChain wd .folder (p :: p.ancestors) fs

/-- The location that writing to a path changes: the file that it leads to, or a new one. -/
def target (fs : FileSystem) (wd : Location) (p : Path) : Except IoError Location :=
  match fs.walk wd .created p with
  | .ok (.found place) =>
    match fs.get? place with
    | some (.directory _) => .error (.os .isDirectory)
    | some (.device .terminal) => .error (.os .noDevice)
    | some entry => fs.grant place entry.permissions.mayWrite
    | none => .error (.os .noEntry)
  | .ok (.missing dir name slash) =>
    if slash then .error (.os .isDirectory)
    else fs.grant (dir ++ [name]) (fs.mayChangeAt dir)
  | .ok _ => .error (.os .noEntry)
  | .error error => .error error

/-- The contents of the file at a location; nothing if there is none. -/
def contentsAt (fs : FileSystem) (place : Location) : Bytes :=
  match fs.get? place with
  | some (.file contents _) => contents
  | _ => []

/-- The file system with a file at a location, and at all locations of the file that is there. What is no file
stays, and keeps nothing. -/
def overwrite (fs : FileSystem) (place : Location) (contents : Bytes) (permissions : Permissions) :
    FileSystem :=
  match fs.get? place with
  | none => fs.put place (.file contents permissions)
  | some (.file ..) => fs.rewrite place (.file contents permissions)
  | some _ => fs

/-- The file system with other contents of the file at a location, or with a new file there, which has these
permissions. -/
def write (fs : FileSystem) (place : Location) (contents : Bytes) (permissions : Permissions) :
    FileSystem :=
  fs.overwrite place contents ((fs.permissionsAt? place).getD permissions)

/-- The file system with other permissions of what is at a location. -/
def permit (fs : FileSystem) (place : Location) (permissions : Permissions) : FileSystem :=
  match fs.get? place with
  | none => fs
  | some entry => fs.rewrite place (entry.withPermissions permissions)

/-- The file system with `contents` added at the end of the file that a path leads to. -/
def appendFile (fs : FileSystem) (wd : Location) (permissions : Permissions) (p : Path)
    (contents : Bytes) : Except IoError FileSystem := do
  let place ← fs.target wd p
  .ok (fs.write place (fs.contentsAt place ++ contents) permissions)

/-- The location and the permissions of the regular file that a copy reads. -/
def copySource (fs : FileSystem) (wd : Location) (p : Path) : Except IoError (Location × Permissions) := do
  let place ← fs.locate wd p
  match fs.get? place with
  | some entry =>
    if !entry.permissions.mayRead then .error (.os .permissionDenied)
    else if entry = .device .terminal then .error (.os .noDevice)
    else if entry.isFile then .ok (place, entry.permissions)
    else .error .notARegularFile
  | none => .error (.os .noEntry)

/-- Where a copy reads and where it writes. -/
structure CopyEnds where
  source : Location
  /-- The permissions of the source. -/
  permissions : Permissions
  dest : Location
  deriving DecidableEq, Repr

/-- What a copy opens: the source, and then the destination. -/
def copyEnds (fs : FileSystem) (wd : Location) (source dest : Path) : Except IoError CopyEnds := do
  let (from_, permissions) ← fs.copySource wd source
  .ok ⟨from_, permissions, ← fs.target wd dest⟩

/-- The file system after the file at `source` was copied to `place`: the destination is emptied
first, then receives what the source holds at that moment, and takes over its permissions. -/
def copyTo (fs : FileSystem) (source place : Location) (permissions : Permissions) : FileSystem :=
  let emptied := fs.overwrite place [] permissions
  emptied.overwrite place (emptied.contentsAt source) permissions

/-- The file system after a copy came so far and no farther. -/
def copyUpTo (fs : FileSystem) (source place : Location) (permissions : Permissions) :
    CopyProgress → FileSystem
  | .opened mask => fs.write place [] (permissions.without mask)
  | .received count =>
    let emptied := fs.overwrite place [] permissions
    emptied.overwrite place ((emptied.contentsAt source).take count) permissions

/-- How a copy to `dest` breaks off after it was opened, if it does. A device without room takes nothing. -/
def breakOff? (fs : FileSystem) (dest : Path) (ends : CopyEnds) : Option BrokenCopy :=
  let contents := fs.contentsAt ends.source
  if fs.get? ends.dest = some (.device .full) ∧ contents ≠ [] then some ⟨.received 0, .os .noSpace⟩
  else fs.medium.breakOff? dest contents

/-- Copies the file that `source` leads to, and its permissions. A copy that is refused changes nothing, and
one that breaks off leaves what it has written. All bits of the permissions are copied: that a system clears
the bits set-user-ID and set-group-ID of a file that is written to is not considered. -/
def copyFile (fs : FileSystem) (wd : Location) (source dest : Path) : Except IoError Unit × FileSystem :=
  match fs.copyEnds wd source dest with
  | .error e => (.error e, fs)
  | .ok ends =>
    match fs.breakOff? dest ends with
    | none => (.ok (), fs.copyTo ends.source ends.dest ends.permissions)
    | some broken =>
      (.error broken.cause, fs.copyUpTo ends.source ends.dest ends.permissions broken.progress)

end ConsumerCheck.FileSystem
