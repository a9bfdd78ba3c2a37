import ConsumerCheck.FileSystem.Operation
import ConsumerCheck.Path.Relative
import ConsumerCheck.Pattern

/-!
# Files below a directory whose names match a pattern

`findMatching fs wd base pattern` is `find_matching_files`. It walks from `base` through directories, not
through links to directories, as `WalkDir` does, and keeps what leads to a regular file, directly or over
links, and has a name that is UTF-8 and matches. Only for `base` itself is a link to a directory entered. The
answer holds paths relative to `base`, in the order of their components. A directory whose names cannot be
read ends the walk.
-/

namespace ConsumerCheck.FileSystem

/-- Whether the key of a path comes first in the order by components. -/
def before (p q : Path) : Bool := decide (p.key < q.key)

/-- `p` put into its place in a list in the order by components, after what equals it. -/
def insertSorted (p : Path) : List Path → List Path
  | [] => [p]
  | q :: rest => if before p q then p :: q :: rest else q :: insertSorted p rest

/-- The paths in the order by components. -/
def sortPaths (ps : List Path) : List Path := ps.foldl (fun sorted p => insertSorted p sorted) []

/-- Whether a name is UTF-8 and matches. -/
def nameMatches (pattern : Pattern) (name : Bytes) : Bool :=
  match Utf8.decode? name with
  | some text => pattern.matchesName text
  | none => false

/-- What a walk reaches: the path, the last name of it, and whether it is a directory. -/
structure Reached where
  path : Path
  name : Bytes
  isDirectory : Bool

/-- All that a walk from `base`, the directory at `place`, reaches below it. -/
def walked (fs : FileSystem) (base : Path) (place : Location) : List Reached :=
  (fs.below place).map fun (names, entry) =>
    ⟨names.foldl (fun p name => p.join ⟨name⟩) base, names.getLastD [], entry.isDirectory⟩

/-- The name of the path that a walk begins at: its last name, or the whole path if it ends in
none. -/
def rootName (base : Path) : Bytes := base.fileName.getD base.octets

/-- The paths of what a walk has reached that lead to regular files and have names that match, relative to
`base`, unless the names in a directory cannot be read. -/
def kept (fs : FileSystem) (wd : Location) (base : Path) (pattern : Pattern) :
    List Reached → Except IoError (List Path)
  | [] => .ok []
  | r :: rest =>
    match if r.isDirectory then fs.checkReadableDirectory wd r.path else .ok () with
    | .error e => .error (.walking r.path e)
    | .ok () => do
      let others ← kept fs wd base pattern rest
      return if fs.isFile wd r.path && nameMatches pattern r.name then base.relativeTo r.path :: others
        else others

/-- The regular files that a walk from `base` reaches and whose names match, relative to `base`. -/
def findMatching (fs : FileSystem) (wd : Location) (base : Path) (pattern : Pattern) :
    Except IoError (List Path) :=
  match fs.locateLink wd base, fs.locate wd base with
  | .error e, _ => .error (.walking base e)
  | .ok _, .error e => .error (.walking base e)
  | .ok _, .ok place => do
    let isDirectory := fs.isDirectoryAt place
    let reached := ⟨base, rootName base, isDirectory⟩ ::
      (if isDirectory then fs.walked base place else [])
    return sortPaths (← kept fs wd base pattern reached)

end ConsumerCheck.FileSystem
