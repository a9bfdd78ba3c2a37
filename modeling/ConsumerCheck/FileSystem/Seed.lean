import ConsumerCheck.FileSystem.Operation

/-!
# Descriptions of files

A file system can be described by a list of entries, which are made one after the other, each with the
directories that it needs. `FileSystem.listing` is the reverse: all that lies below a directory, in the
order of the paths as they are shown.
-/

namespace ConsumerCheck

/-- One entry of a description. -/
inductive Seed where
  | file (path : Path) (contents : Bytes) (executable : Bool)
  | directory (path : Path)
  | link (path target : Path)
  deriving DecidableEq, Repr

/-- Where an entry is to be made. -/
def Seed.path : Seed → Path
  | file path .. => path
  | directory path => path
  | link path _ => path

namespace FileSystem

/-- The file system with the directories above a path. -/
def makeAbove (fs : FileSystem) (wd : Location) (p : Path) : FileSystem :=
  match p.parent? with
  | some parent => (fs.makeDirectories wd parent).2
  | none => fs

/-- The file system with one more entry. What stands in its way stays, except for the contents of a
file. -/
def plant (wd : Location) (fs : FileSystem) (seed : Seed) : FileSystem :=
  let fs := fs.makeAbove wd seed.path
  match seed with
  | .directory path => (fs.makeDirectories wd path).2
  | .file path contents executable =>
    match fs.target wd path with
    | .ok place =>
      let permissions : Permissions := if executable then .program else .plain
      (fs.write place contents permissions).permit place permissions
    | .error _ => fs
  | .link path target =>
    match fs.walk wd .itself path with
    | .ok (.missing dir name _) => fs.put (dir ++ [name]) (.link target)
    | _ => fs

/-- The file system with further entries. -/
def plantAll (fs : FileSystem) (wd : Location) (seeds : List Seed) : FileSystem :=
  seeds.foldl (plant wd) fs

/-- The file system without what a path names, and without all below it. -/
def clear (fs : FileSystem) (wd : Location) (p : Path) : FileSystem :=
  match fs.locateLink wd p with
  | .ok place => fs.remove place
  | .error _ => fs

/-- Whether the names that lead down from a place are all in directories of which something holds. -/
def leadsThrough (fs : FileSystem) (holds : Permissions → Bool) (place : Location) : List Bytes → Bool
  | [] => true
  | name :: names =>
    (fs.permissionsAt? place).any holds && fs.leadsThrough holds (place ++ [name]) names

/-- What lies below a directory, by its path relative to it, in the order of the paths as they are shown;
nothing if the directory is missing. A directory whose names cannot be read counts as empty. A file that cannot
be read, or a name that cannot be looked at, is refused. -/
def listing (fs : FileSystem) (wd : Location) (p : Path) : Except OsError (List (Path × Entry)) :=
  match fs.locate wd p with
  | .error _ => .ok []
  | .ok place =>
    if fs.isDirectoryAt place then
      let reached := (fs.below place).filter fun (names, _) =>
        fs.leadsThrough Permissions.mayRead place names
      let seen (names : List Bytes) (e : Entry) : Bool :=
        fs.leadsThrough Permissions.mayEnter place names && !(e.isFile && !e.permissions.mayRead)
      if reached.all fun (names, e) => seen names e then
        let all := reached.map fun (names, e) => ((⟨Path.joinWith Path.slash names⟩ : Path), e)
        .ok (all.mergeSort fun a b => a.1.display ≤ b.1.display)
      else .error .permissionDenied
    else .ok []

end FileSystem

end ConsumerCheck
