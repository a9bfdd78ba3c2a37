import ConsumerCheck.FileSystem.Basic

/-!
# From paths to locations

A path is followed one step at a time. `.` stays, `..` goes up, a name goes down, and a symbolic link
puts the steps of its target in front of the remaining ones; the forty-first link on the way is
refused. A slash at the end asks for a directory. A directory that may not be entered lets no step out of it.

* `Ending` — what happens to the last name of a path;
* `FileSystem.advance` — the steps up to the first link;
* `FileSystem.follow` — all steps, with a number of links that may still be taken;
* `FileSystem.locate` — where a path leads, from a working directory.
-/

namespace ConsumerCheck

/-- One step along a path. -/
inductive Step where
  /-- Stay. -/
  | here
  /-- Go up. -/
  | parent
  /-- Go down to this name. -/
  | name (octets : Bytes)
  /-- The slash at the end: what was reached must be a directory. -/
  | slash
  deriving DecidableEq, Repr

/-- The steps of a path. -/
def Path.steps (p : Path) : List Step :=
  (p.pieces.filterMap fun piece =>
    if piece = [] then none
    else if piece = Path.dot then some .here
    else if piece = Path.dotDot then some .parent
    else some (.name piece)) ++
  (if p.pieces.length > 1 && p.pieces.getLast? == some [] then [.slash] else [])

namespace FileSystem

/-- What happens to the last name of a path. -/
inductive Ending where
  /-- A link there is followed. -/
  | through
  /-- A link there is what the path leads to. -/
  | itself
  /-- A link there is followed, and a file is made where there is none. A slash after the name is refused. -/
  | created
  deriving DecidableEq, Repr

/-- Where steps lead. -/
inductive Walked where
  /-- To this location. -/
  | found (place : Location)
  /-- To a name that a directory does not have. A slash after it asks for a directory. -/
  | missing (dir : Location) (name : Bytes) (slash : Bool)
  /-- To a link in `dir` with this target, with these steps still to go. -/
  | link (dir : Location) (target : Path) (rest : List Step)
  /-- Nowhere. -/
  | refused (error : OsError)
  deriving DecidableEq, Repr

/-- The steps from `place` up to the first link. -/
def advance (fs : FileSystem) (ending : Ending) (place : Location) : List Step → Walked
  | [] => .found place
  | step :: rest =>
    match fs.get? place with
    | none => .refused .noEntry
    | some (.file ..) | some (.link _) | some (.device _) => .refused .notDirectory
    | some (.directory permissions) =>
      if step ≠ .slash && !permissions.mayEnter then .refused .permissionDenied
      else
        match step with
        | .here | .slash => fs.advance ending place rest
        | .parent => fs.advance ending place.dropLast rest
        | .name n =>
          if ending = .created && rest = [.slash] then .missing place n true
          else if maxName < n.length then .refused .nameTooLong
          else
            match fs.get? (place ++ [n]) with
            | none =>
              match rest with
              | [] => .missing place n false
              | [.slash] => .missing place n true
              | _ => .refused .noEntry
            | some (.link target) =>
              if rest = [] && ending = .itself then .found (place ++ [n])
              else .link place target rest
            | some _ => fs.advance ending (place ++ [n]) rest

/-- All steps from `place`, over at most `links` links. -/
def follow (fs : FileSystem) (ending : Ending) : Nat → Location → List Step → Walked
  | links, place, steps =>
    match fs.advance ending place steps, links with
    | .link _ _ _, 0 => .refused .tooManyLinks
    | .link dir target rest, links + 1 =>
      fs.follow ending links (if target.isAbsolute then [] else dir) (target.steps ++ rest)
    | walked, _ => walked

/-- The number of links that one path may lead over. -/
def maxLinks : Nat := 40

/-- The length from which on a path is refused. -/
def maxPath : Nat := 4096

/-- Where a path leads from the working directory `wd`. -/
def walk (fs : FileSystem) (wd : Location) (ending : Ending) (p : Path) : Except IoError Walked :=
  if p.octets.contains 0 then .error .zeroInPath
  else if p.octets = [] then .error (.os .noEntry)
  else if maxPath ≤ p.octets.length then .error (.os .nameTooLong)
  else
    match fs.follow ending maxLinks (if p.isAbsolute then [] else wd) p.steps with
    | .refused error => .error (.os error)
    | walked => .ok walked

/-- The location that steps lead to, if something is there. -/
def Walked.place : Walked → Except IoError Location
  | .found place => .ok place
  | _ => .error (.os .noEntry)

/-- The location of what a path leads to. -/
def locate (fs : FileSystem) (wd : Location) (p : Path) : Except IoError Location := do
  (← fs.walk wd .through p).place

/-- The location of what a path leads to, where a link at the end is not followed. -/
def locateLink (fs : FileSystem) (wd : Location) (p : Path) : Except IoError Location := do
  (← fs.walk wd .itself p).place

end FileSystem

end ConsumerCheck
