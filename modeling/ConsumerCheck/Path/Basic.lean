import ConsumerCheck.Text.Utf8

/-!
# Paths

A path is the octets that name a place in a file system. What it means is decided by its components:
a slash at the beginning is the root, repeated slashes count once, and `.` counts only where a
relative path begins with it.

* `Path.components` — the components of a path (`Path::components`);
* `Path.Same`, `Path.key` — equality and order of paths by components, not by octets;
* `Path.join` — a path below another (`Path::join`);
* `Path.bare` — a path without slashes at its end;
* `Path.ancestors` — the paths that remain when components are taken away at the end;
* `Path.display` — a path as text (`Path::display`).
-/

namespace ConsumerCheck

/-- The octets of a path. -/
structure Path where
  octets : Bytes
  deriving DecidableEq, Repr, Inhabited

namespace Path

/-- A path as written in text. -/
def ofText (text : String) : Path := ⟨Utf8.encode text⟩

/-- A path as text; octets that are not UTF-8 are replaced. -/
def display (p : Path) : String := Utf8.decodeLossy p.octets

/-- The slash, which separates components. -/
def slash : UInt8 := 0x2F

/-- The name `.`. -/
def dot : Bytes := [0x2E]

/-- The name `..`. -/
def dotDot : Bytes := [0x2E, 0x2E]

/-- Whether a path begins at the root. -/
def isAbsolute (p : Path) : Bool := p.octets.head? == some slash

/-- The pieces of a sequence of octets between the occurrences of `separator`; always at least
one. -/
def splitAt (separator : UInt8) : Bytes → List Bytes
  | [] => [[]]
  | b :: rest =>
    if b = separator then [] :: splitAt separator rest
    else
      match splitAt separator rest with
      | [] => [[b]]
      | piece :: pieces => (b :: piece) :: pieces

/-- The pieces joined with `separator` between them. -/
def joinWith (separator : UInt8) : List Bytes → Bytes
  | [] => []
  | [piece] => piece
  | piece :: pieces => piece ++ separator :: joinWith separator pieces

/-- One component of a path. -/
inductive Component where
  /-- The root, at the beginning of an absolute path. -/
  | root
  /-- The directory itself, at the beginning of a relative path. -/
  | here
  /-- The directory above. -/
  | parent
  /-- An entry of a directory. -/
  | name (octets : Bytes)
  deriving DecidableEq, Repr

/-- The octets of a component. -/
def Component.octets : Component → Bytes
  | root => [slash]
  | here => dot
  | parent => dotDot
  | name octets => octets

/-- The component that a piece stands for inside a path; an empty piece and `.` stand for none. -/
def Component.ofPiece (piece : Bytes) : Option Component :=
  if piece = [] ∨ piece = dot then none
  else if piece = dotDot then some .parent
  else some (.name piece)

/-- The pieces after the root of an absolute path, or all pieces of a relative one. -/
def pieces (p : Path) : List Bytes :=
  match p.isAbsolute, p.octets with
  | true, _ :: rest => splitAt slash rest
  | _, octets => splitAt slash octets

/-- Each piece with the component that it stands for. Only the first piece of a relative path may be
the directory itself. -/
def parts (p : Path) : List (Bytes × Option Component) :=
  match p.isAbsolute, p.pieces with
  | false, first :: rest =>
    (first, if first = dot then some .here else Component.ofPiece first) ::
      rest.map fun piece => (piece, Component.ofPiece piece)
  | _, pieces => pieces.map fun piece => (piece, Component.ofPiece piece)

/-- The components of a path, from the front. -/
def components (p : Path) : List Component :=
  (if p.isAbsolute then [.root] else []) ++ p.parts.filterMap (·.2)

/-- Two paths are the same if their components are. -/
def Same (p q : Path) : Prop := p.components = q.components

instance (p q : Path) : Decidable (Same p q) := inferInstanceAs (Decidable (_ = _))

/-- The place of a component in the order of components: the root, the directory itself, the
directory above, then names by their octets. -/
def Component.key : Component → List Nat
  | root => [0]
  | here => [1]
  | parent => [2]
  | name octets => 3 :: octets.map UInt8.toNat

/-- The place of a path in the order by components. -/
def key (p : Path) : List (List Nat) := p.components.map Component.key

/-- The name at the end of a path, if it ends in a name. -/
def fileName (p : Path) : Option Bytes :=
  match p.components.getLast? with
  | some (.name octets) => some octets
  | _ => none

/-- `q` below `p`; an absolute `q` is taken alone. -/
def join (p q : Path) : Path :=
  if q.isAbsolute then q
  else if p.octets = [] ∨ p.octets.getLast? = some slash then ⟨p.octets ++ q.octets⟩
  else ⟨p.octets ++ slash :: q.octets⟩

/-- The path without the slashes at its end, unless it has nothing else. -/
def bare (p : Path) : Path :=
  ⟨if p.octets.all (· == slash) then p.octets
    else (p.octets.reverse.dropWhile (· == slash)).reverse⟩

/-- The path of a sequence of components. -/
def ofComponents (cs : List Component) : Path :=
  cs.foldl (fun p c => p.join ⟨c.octets⟩) ⟨[]⟩

/-- Given the parts of a path from the end, the parts that remain when one component, then two, and so
on, are taken away; what stands for no component goes with the component before it. -/
def remainders : List (Bytes × Option Component) → List (List (Bytes × Option Component))
  | [] => []
  | (_, none) :: rest => remainders rest
  | (_, some _) :: rest => rest.dropWhile (·.2.isNone) :: remainders rest

/-- The paths above a path, the nearest first, down to the root or to the empty path. -/
def ancestors (p : Path) : List Path :=
  (remainders p.parts.reverse).map fun rest =>
    let body := joinWith slash (rest.reverse.map (·.1))
    ⟨if p.isAbsolute then slash :: body else body⟩

/-- The path without its last component; the root and the empty path have none. -/
def parent? (p : Path) : Option Path := p.ancestors.head?

end Path

end ConsumerCheck
