import ConsumerCheck.FileSystem.Operation
import ConsumerCheck.Shell.Fields

/-!
# Patterns of the shell

In a pattern `?` stands for one character, `*` for any number of them, `[…]` for one of those that are
listed and `[!…]` for one that is not. A backslash makes the next character stand for itself.

* `Glob.ofGlyphs` — the pattern that an expanded word makes;
* `Glob.matchesText` — whether a text matches a pattern;
* `Glob.withoutStart`, `Glob.withoutEnd` — a value without a part that matches;
* `Glob.paths` — the files whose paths match.
-/

namespace ConsumerCheck.Shell

/-- A character of a pattern, and whether it stands for itself. -/
structure PatternChar where
  char : Char
  literal : Bool
  deriving DecidableEq, Repr

/-- A pattern as it is written. -/
abbrev Glob := List PatternChar

/-- A member of a list in a pattern. -/
inductive GlobMember where
  | one (c : Char)
  | span (first last : Char)
  | named (name : String)
  deriving DecidableEq, Repr

/-- A part of a pattern. -/
inductive GlobPart where
  | char (c : Char)
  | any
  | many
  | among (negated : Bool) (members : List GlobMember)
  deriving DecidableEq, Repr

namespace Glob

/-- The text of a pattern, where a backslash stands before each escaped character. A backslash that came from
a value already escapes what follows it. -/
def textOf : Bool → List Glyph → Chars
  | _, [] => []
  | _, .quotes :: rest => textOf true rest
  | _, .stop :: rest => textOf true rest
  | _, .plain '\\' :: rest => '\\' :: textOf false rest
  | _, .plain c :: rest => c :: textOf true rest
  | free, .escaped c :: rest =>
    if free then '\\' :: c :: textOf true rest else c :: textOf true rest

/-- The pattern that a text is. -/
def ofText : Chars → Glob
  | [] => []
  | ['\\'] => [⟨'\\', true⟩]
  | '\\' :: c :: rest => ⟨c, true⟩ :: ofText rest
  | c :: rest => ⟨c, false⟩ :: ofText rest

/-- The pattern that an expanded word makes. -/
def ofGlyphs (glyphs : List Glyph) : Glob := ofText (textOf true glyphs)

/-- A pattern in which a caret after an opening bracket says the same as the sign that negates a list. -/
def withCarets : Glob → Glob
  | ⟨'[', false⟩ :: ⟨'^', false⟩ :: rest => ⟨'[', false⟩ :: ⟨'!', false⟩ :: withCarets rest
  | c :: rest => c :: withCarets rest
  | [] => []

/-- The text of a pattern in which all characters stand for themselves. -/
def literalText (g : Glob) : Chars := g.map (·.char)

/-- The classes of characters that have names. -/
def classes : List (String × (Char → Bool)) := [
  ("alnum", Char.isAlphanum), ("alpha", Char.isAlpha), ("blank", fun c => c == ' ' || c == '\t'),
  ("cntrl", fun c => c < ' ' || c == '\x7f'), ("digit", Char.isDigit),
  ("graph", fun c => ' ' < c && c < '\x7f'), ("lower", Char.isLower),
  ("print", fun c => ' ' ≤ c && c < '\x7f'),
  ("punct", fun c => ' ' < c && c < '\x7f' && !c.isAlphanum),
  ("space", fun c => " \t\n\x0b\x0c\r".toList.contains c), ("upper", Char.isUpper),
  ("xdigit", fun c => c.isDigit || ('a' ≤ c && c ≤ 'f') || ('A' ≤ c && c ≤ 'F'))]

/-- The class that a list names here, and what follows. -/
def named? (g : Glob) : Option (GlobMember × Glob) :=
  classes.findSome? fun (name, _) =>
    let sign : Glob := (":" ++ name ++ ":]").toList.map fun c => ⟨c, false⟩
    if sign.isPrefixOf g then some (.named name, g.drop sign.length) else none

/-- The members of a list up to the bracket that closes it, and what follows. -/
def members : Nat → Bool → Glob → Option (List GlobMember × Glob)
  | 0, _, _ => none
  | _, _, [] => none
  | n + 1, first, c :: rest =>
    if c = ⟨']', false⟩ ∧ !first then some ([], rest)
    else
      let class? := if c = ⟨'[', false⟩ then named? rest else none
      let (member, rest) := match class?, rest with
        | some found, _ => found
        | none, ⟨'-', false⟩ :: d :: rest =>
          if d = ⟨']', false⟩ then (.one c.char, ⟨'-', false⟩ :: d :: rest)
          else (.span c.char d.char, rest)
        | none, rest => (.one c.char, rest)
      (members n false rest).map fun (more, rest) => (member :: more, rest)

/-- The list that begins after an opening bracket, and what follows. -/
def among? (g : Glob) : Option (GlobPart × Glob) :=
  let (negated, inside) := match g with
    | ⟨'!', false⟩ :: rest => (true, rest)
    | g => (false, g)
  (members (inside.length + 1) true inside).map fun (list, rest) => (.among negated list, rest)

/-- The parts of a pattern. A bracket that is not closed stands for itself. -/
def partsUpTo : Nat → Glob → List GlobPart
  | 0, _ => []
  | _, [] => []
  | n + 1, ⟨'?', false⟩ :: rest => .any :: partsUpTo n rest
  | n + 1, ⟨'*', false⟩ :: rest => .many :: partsUpTo n rest
  | n + 1, ⟨'[', false⟩ :: rest =>
    match among? rest with
    | some (part, rest) => part :: partsUpTo n rest
    | none => .char '[' :: partsUpTo n rest
  | n + 1, c :: rest => .char c.char :: partsUpTo n rest

/-- The parts of a pattern. -/
def parts (g : Glob) : List GlobPart := partsUpTo g.length g

end Glob

/-- Whether a member of a list stands for a character. -/
def GlobMember.covers : GlobMember → Char → Bool
  | one c, x => x == c
  | span first last, x => first ≤ x && x ≤ last
  | named name, x => ((Glob.classes.lookup name).map (· x)).getD false

/-- Whether parts of a pattern match a text. -/
def GlobPart.matchAll : List GlobPart → Chars → Bool
  | [], text => text.isEmpty
  | .many :: rest, text =>
    (List.range (text.length + 1)).any fun n => matchAll rest (text.drop n)
  | _ :: _, [] => false
  | .char c :: rest, x :: text => x == c && matchAll rest text
  | .any :: rest, _ :: text => matchAll rest text
  | .among negated members :: rest, x :: text =>
    (members.any (·.covers x) != negated) && matchAll rest text

namespace Glob

/-- Whether a text matches a pattern. -/
def matchesText (g : Glob) (text : Chars) : Bool := GlobPart.matchAll g.parts text

/-- The text of glyphs up to the end of the first argument. -/
def firstText (glyphs : List Glyph) : Chars := Glyph.text (glyphs.takeWhile (· ≠ .stop))

/-- The places at which a value may be cut, the one that is tried first in front. A place beyond the first
argument counts only if the search begins at the end. -/
def cuts (fromStart : Bool) (glyphs : List Glyph) : List Nat :=
  if fromStart then List.range ((glyphs.takeWhile (· ≠ .stop)).length + 1)
  else (List.range (glyphs.length + 1)).reverse

/-- A value without the longest or the shortest part at its end that matches. Of several arguments the first
one after the cut is looked at. -/
def withoutEnd (g : Glob) (longest : Bool) (value : List Glyph) : List Glyph :=
  let parts := g.parts
  match (cuts longest value).find? fun n =>
      GlobPart.matchAll parts (firstText (value.drop n)) with
  | some n => value.take n
  | none => value

/-- A value without the longest or the shortest part at its start that matches. Of several arguments the first
one is looked at. -/
def withoutStart (g : Glob) (longest : Bool) (value : List Glyph) : List Glyph :=
  let parts := g.parts
  match (cuts (!longest) value).find? fun n =>
      GlobPart.matchAll parts (firstText (value.take n)) with
  | some n => value.drop n
  | none => value

/-- The components of a pattern for paths. -/
def components : Glob → List Glob
  | [] => [[]]
  | c :: rest =>
    if c.char = '/' then [] :: components rest
    else
      match components rest with
      | [] => [[c]]
      | first :: more => (c :: first) :: more

/-- Whether a pattern can match more than one text. -/
def isOpen (g : Glob) : Bool :=
  g.parts.any fun part => match part with
    | .char _ => false
    | _ => true

/-- The names in a directory, with those for itself and for the one above. -/
def namesIn (fs : FileSystem) (place : Location) : List Chars :=
  let names := fs.entries.filterMap fun (p, _) =>
    match p.getLast? with
    | some name => if p.dropLast = place then some (ofOctets name) else none
    | none => none
  ['.'] :: ['.', '.'] :: names

/-- Which names in a directory count. -/
structure NameRule where
  /-- A pattern need not begin with a dot to match a name that does. -/
  hidden : Bool
  /-- The names for the directory itself and for the one above count too. -/
  ownNames : Bool

/-- The names of a directory that match a pattern. A name that begins with a dot is only matched by a pattern
that does too, unless the rule says otherwise. -/
def namesMatching (fs : FileSystem) (wd : Location) (rule : NameRule) (dir : Chars) (g : Glob) : List Chars :=
  let path : Path := ⟨toOctets (if dir = [] then ['.'] else dir)⟩
  match fs.locate wd path with
  | .error _ => []
  | .ok place =>
    if (fs.get? place).any fun entry => entry.isDirectory && entry.permissions.mayRead then
      let dotted := (g.head?.map (·.char)) == some '.'
      (namesIn fs place).filter fun name =>
        (dotted || rule.hidden || name.head? != some '.') &&
          (rule.ownNames || !(name == ['.'] || name == ['.', '.'])) && g.matchesText name
    else []

/-- The paths below `dir` that match the components of a pattern. -/
def pathsBelow (fs : FileSystem) (wd : Location) (rule : NameRule) : Chars → List Glob → List Chars
  | _, [] => []
  | dir, g :: rest =>
    if isOpen g then
      (namesMatching fs wd rule dir g).flatMap fun name =>
        if rest = [] then [dir ++ name] else pathsBelow fs wd rule (dir ++ name ++ ['/']) rest
    else if rest.any isOpen then pathsBelow fs wd rule (dir ++ literalText g ++ ['/']) rest
    else
      let path := dir ++ ['/'].intercalate ((g :: rest).map literalText)
      if (fs.locateLink wd ⟨toOctets path⟩).isOk then [path] else []

/-- The paths that match a pattern, in the order of their octets. Nothing if the pattern can match only
itself. -/
def paths (fs : FileSystem) (wd : Location) (rule : NameRule) (g : Glob) : List Chars :=
  let components := components g
  if components.any isOpen then
    ordered (pathsBelow fs wd rule [] components)
  else []

end Glob

end ConsumerCheck.Shell
