import ConsumerCheck.Shell.Glob

/-!
# Regular expressions

A regular expression stands for texts. Of the parts of a text for which it stands, the one that begins first is
found, and of those the longest. What a group has taken can be asked for afterwards, and by the expression
itself.

* `Regex` — an expression;
* `Regex.ends` — the places at which a match from a given place may end, the longest first;
* `Regex.first?` — the match that is found.
-/

namespace ConsumerCheck.Shell

/-- What a place in a text may be asked to be. -/
inductive Anchor where
  | lineStart
  | lineEnd
  | textStart
  | textEnd
  /-- A place where a word begins or ends. -/
  | wordEdge
  | noWordEdge
  | wordStart
  | wordEnd
  deriving DecidableEq, Repr

/-- A regular expression. -/
inductive Regex where
  /-- The empty text. -/
  | empty
  /-- A character of a list, or one that is not in it. -/
  | one (negated : Bool) (members : List GlobMember)
  | anchor (a : Anchor)
  | sequence (first second : Regex)
  | either (first second : Regex)
  | repeated (least : Nat) (most : Option Nat) (body : Regex)
  | group (number : Nat) (body : Regex)
  /-- What a group has taken. -/
  | same (number : Nat)
  deriving Repr

namespace Regex

/-- The text that is searched, and how. -/
structure Subject where
  text : Array Char
  /-- Whether small and capital letters count as the same. -/
  folded : Bool
  /-- Whether lines inside the text have a start and an end. -/
  byLine : Bool

/-- A place that a match has come to, with what its groups have taken. -/
structure Spot where
  here : Nat
  groups : List (Nat × Nat × Nat)
  deriving DecidableEq, Repr

/-- Whether a character may stand in a word. -/
def inWord (c : Char) : Bool := c.isAlphanum || c == '_'

namespace Subject

/-- Whether the character in front of a place may stand in a word. -/
def wordBefore (s : Subject) (here : Nat) : Bool := here ≠ 0 && s.text[here - 1]?.any inWord

/-- Whether the character at a place may stand in a word. -/
def wordAfter (s : Subject) (here : Nat) : Bool := s.text[here]?.any inWord

/-- Whether a place is what it is asked to be. -/
def meets (s : Subject) (here : Nat) : Anchor → Bool
  | .lineStart => here == 0 || (s.byLine && s.text[here - 1]? == some '\n')
  | .lineEnd => here == s.text.size || (s.byLine && s.text[here]? == some '\n')
  | .textStart => here == 0
  | .textEnd => here == s.text.size
  | .wordEdge => s.wordBefore here != s.wordAfter here
  | .noWordEdge => s.wordBefore here == s.wordAfter here
  | .wordStart => !s.wordBefore here && s.wordAfter here
  | .wordEnd => s.wordBefore here && !s.wordAfter here

/-- Whether a list of characters has a character. -/
def lists (s : Subject) (members : List GlobMember) (c : Char) : Bool :=
  let forms := if s.folded then [c, c.toLower, c.toUpper] else [c]
  members.any fun m => forms.any m.covers

/-- The characters between two places. -/
def between (s : Subject) (first last : Nat) : Chars := (s.text.extract first last).toList

/-- A text as it is compared. -/
def compared (s : Subject) (text : Chars) : Chars := if s.folded then text.map Char.toLower else text

end Subject

/-- Whether an expression asks what a group has taken. -/
def asksGroups : Regex → Bool
  | .same _ => true
  | .sequence a b | .either a b => a.asksGroups || b.asksGroups
  | .repeated _ _ r | .group _ r => r.asksGroups
  | _ => false

/-- Whether two spots lead to the same further matches. -/
def Spot.alike (exact : Bool) (a b : Spot) : Bool := a.here == b.here && (!exact || a.groups == b.groups)

/-- The farthest spots first, and each place once. -/
def tidy (exact : Bool) (spots : List Spot) : List Spot :=
  (spots.mergeSort fun a b => b.here ≤ a.here).foldr (fun spot kept =>
    spot :: kept.filter fun other => !spot.alike exact other) []

/-- What repetitions of a step lead to. Given are the spots after so many of them, and those that were found
before. -/
def rounds (exact : Bool) (step : Spot → List Spot) (least : Nat) (most : Option Nat) :
    Nat → (done : Nat) → (front found : List Spot) → List Spot
  | 0, _, _, found => found
  | n + 1, done, front, found =>
    let fresh := if done ≤ least then front
      else front.filter fun spot => !(found.any (·.alike exact spot))
    let found := if least ≤ done then found ++ fresh else found
    if fresh = [] ∨ most = some done then found
    else rounds exact step least most n (done + 1) (tidy exact (fresh.flatMap step)) found

/-- The spots at which a match that begins at a spot may end, the farthest first. Of two ways to the same end
the one is kept that takes more at its beginning. -/
def ends (exact : Bool) (s : Subject) : Regex → Spot → List Spot
  | .empty, spot => [spot]
  | .one negated members, spot =>
    match s.text[spot.here]? with
    | some c => if s.lists members c != negated then [{ spot with here := spot.here + 1 }] else []
    | none => []
  | .anchor a, spot => if s.meets spot.here a then [spot] else []
  | .sequence a b, spot => tidy exact ((ends exact s a spot).flatMap (ends exact s b))
  | .either a b, spot => tidy exact (ends exact s a spot ++ ends exact s b spot)
  | .repeated least most body, spot =>
    let limit := least + (s.text.size - spot.here) + 2
    tidy exact (rounds exact (ends exact s body) least most limit 0 [spot] [])
  | .group number body, spot =>
    (ends exact s body spot).map fun last =>
      { last with groups := (number, spot.here, last.here) :: last.groups.filter (·.1 ≠ number) }
  | .same number, spot =>
    match spot.groups.lookup number with
    | none => []
    | some (first, last) =>
      let next := spot.here + (last - first)
      if next ≤ s.text.size &&
          s.compared (s.between first last) == s.compared (s.between spot.here next) then
        [{ spot with here := next }]
      else []

/-- A part of a text that was found, with what its groups have taken. -/
structure Match where
  start : Nat
  finish : Nat
  groups : List (Nat × Nat × Nat)
  deriving Repr

/-- The matches that begin at a place, the longest first. -/
def matchesAt (r : Regex) (s : Subject) (start : Nat) : List Match :=
  (r.ends r.asksGroups s ⟨start, []⟩).map fun spot => ⟨start, spot.here, spot.groups⟩

/-- The match that is found from a place on. -/
def first? (r : Regex) (s : Subject) (start : Nat) : Option Match :=
  (List.range (s.text.size + 1 - start)).findSome? fun n => (r.matchesAt s (start + n)).head?

/-- The expression for one character. -/
def char (c : Char) : Regex := .one false [.one c]

/-- The expression for a text. -/
def ofText (text : Chars) : Regex := text.foldr (fun c r => .sequence (char c) r) .empty

end Regex

end ConsumerCheck.Shell
