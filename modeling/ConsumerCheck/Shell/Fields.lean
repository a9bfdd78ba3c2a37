import ConsumerCheck.Shell.Syntax

/-!
# Fields

When a word has been expanded, it is split into fields. Only what came from values outside quotes is split:
at the separators, or at the ends of arguments.

* `Glyph` — a character of an expanded word;
* `Stretch` — a part of an expanded word that is split in one way;
* `Splitting` — how far the splitting has come;
* `fields` — the fields of an expanded word.

A blank that separates counts once, however often it stands; any other separator ends a field each time. If
only so many fields are asked for, the last one takes all that is left, without blanks at its end.
-/

namespace ConsumerCheck.Shell

/-- A character of an expanded word. -/
inductive Glyph where
  | plain (c : Char)
  /-- A character that stands for itself. -/
  | escaped (c : Char)
  /-- Quotes, which make a field even if nothing stands between them. -/
  | quotes
  /-- The end of an argument. -/
  | stop
  deriving DecidableEq, Repr

namespace Glyph

/-- The character of a glyph. -/
def char? : Glyph → Option Char
  | plain c => some c
  | escaped c => some c
  | _ => none

/-- The text of glyphs. -/
def text (glyphs : List Glyph) : Chars := glyphs.filterMap char?

end Glyph

/-- How a part of an expanded word is split. -/
inductive SplitRule where
  /-- Not at all. -/
  | whole
  | atSeparators
  | atStops
  deriving DecidableEq, Repr

/-- A part of an expanded word that is split in one way. -/
structure Stretch where
  rule : SplitRule
  glyphs : List Glyph
  deriving Repr

/-- The text of an expanded word. -/
def Stretch.text (stretches : List Stretch) : Chars :=
  stretches.flatMap fun s => Glyph.text s.glyphs

/-- How far the splitting of a word has come. -/
structure Splitting where
  /-- The fields that are finished, the last one first. -/
  done : List (List Glyph)
  /-- The field that has begun, its last glyph first. -/
  current : List Glyph
  /-- Whether the last separator was a blank. -/
  afterBlank : Bool
  /-- How many fields may still be made, if that is limited. -/
  limit : Option Nat
  /-- How much of the last field remains if nothing but blanks follows. -/
  kept : Option Nat

namespace Splitting

/-- The characters that count as blanks where they separate. -/
def isBlank (g : Glyph) : Bool :=
  match g with
  | .stop => true
  | g => g.char?.any fun c => c == ' ' || c == '\t' || c == '\n'

/-- Whether a glyph separates fields. -/
def separates (separators : Chars) (rule : SplitRule) (g : Glyph) : Bool :=
  match g, rule with
  | .stop, _ => true
  | g, .atSeparators => g.char?.any separators.contains
  | _, _ => false

/-- With a glyph in the field. -/
def push (s : Splitting) (g : Glyph) : Splitting := { s with current := g :: s.current }

/-- One more glyph, if the last field has begun. -/
def stepLast (s : Splitting) (separator blank : Bool) (g : Glyph) : Splitting :=
  if blank then { s with kept := some (s.kept.getD s.current.length) }.push g
  else
    let kept := if separator && s.afterBlank then s.kept else none
    { s with kept, afterBlank := false }.push g

/-- A separator that ends a field. With `hard` it is no blank, whatever it looks like. -/
def stepSeparator (s : Splitting) (hard blank : Bool) (g : Glyph) : Splitting :=
  let afterBlank := !hard && blank
  if s.current.isEmpty && afterBlank then { s with afterBlank := false }
  else if s.limit = some 1 then
    { s with limit := some 0, kept := some s.current.length, afterBlank }.push g
  else
    { s with
      done := s.current.reverse :: s.done
      current := []
      limit := s.limit.map (· - 1)
      afterBlank }

/-- One more glyph of a part that is split. -/
def step (separators : Chars) (rule : SplitRule) (hard : Bool) (s : Splitting) (g : Glyph) :
    Splitting :=
  let separator := separates separators rule g
  let blank := separator && isBlank g
  if s.limit = some 0 then s.stepLast separator blank g
  else if s.afterBlank then
    if blank then { s with current := [] }
    else if separator then { s with current := [], afterBlank := false }
    else { s with current := [g], afterBlank := false }
  else if separator then s.stepSeparator hard blank g
  else s.push g

/-- One more part. The second component says whether the part before was split at the ends of arguments
only. `firm` says that blanks before what is not split are kept in the last field. -/
def stretch (separators : Chars) (firm : Bool) (state : Splitting × Bool) (part : Stretch) : Splitting × Bool :=
  let (s, afterStops) := state
  match part.rule with
  | .whole =>
    ({ s with current := part.glyphs.reverse ++ s.current, kept := if firm then none else s.kept }, afterStops)
  | rule =>
    let atStops := rule == .atStops
    let hard := afterStops || atStops
    (part.glyphs.foldl (step separators rule hard) { s with afterBlank := false }, atStops)

end Splitting

/-- The fields of an expanded word, at most so many. -/
def fields (separators : Chars) (firm : Bool) (limit : Option Nat) (word : List Stretch) : List (List Glyph) :=
  let (s, atStops) := word.foldl (Splitting.stretch separators firm) (⟨[], [], false, limit, none⟩, false)
  let last := s.current.reverse
  let last := match s.kept with
    | some n => if atStops then last else last.take n
    | none => last
  if atStops || last ≠ [] then (last :: s.done).reverse else s.done.reverse

end ConsumerCheck.Shell
