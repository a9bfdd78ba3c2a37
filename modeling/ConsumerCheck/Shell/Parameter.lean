import ConsumerCheck.Shell.Arithmetic
import ConsumerCheck.Shell.Glob
import ConsumerCheck.Shell.Session

/-!
# Values of parameters and expressions

* `Expanding` — what a word is expanded for;
* `valueOf?` — the value of a parameter, as a part of a word;
* `unset` — the complaint that there is none;
* `calculate` — the value of an expression.
-/

namespace ConsumerCheck.Shell

/-- What a word is expanded for. -/
structure Expanding where
  /-- Whether the word stands between quotes. -/
  quoted : Bool
  /-- Whether the result is split into fields. -/
  full : Bool
  /-- Whether the characters of the word itself are split too, if they are not quoted. -/
  splitsText : Bool
  /-- Whether the word sets a variable, so that a tilde counts after its signs. -/
  assignment : Bool

/-- The glyph of a character of a value. -/
def glyphOf (quoted : Bool) (c : Char) : Glyph :=
  if quoted && (c == '\\' || isPatternSign c) then .escaped c else .plain c

/-- A value as a stretch. -/
def stretchOf (quoted : Bool) (value : Chars) : Stretch :=
  ⟨if quoted then .whole else .atSeparators, value.map (glyphOf quoted)⟩

/-- What separates the arguments of a script when they are one value: nothing, a character or the end of
an argument. -/
def argumentSeparator (s : Session) (e : Expanding) (quoted : Bool) (name : Chars) :
    Option Glyph :=
  let separators := s.stored? (chars "IFS")
  if quoted && e.full && name = ['@'] then some .stop
  else if !quoted && e.full then
    match separators, s.rich with
    | some (c :: _), true => if " \t\n".toList.contains c then some .stop else some (.plain c)
    | some _, _ => some .stop
    | none, rich => if rich then some .stop else some (.plain ' ')
  else if s.rich && name = ['@'] then some (.plain ' ')
  else
    match separators with
    | none => some (.plain ' ')
    | some [] => none
    | some (c :: _) => some (glyphOf quoted c)

/-- Several values as a stretch. The name says whether they are one value between quotes. -/
def stretchOfAll (s : Session) (e : Expanding) (quoted : Bool) (name : Chars) (values : List Chars) :
    Stretch :=
  let separator := (argumentSeparator s e quoted name).toList
  let glyphs := separator.intercalate (values.map fun a => a.map (glyphOf quoted))
  let rule : SplitRule :=
    if !quoted then .atSeparators
    else if name = ['@'] ∧ values ≠ [] then .atStops
    else .whole
  ⟨rule, glyphs⟩

/-- The value of a parameter as a stretch, with its length; nothing if it has no value. -/
def valueOf? (s : Session) (e : Expanding) (quoted : Bool) (name : Chars) :
    Option (Stretch × Nat) :=
  if name = ['@'] ∨ name = ['*'] then
    let stretch := stretchOfAll s e quoted name s.arguments
    some (stretch, stretch.glyphs.length)
  else (s.value? name).map fun value => (stretchOf quoted value, value.length)

/-- Ends the script because a parameter has no value. -/
def unset (name : Chars) (emptyCounts : Bool) (reason : Option Chars) : Action α := do
  let usual := if emptyCounts then "parameter not set or null" else "parameter not set"
  let richly := if emptyCounts then "parameter null or not set" else "parameter not set"
  if (← get).rich then
    Action.outsideCommand (Action.complain (name ++ chars ": " ++ reason.getD (chars richly)))
    Action.endUnset
  else Action.fail (name ++ chars ": " ++ reason.getD (chars usual))

/-- How deep the values of variables in an expression may be expressions again. -/
def maxExpressions : Nat := 100

/-- The value of an expression in the richer shell, or the words for its fault. -/
def calculateRichly (expression : Chars) : Action (Except Chars Int64) := do
  let s ← get
  let (result, set) := Arithmetic.richValue s.stored? (s.has .stopOnUnset) maxExpressions expression
  set.forM fun (name, n) => Action.assign name (chars (toString n.toInt))
  match result with
  | .ok n => return .ok n
  | .error (text, ends) => do
    if ends then
      Action.outsideCommand (Action.complain text)
      Action.endUnset
    return .error text

/-- The value of an expression. -/
def calculateNumber (expression : Chars) : Action Int := do
  if (← get).rich then
    match ← calculateRichly expression with
    | .ok n => return n.toInt
    | .error text => Action.drop [] text
  else
    let (result, set) := Arithmetic.value (← get).stored? expression
    set.forM fun (name, n) => Action.assign name (chars (toString n.toInt))
    match result with
    | .ok n => return n.toInt
    | .error fault => Action.fail (fault.message expression)

/-- The value of an expression as text. -/
def calculate (expression : Chars) : Action Chars := do return chars (toString (← calculateNumber expression))

end ConsumerCheck.Shell
