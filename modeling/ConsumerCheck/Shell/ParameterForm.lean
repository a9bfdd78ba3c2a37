import ConsumerCheck.Shell.Builtin.Quoting
import ConsumerCheck.Shell.Parameter

/-!
# Forms of parameters in the richer shell

The richer shell has lists, and more forms in which the value of a parameter can be used.

* `Session.element?` — what stands at a place in a list;
* `Selected`, `select` — the values that a parameter stands for;
* `replaceIn`, `changeCase`, `partOf` — a value in another form;
* `ParameterForm`, `richUse` — a use of a parameter.
-/

namespace ConsumerCheck.Shell

namespace Session

/-- All values of a variable, each with its place. -/
def elements (s : Session) (name : Chars) : List (Nat × Chars) :=
  match if s.rich then s.ownValues? name else none with
  | some values => values.zipIdx.map fun (value, i) => (i, value)
  | none => ((s.bindings.lookup name).map (·.values)).getD []

/-- What stands at a place in a list. A place below zero counts from the end. -/
def element? (s : Session) (name : Chars) (place : Int) : Option Chars :=
  let all := s.elements name
  let place := if place < 0 then place + ((all.map (·.1)).foldl max 0 : Nat) + 1 else place
  if place < 0 then none else all.lookup place.toNat

/-- A list with a value at a place. -/
def putAt (place : Nat) (value : Chars) : List (Nat × Chars) → List (Nat × Chars)
  | [] => [(place, value)]
  | (n, v) :: rest =>
    if n = place then (n, value) :: rest
    else if place < n then (place, value) :: (n, v) :: rest
    else (n, v) :: putAt place value rest

/-- With a value at a place in a list. -/
def withElement (s : Session) (name : Chars) (place : Nat) (value : Chars) : Session :=
  let before := (s.bindings.lookup name).getD (.ofValue none false false)
  let others := before.others.getD []
  s.withVariable name
    (if place = 0 then { before with value := some value, others := some others }
    else { before with others := some (putAt place value others) })

/-- With a list of values in the place of what a variable was before. -/
def withList (s : Session) (name : Chars) (values : List (Nat × Chars)) : Session :=
  let before := (s.bindings.lookup name).getD (.ofValue none false false)
  let later := values.filter (·.1 ≠ 0)
  s.withVariable name { before with value := values.lookup 0, others := some later }

end Session

/-- The values that a parameter stands for. -/
structure Selected where
  /-- For all values of a list: the name that says whether they are one value between quotes. -/
  several : Option Chars
  values : List Chars
  deriving Repr

/-- The place that a text stands for in a list. -/
def placeIn (key : Chars) : Action Int := calculateNumber key

/-- The values that a parameter stands for, with a subscript perhaps. -/
def select (name : Chars) (key : Option Chars) : Action Selected := do
  let s ← get
  match key with
  | none =>
    if name = ['@'] ∨ name = ['*'] then return ⟨some name, s.arguments⟩
    else return ⟨none, (s.value? name).toList⟩
  | some key =>
    if key = ['@'] ∨ key = ['*'] then return ⟨some key, (s.elements name).map (·.2)⟩
    else
      let place ← placeIn key
      return ⟨none, ((← get).element? name place).toList⟩

/-- Glyphs up to the first divider, and what follows it. -/
def cutAtDivider (glyphs : List Glyph) : List Glyph × Option (List Glyph) :=
  let first := glyphs.takeWhile (· ≠ .stop)
  (first, if first.length < glyphs.length then some (glyphs.drop (first.length + 1)) else none)

/-- The length of the longest part at the start of a text that matches, if one does. -/
def matchLength? (parts : List GlobPart) (text : Chars) : Option Nat :=
  (List.range (text.length + 1)).reverse.find? fun n => GlobPart.matchAll parts (text.take n)

/-- The text that takes the place of a match, where a sign that is not quoted stands for the match. -/
def replacement (matched : Chars) : (quoted : Bool) → List Glyph → Chars
  | _, [] => []
  | quoted, .quotes :: rest => replacement matched (!quoted) rest
  | quoted, .stop :: rest => replacement matched quoted rest
  | quoted, .escaped c :: rest => c :: replacement matched quoted rest
  | false, .plain '&' :: rest => matched ++ replacement matched false rest
  | false, .plain '\\' :: .plain '&' :: rest => '&' :: replacement matched false rest
  | quoted, .plain c :: rest => c :: replacement matched quoted rest

/-- A text with its matches replaced, each of them or only the first. -/
def replaceFrom (parts : List GlobPart) (instead : List Glyph) (every : Bool) : Nat → Chars → Chars
  | 0, text => text
  | _, [] => []
  | n + 1, c :: rest =>
    match (matchLength? parts (c :: rest)).filter (· ≠ 0) with
    | none => c :: replaceFrom parts instead every n rest
    | some length =>
      let after := (c :: rest).drop length
      replacement ((c :: rest).take length) false instead ++
        if every then replaceFrom parts instead every n after else after

/-- A text with what matches a pattern replaced. -/
def replaceIn (where_ : Replacing) (pattern : Glob) (instead : List Glyph) (text : Chars) : Chars :=
  let parts := pattern.parts
  match where_ with
  | .first => if parts.isEmpty then text else replaceFrom parts instead false (text.length + 1) text
  | .every => if parts.isEmpty then text else replaceFrom parts instead true (text.length + 1) text
  | .start =>
    match matchLength? parts text with
    | some n => replacement (text.take n) false instead ++ text.drop n
    | none => text
  | .finish =>
    match (List.range (text.length + 1)).find? fun n => GlobPart.matchAll parts (text.drop n) with
    | some n => text.take n ++ replacement (text.drop n) false instead
    | none => text

/-- A text with capital or small letters, where the pattern matches them. -/
def changeCase (capital every : Bool) (pattern : Glob) (text : Chars) : Chars :=
  let parts := pattern.parts
  let change (c : Char) : Char :=
    if parts.isEmpty || GlobPart.matchAll parts [c] then if capital then c.toUpper else c.toLower else c
  if every then text.map change
  else
    match text with
    | [] => []
    | c :: rest => change c :: rest

/-- A part of a list, from a place on and of a length; nothing if the end lies before the start. -/
def partOf (offset : Int) (length : Option Int) (list : List α) : Option (List α) :=
  let size : Int := list.length
  let start := if offset < 0 then size + offset else offset
  if start < 0 ∨ size < start then some []
  else
    let finish := match length with
      | none => size
      | some n => if n < 0 then size + n else start + n
    if finish < start then none else some ((list.drop start.toNat).take (finish - start).toNat)

/-- A use of a parameter. -/
structure ParameterForm where
  name : Chars
  /-- The subscript, expanded. -/
  key : Option Chars
  use : ParameterUse
  emptyCounts : Bool
  expanding : Expanding
  quoted : Bool

namespace ParameterForm

/-- The parameter as it is written, as far as that is known. -/
def written (p : ParameterForm) : Chars :=
  p.name ++ (p.key.map fun key => '[' :: key ++ [']']).getD []

/-- The name that complaints use. -/
def shownName (p : ParameterForm) : Chars :=
  if p.name.all Char.isDigit then '$' :: p.name else p.written

/-- Values as parts of a word. -/
def stretches (p : ParameterForm) (s : Session) (selected : Selected) : List Stretch :=
  match selected.several, selected.values with
  | some _, [] => []
  | some name, values => [stretchOfAll s p.expanding p.quoted name values]
  | none, values => values.map (stretchOf p.quoted)

/-- The parameter whose name is the value of another one. -/
def named (p : ParameterForm) (value : Chars) : ParameterForm :=
  match value.span (· != '[') with
  | (name, '[' :: inside) => { p with name, key := some inside.dropLast }
  | (name, _) => { p with name }

end ParameterForm

/-- Sets what a parameter stands for. -/
def assignTo (name : Chars) (key : Option Chars) (value : Chars) : Action Unit := do
  match key with
  | none => Action.assign name value
  | some key => do
    Action.checkWritable name
    let place ← placeIn key
    let last := (((← get).elements name).map (·.1)).foldl max 0
    let place := if place < 0 then place + last + 1 else place
    if place < 0 then
      Action.drop [] (name ++ '[' :: key ++ chars "]: bad array subscript")
    modify (·.withElement name place.toNat value)

/-- The complaint about a form that does not exist. -/
def badSubstitution (p : ParameterForm) : Action α :=
  let written := if p.use = .unknown then p.name else chars "$\x7b" ++ p.written ++ ['\x7d']
  Action.drop (chars "Bad substitution") (written ++ chars ": bad substitution")

/-- The values in another form. `bare` is the word, expanded. -/
def transformedBy (p : ParameterForm) (selected : Selected) (bare : List Stretch) : Action Selected := do
  let glyphs := bare.flatMap (·.glyphs)
  let each (f : Chars → Chars) : Action Selected :=
    return { selected with values := selected.values.map f }
  match p.use with
  | .trimmed atStart longest =>
    let pattern := (Glob.ofGlyphs glyphs).withCarets
    let trim (value : Chars) : Chars :=
      let glyphs := value.map Glyph.escaped
      Glyph.text (if atStart then pattern.withoutStart longest glyphs else pattern.withoutEnd longest glyphs)
    each trim
  | .replaced where_ =>
    let (pattern, instead) := cutAtDivider glyphs
    each (replaceIn where_ (Glob.ofGlyphs pattern).withCarets (instead.getD []))
  | .cased capital every => each (changeCase capital every (Glob.ofGlyphs glyphs).withCarets)
  | .part => do
    let (first, second) := cutAtDivider glyphs
    let offset ← calculateNumber (Glyph.text first)
    let length ← match second with
      | none => pure none
      | some glyphs => some <$> calculateNumber (Glyph.text glyphs)
    let outside (text : Option (List Glyph)) : Action Selected :=
      Action.drop [] (Glyph.text (text.getD []) ++ chars ": substring expression < 0")
    match selected.several with
    | none =>
      match selected.values with
      | [] => return selected
      | value :: _ =>
        match partOf offset length value with
        | some part => return { selected with values := [part] }
        | none => outside second
    | some _ =>
      let s ← get
      if length.any (· < 0) then outside second
      else if p.key.isNone then
        let all := s.name :: s.arguments
        return { selected with values := (partOf offset length all).getD [] }
      else
        let all := s.elements p.name
        let start := if offset < 0 then offset + ((all.map (·.1)).foldl max 0 : Nat) + 1 else offset
        let later := if start < 0 then [] else all.filter fun (n, _) => start ≤ n
        let count := (length.map Int.toNat).getD later.length
        return { selected with values := (later.take count).map (·.2) }
  | .transformed letter =>
    match letter with
    | 'Q' => each (Builtin.singleQuoted)
    | 'U' => each (·.map Char.toUpper)
    | 'u' => each (changeCase true false [])
    | 'L' => each (·.map Char.toLower)
    | 'E' => each fun value => Escape.decode (value.length + 1) value
    | 'P' | 'A' | 'K' | 'k' | 'a' => return selected
    | _ => badSubstitution p
  | _ => badSubstitution p

/-- A use of a parameter in the richer shell. `bare` expands the word as a text, and `here` as a part of the word
that it stands in. -/
def richUse (p : ParameterForm) (hasWord : Bool) (bare here : Action (List Stretch)) :
    Action (List Stretch) := do
  let s ← get
  let indirect := p.name.head? = some '!' && 1 < p.name.length
  let inner := p.name.drop 1
  if indirect && (p.key = some ['@'] || p.key = some ['*']) then
    let places := (s.elements inner).map fun (n, _) => chars (toString n)
    return p.stretches s ⟨p.key, places⟩
  else
    let p ← if indirect then do
        let target ← select inner p.key
        pure ({ p with key := none }.named (target.values.headD []))
      else pure p
    let selected ← select p.name p.key
    let s ← get
    let text := [' '].intercalate selected.values
    let isSet := !selected.values.isEmpty && !(p.emptyCounts && text.isEmpty)
    let checked : Action Unit := do
      if selected.values.isEmpty && selected.several.isNone && s.has .stopOnUnset then
        Action.outsideCommand (Action.complain (p.shownName ++ chars ": unbound variable"))
        Action.endUnset
    match p.use with
    | .value => do
      checked
      return p.stretches s selected
    | .length => do
      checked
      let length := if selected.several.isSome then selected.values.length else text.length
      return [stretchOf p.quoted (chars (toString length))]
    | .default => if isSet then return p.stretches s selected else here
    | .alternative => if isSet then here else return []
    | .assign =>
      if isSet then return p.stretches s selected
      else do
        let value := Stretch.text (← bare)
        Action.checkName p.name
        assignTo p.name p.key value
        return [stretchOf p.quoted value]
    | .required =>
      if isSet then return p.stretches s selected
      else do
        let value := Stretch.text (← bare)
        unset p.written p.emptyCounts (if hasWord then some value else none)
    | .unknown => badSubstitution p
    | _ => do
      checked
      let changed ← transformedBy p selected (← bare)
      return p.stretches (← get) changed

/-- Whether a piece stands for any number of values, each of which is one between quotes. -/
def standsForSeveral : Piece → Bool
  | .parameter name subscript use _ _ =>
    let list := name = ['@'] || (literal? subscript) = some ['@']
    let counts := match use with
      | .value | .alternative | .trimmed .. | .replaced _ | .part | .cased .. | .transformed _ => true
      | _ => false
    list && counts
  | _ => false

end ConsumerCheck.Shell
