import ConsumerCheck.Shell.ParameterForm

/-!
# Expansion of words

Before a command runs, its words are expanded: parameters give way to their values, commands to what they
write, expressions to numbers, and a tilde at the start to a home directory. The result is split into fields, and
a field that is a pattern gives way to the files that match it.

* `Place` — how far the expansion of a word has come;
* `expandWord` — a word as stretches of glyphs;
* `Action.fieldsOf`, `Action.textOf`, `Action.patternOf` — a word as fields, as a text, as a pattern.

What runs a command that stands in a word is handed in.
-/

namespace ConsumerCheck.Shell

/-- How far the expansion of a word has come. -/
structure Place where
  /-- Whether quotes are open. -/
  inner : Bool
  /-- How many pieces are part of one before them. -/
  skip : Nat
  /-- Whether a tilde counts here. -/
  atStart : Bool
  /-- Whether the sign of an assignment has been met. -/
  afterSign : Bool

/-- The home directories of accounts by name. -/
def accountHomes : List (String × String) := [
  ("root", "/root"), ("daemon", "/usr/sbin"), ("bin", "/bin"), ("sys", "/dev"), ("sync", "/bin"),
  ("games", "/usr/games"), ("man", "/var/cache/man"), ("lp", "/var/spool/lpd"),
  ("mail", "/var/mail"), ("news", "/var/spool/news"), ("uucp", "/var/spool/uucp"),
  ("proxy", "/bin"), ("www-data", "/var/www"), ("backup", "/var/backups"), ("list", "/var/list"),
  ("irc", "/run/ircd"), ("nobody", "/nonexistent")]

/-- The name of an account after a tilde, if nothing is quoted in it. -/
def accountName? (assignment : Bool) : List Piece → Option Chars
  | [] => some []
  | .char c :: rest =>
    if c = '/' || (assignment && c == ':') then some []
    else (accountName? assignment rest).map (c :: ·)
  | _ => none

/-- The home directory that a tilde with a name after it stands for. -/
def homeOf? (s : Session) (name : Chars) : Option Chars :=
  if name = [] then (s.stored? (chars "HOME")).orElse fun _ => if s.rich then some (chars "/root") else none
  else (accountHomes.lookup (String.ofList name)).map chars

/-- The plain characters at the start of pieces, up to one after which a tilde counts. -/
def plainRun (e : Expanding) (afterSign : Bool) : List Piece → Chars
  | .char c :: rest =>
    if e.assignment && (c == ':' || (c == '=' && !afterSign)) then [c]
    else c :: plainRun e afterSign rest
  | _ => []

section

variable (capture : Statement → Action Chars)

mutual

/-- Pieces as stretches, from a place on. -/
def expandPieces (e : Expanding) (place : Place) : List Piece → Action (List Stretch)
  | [] => return []
  | .quotes :: q :: .quotes :: rest => do
    if place.skip ≠ 0 then expandPieces e { place with skip := place.skip - 1 } (q :: .quotes :: rest)
    else
      let outside : Place := { place with atStart := false }
      let quotes : Stretch := ⟨.whole, [.quotes]⟩
      if standsForSeveral q && !place.inner && (← get).rich then
        let (found, _) ← expandPiece e { outside with inner := true } [] q
        let shown := if found.isEmpty then [] else quotes :: found ++ [quotes]
        return shown ++ (← expandPieces e outside rest)
      else
        return quotes :: (← expandPieces e { outside with inner := !place.inner } (q :: .quotes :: rest))
  | p :: rest => do
    if place.skip ≠ 0 then expandPieces e { place with skip := place.skip - 1 } rest
    else
      let s ← get
      let home? : Option (Chars × Nat) :=
        match place.atStart, p with
        | true, .char '~' =>
          (accountName? e.assignment rest).bind fun name =>
            (homeOf? s name).map fun home => (home, name.length)
        | _, _ => none
      let (stretches, place) ← match home? with
        | some (home, length) =>
          pure ([stretchOf true home], { place with skip := length, atStart := false })
        | none => expandPiece e { place with atStart := false } rest p
      return stretches ++ (← expandPieces e place rest)

/-- A piece as stretches, with the place after it. `rest` is what follows. -/
def expandPiece (e : Expanding) (place : Place) (rest : List Piece) :
    Piece → Action (List Stretch × Place)
  | .char c => do
    let run := plainRun e place.afterSign (.char c :: rest)
    let rule : SplitRule :=
      if e.splitsText && !e.quoted && !place.inner then .atSeparators else .whole
    let last := run.getLast?
    let met := e.assignment && (last == some ':' || (last == some '=' && !place.afterSign))
    return ([⟨rule, run.map .plain⟩], { place with
      skip := run.length - 1
      atStart := met
      afterSign := place.afterSign || (met && last == some '=') })
  | .escaped c => return ([⟨.whole, [.escaped c]⟩], place)
  | .quotes => return ([⟨.whole, [.quotes]⟩], { place with inner := !place.inner })
  | .arguments => do
    let s ← get
    return (((valueOf? s e true ['@']).map (·.1)).toList, place)
  | .output body => do
    let text ← match body with
      | none => pure []
      | some body => capture body
    let text := (text.reverse.dropWhile (· == '\n')).reverse.filter (· ≠ '\x00')
    return ([stretchOf (e.quoted || place.inner) text], place)
  | .arithmetic expression => do
    let inside ← expandPieces ⟨false, false, false, false⟩ ⟨false, 0, false, false⟩ expression
    let text := Stretch.text inside
    let text ← calculate (if (← get).rich then text.filter (· ≠ '"') else text)
    return ([stretchOf (e.quoted || place.inner) text], place)
  | .divider => return ([⟨.whole, [.stop]⟩], place)
  | .values _ => return ([], place)
  | .parameter name subscript use emptyCounts word => do
    let quoted := e.quoted || place.inner
    let s ← get
    let bare : Expanding := ⟨false, false, false, false⟩
    let start : Place := ⟨false, 0, true, place.afterSign⟩
    let wordHere := { e with quoted, splitsText := true }
    if s.rich then
      let key ← expandPieces bare ⟨false, 0, false, false⟩ subscript
      let key := if subscript.isEmpty then none else some (Stretch.text key)
      let found ← richUse ⟨name, key, use, emptyCounts, e, quoted⟩ (!word.isEmpty)
        (expandPieces bare start word) (expandPieces wordHere start word)
      return (found, place)
    else
    let found := (valueOf? s e quoted name).filter fun (_, length) => !emptyCounts || length ≠ 0
    let value := (found.map (·.1)).toList
    let checked : Action Unit :=
      if found.isNone && s.has .stopOnUnset then unset name false none else pure ()
    let stretches ← match use with
      | .value => do
        checked
        pure value
      | .length => do
        checked
        let length := (found.map (·.2)).getD 0
        pure [stretchOf quoted (chars (toString length))]
      | .default =>
        if found.isSome then pure value else expandPieces wordHere start word
      | .alternative =>
        if found.isSome then expandPieces wordHere start word else pure []
      | .assign =>
        if found.isSome then pure value
        else do
          let text := Stretch.text (← expandPieces bare start word)
          Action.checkName name
          Action.assign name text
          pure (((valueOf? (← get) e quoted name).map (·.1)).toList)
      | .required =>
        if found.isSome then pure value
        else do
          let text := Stretch.text (← expandPieces bare start word)
          unset name emptyCounts (if word.isEmpty then none else some text)
      | .trimmed atStart longest => do
        checked
        let glyphs := (← expandPieces bare start word).flatMap (·.glyphs)
        let pattern := Glob.ofGlyphs glyphs
        let trim (value : List Glyph) : List Glyph :=
          if atStart then pattern.withoutStart longest value else pattern.withoutEnd longest value
        pure (value.map fun stretch => { stretch with glyphs := trim stretch.glyphs })
      | _ => Action.fail (chars "Bad substitution")
    return (stretches, place)

end

/-- A word as stretches. -/
def expandWord (e : Expanding) (word : Word) : Action (List Stretch) :=
  expandPieces capture e ⟨false, 0, !e.assignment && !e.quoted, false⟩ word

namespace Action

/-- A word as a text. -/
def textOf (word : Word) : Action Chars := do
  return Stretch.text (← expandWord capture ⟨false, false, false, false⟩ word)

/-- A word that sets a variable, as a text. -/
def assignmentOf (word : Word) : Action Chars := do
  return Stretch.text (← expandWord capture ⟨false, false, false, true⟩ word)

/-- A text in the script as it is handed to a command. -/
def documentOf (word : Word) : Action Chars := do
  return Stretch.text (← expandWord capture ⟨true, false, false, false⟩ word)

/-- A word as a pattern. -/
def patternOf (word : Word) : Action Glob := do
  let stretches ← expandWord capture ⟨false, false, false, false⟩ word
  let pattern := Glob.ofGlyphs (stretches.flatMap (·.glyphs))
  return if (← get).rich then pattern.withCarets else pattern

/-- A field as texts: the files that match it, or itself. -/
def pathsOf (field : List Glyph) : Action (List Chars) := do
  let s ← get
  if s.has .noGlobbing then return [Glyph.text field]
  else
    let pattern := Glob.ofGlyphs field
    let hasHabit (name : String) : Bool := s.rich && Mode.hasHabit s.modes name
    let rule : Glob.NameRule := ⟨hasHabit "dotglob", !hasHabit "globskipdots"⟩
    let pattern := if s.rich then pattern.withCarets else pattern
    let found := pattern.paths s.files s.directory rule
    if found ≠ [] then return found
    else if (Glob.components pattern).any Glob.isOpen then
      if hasHabit "failglob" then Action.drop [] (chars "no match: " ++ Glyph.text field)
      else return if hasHabit "nullglob" then [] else [Glyph.text field]
    else return [Glyph.text field]

/-- Stretches in which those that are split alike and stand side by side are one. -/
def joinStretches : List Stretch → List Stretch
  | ⟨.atSeparators, first⟩ :: rest =>
    match joinStretches rest with
    | ⟨.atSeparators, second⟩ :: more => ⟨.atSeparators, first ++ second⟩ :: more
    | more => ⟨.atSeparators, first⟩ :: more
  | s :: rest => s :: joinStretches rest
  | [] => []

/-- A word as fields. -/
def fieldsOf (word : Word) : Action (List Chars) := do
  let rich := (← get).rich
  let assignment := rich && (richAssignment? word).isSome
  let stretches ← expandWord capture ⟨false, true, false, assignment⟩ word
  let stretches := if rich then joinStretches stretches else stretches
  let split := fields (← get).separators rich none stretches
  return (← split.mapM pathsOf).flatten

end Action

end

end ConsumerCheck.Shell
