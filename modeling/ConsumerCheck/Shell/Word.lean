import ConsumerCheck.Shell.Escape
import ConsumerCheck.Shell.Reading

/-!
# Words of a script

A word goes on until a blank or a sign that separates commands, unless it stands between quotes or braces.
What its characters mean depends on where they stand: `Level` says so for one depth of nesting, and the reading
keeps a stack of levels.

* `Scan` — what was read of a word: the levels that are open, and the marks so far;
* `Mark`, `nest` — the parts of a word in a row, and the pieces that they make;
* `readWord` — a word up to the character that ends it;
* `readDocument` — the same up to a line that ends the text.

What stands in a word as a command of its own is read by a reader that is handed in.
-/

namespace ConsumerCheck.Shell

/-- What statements are read for. -/
inductive Goal where
  /-- A command substitution, up to its closing bracket. -/
  | substitution
  /-- A command substitution between backquotes, up to the end of its text. -/
  | backquoted
  /-- What stands between two reserved words. -/
  | body
  /-- The arm of a choice, which may be empty. -/
  | arm
  /-- The body of a function. -/
  | command

/-- What reads statements inside others. -/
abbrev Nested := Goal → Reader (Option Statement)

/-- Which characters have a meaning. -/
inductive Quoting where
  | plain
  | single
  | double
  | arithmetic
  deriving DecidableEq, Repr

/-- Where characters stand, at one depth of nesting. -/
structure Level where
  quoting : Quoting
  /-- Whether a backslash and the signs of patterns count as between double quotes. -/
  doubled : Bool
  /-- How many braces are open. -/
  braces : Nat
  /-- How many of them were opened between double quotes. -/
  doubledBraces : Nat
  /-- Whether double quotes are open inside the braces. -/
  innerQuotes : Bool
  /-- Whether the level ends with its last brace. -/
  ofBraces : Bool
  /-- How many round brackets of an expression are open. -/
  brackets : Nat
  /-- Whether signs that separate commands count as characters. -/
  solid : Bool
  deriving Repr

/-- A new level. -/
def Level.new (quoting : Quoting) : Level where
  quoting := quoting
  doubled := quoting == .double || quoting == .arithmetic
  braces := 0
  doubledBraces := 0
  innerQuotes := false
  ofBraces := false
  brackets := 0
  solid := false

/-- A part of a word, in the row in which the parts are read. -/
inductive Mark where
  | piece (piece : Piece)
  /-- A use of a parameter, whose word follows. -/
  | parameter (name : Chars) (subscript : Word) (use : ParameterUse) (emptyCounts : Bool)
  /-- An expression, which follows. -/
  | arithmetic
  /-- The end of what was opened last. -/
  | close

/-- Pieces that are being collected, and what was opened before them. -/
structure Collected where
  opener : Option Mark
  /-- The pieces so far, the last one first. -/
  pieces : List Piece
  /-- Whether further pieces do not count. -/
  closed : Bool

namespace Collected

/-- With one more piece. -/
def push (f : Collected) (p : Piece) : Collected :=
  if f.closed then f else { f with pieces := p :: f.pieces }

/-- Pieces in which all arguments between quotes are one piece, unless the quotes stand inside others. -/
def joinArguments : Bool → List Piece → List Piece
  | false, .quotes :: .parameter ['@'] [] .value false [] :: .quotes :: rest =>
    .arguments :: joinArguments false rest
  | inner, .quotes :: rest => .quotes :: joinArguments (!inner) rest
  | inner, p :: rest => p :: joinArguments inner rest
  | _, [] => []

/-- The pieces as a word. -/
def word (f : Collected) : Word := joinArguments false f.pieces.reverse

/-- A word in which the first of these signs separates its parts. -/
def divided (sign : Char) : Word → Word
  | [] => []
  | .char c :: rest => if c = sign then .divider :: rest else .char c :: divided sign rest
  | p :: rest => p :: divided sign rest

/-- The word for a use, with its parts kept apart. -/
def wordFor (use : ParameterUse) (word : Word) : Word :=
  match use with
  | .replaced _ => divided '/' word
  | .part => divided ':' word
  | _ => word

/-- What encloses the pieces, with the pieces as its last piece. A plain value takes no word: the pieces
that stand there follow the value, and nothing after them counts. -/
def closeInto (inner outer : Collected) : Collected :=
  match inner.opener with
  | some (.parameter name subscript .value _) =>
    let outer := outer.push (.parameter name subscript .value false [])
    if outer.closed then outer
    else { outer with pieces := inner.pieces ++ outer.pieces, closed := true }
  | some (.parameter name subscript use emptyCounts) =>
    outer.push (.parameter name subscript use emptyCounts (wordFor use inner.word))
  | some .arithmetic => outer.push (.arithmetic inner.word)
  | _ => outer

/-- One more mark. -/
def add (stack : List Collected) (m : Mark) : List Collected :=
  match m, stack with
  | .piece p, top :: rest => top.push p :: rest
  | .close, inner :: outer :: rest => inner.closeInto outer :: rest
  | .close, stack => stack
  | opener, stack => ⟨some opener, [], false⟩ :: stack

end Collected

/-- The pieces that marks make. -/
def nest (marks : List Mark) : Word :=
  match (marks.foldl Collected.add [⟨none, [], false⟩]).getLast? with
  | some outermost => outermost.word
  | none => []

/-- What was read of a word. -/
structure Scan where
  level : Level
  outer : List Level
  /-- The marks so far, the last one first. -/
  marks : List Mark
  quoted : Bool

namespace Scan

/-- The beginning of a word. -/
def start (quoting : Quoting) : Scan := ⟨.new quoting, [], [], false⟩

/-- With one more mark. -/
def add (s : Scan) (m : Mark) : Scan := { s with marks := m :: s.marks }

/-- With a character. -/
def char (s : Scan) (c : Char) : Scan := s.add (.piece (.char c))

/-- With a character that stands for itself. -/
def escaped (s : Scan) (c : Char) : Scan := s.add (.piece (.escaped c))

/-- At a new level. -/
def push (s : Scan) (level : Level) : Scan :=
  { s with level, outer := s.level :: s.outer }

/-- At the level around this one. -/
def pop (s : Scan) : Scan :=
  match s.outer with
  | [] => s
  | level :: outer => { s with level, outer }

/-- With quotes that open or close. In a text of its own they are not marked. -/
def quotes (s : Scan) (inDocument : Bool) : Scan :=
  if inDocument then s else s.add (.piece .quotes)

/-- With double quotes that open or close. -/
def doubleQuotes (s : Scan) (inDocument : Bool) : Scan :=
  let inner := if s.level.braces = 0 then s.level.innerQuotes else !s.level.innerQuotes
  { s with level := { s.level with innerQuotes := inner } }.quotes inDocument

/-- After quotes that end. -/
def endQuotes (s : Scan) (inDocument : Bool) (c : Char) : Scan :=
  if inDocument ∧ s.level.braces = 0 then s.char c
  else
    let level := if s.level.doubledBraces = 0
      then { s.level with quoting := .plain, doubled := false } else s.level
    let s := { s with level, quoted := true }
    if c = '"' then s.doubleQuotes inDocument else s.quotes inDocument

/-- After a closing brace. -/
def endBrace (s : Scan) : Scan :=
  let l := s.level
  if l.innerQuotes ∨ l.braces = 0 then s.char '\x7d'
  else
    let l := { l with braces := l.braces - 1 }
    let s :=
      if l.braces = 0 ∧ l.ofBraces then { s with level := l }.pop
      else { s with level := { l with doubledBraces := l.doubledBraces - 1 } }
    s.add .close

end Scan

/-- The signs of patterns and paths, which stand for themselves between quotes. -/
def isPatternSign (c : Char) : Bool := "!*?[=~:/-]".toList.contains c

/-- The characters that end a word outside quotes. -/
def endsWord (c : Char) : Bool := " \t\n;&|<>()".toList.contains c || c == aliasEnd

/-- The parameters that are no variables. -/
def isSpecialParameter (c : Char) : Bool := "@*#?$!-".toList.contains c

/-- Takes characters of a name, and the one after it. -/
def takeName (p : Char → Bool) : Nat → Chars → Reader (Chars × Option Char)
  | 0, name => return (name.reverse, none)
  | n + 1, name => do
    match ← Reader.takeJoined with
    | some c => if p c then takeName p n (c :: name) else return (name.reverse, some c)
    | none => return (name.reverse, none)

/-- The number of characters that a name can have. -/
def maxNameLength : Nat := 1000000

/-- What follows the name of a parameter: its use and whether an empty value counts as none. -/
def parameterUse (c : Option Char) : Reader (ParameterUse × Bool) := do
  let rich := (← get).rich
  let simple (c : Option Char) : ParameterUse := match c with
    | some '\x7d' => .value
    | some '-' => .default
    | some '+' => .alternative
    | some '?' => .required
    | some '=' => .assign
    | _ => .unknown
  /- A sign that may stand twice. -/
  let twice (c : Option Char) (once both : ParameterUse) : Reader (ParameterUse × Bool) := do
    let d ← Reader.takeJoined
    if d = c then return (both, false)
    else
      Reader.giveBack d
      return (once, false)
  match c, rich with
  | some ':', _ => do
    let d ← Reader.takeJoined
    if rich && simple d = .unknown then
      Reader.giveBack d
      return (.part, false)
    else if rich && simple d = .value then
      Reader.giveBack d
      return (.unknown, false)
    else return (simple d, true)
  | some '%', _ => twice c (.trimmed false false) (.trimmed false true)
  | some '#', _ => twice c (.trimmed true false) (.trimmed true true)
  | some '^', true => twice c (.cased true false) (.cased true true)
  | some ',', true => twice c (.cased false false) (.cased false true)
  | some '@', true => do
    match ← Reader.takeJoined with
    | some d => return (.transformed d, false)
    | none => return (.unknown, false)
  | some '/', true => do
    let d ← Reader.takeJoined
    match [('/', Replacing.every), ('#', .start), ('%', .finish)].find? fun (sign, _) => d = some sign with
    | some (_, where_) => return (.replaced where_, false)
    | none =>
      Reader.giveBack d
      return (.replaced .first, false)
  | _, _ => return (simple c, false)

/-- The text up to the bracket that closes a subscript, where so many others are open. -/
def takeSubscript : Nat → (depth : Nat) → Chars → Reader Chars
  | 0, _, _ => throw .openBrace
  | n + 1, depth, text => do
    match ← Reader.takeJoined with
    | none => throw .openBrace
    | some ']' => if depth = 0 then return text.reverse else takeSubscript n (depth - 1) (']' :: text)
    | some '[' => takeSubscript n (depth + 1) ('[' :: text)
    | some c => takeSubscript n depth (c :: text)

/-- A subscript, if one begins here in a shell that knows them, with the character after it. -/
def subscriptFrom (within : Chars → Reader Word) (c : Option Char) : Reader (Word × Option Char) := do
  if (← get).rich && c = some '[' then
    let text ← takeSubscript maxNameLength 0 []
    let word ← within text
    return (word, ← Reader.takeJoined)
  else return ([], c)

/-- A use of a parameter between braces, as far as it is read before the word. -/
structure ParameterStart where
  name : Chars
  subscript : Word
  use : ParameterUse
  emptyCounts : Bool

/-- A parameter between braces, up to its word. `within` reads a subscript. -/
def bracedParameter (within : Chars → Reader Word) : Reader ParameterStart := do
  let first ← Reader.takeJoined
  let named (c : Char) (p : Char → Bool) := takeName p maxNameLength [c]
  let ended (name : Chars) (c : Option Char) (length : Bool) : Reader ParameterStart := do
    let (subscript, c) ← subscriptFrom within c
    if length then
      Reader.giveBack c
      return ⟨name, subscript, if c = some '\x7d' then .length else .unknown, false⟩
    else
      let (use, emptyCounts) ← parameterUse c
      return ⟨name, subscript, use, emptyCounts⟩
  let unknown : ParameterStart := ⟨[], [], .unknown, false⟩
  match first with
  | none => return unknown
  | some c =>
    if isNameStart c then
      let (name, next) ← named c isNameChar
      ended name next false
    else if c.isDigit then
      let (name, next) ← named c Char.isDigit
      ended name next false
    else if c = '\x7d' then
      Reader.giveBack first
      return unknown
    else
      let second ← Reader.takeJoined
      if c = '#' then
        match second with
        | some d =>
          if isNameStart d then
            let (name, next) ← named d isNameChar
            ended name next true
          else if d.isDigit then
            let (name, next) ← named d Char.isDigit
            ended name next true
          else
            let third ← Reader.takeJoined
            if d = '\x7d' ∨ third ≠ some '\x7d' then
              Reader.giveBack third
              ended ['#'] second false
            else if isSpecialParameter d then ended [d] third true
            else
              Reader.giveBack third
              return unknown
        | none => ended ['#'] second false
      else
        match (← get).rich && c == '!', second with
        | true, some d =>
          if isNameStart d then
            let (name, next) ← named d isNameChar
            ended ('!' :: name) next false
          else if d.isDigit then
            let (name, next) ← named d Char.isDigit
            ended ('!' :: name) next false
          else ended ['!'] second false
        | _, _ =>
          if isSpecialParameter c then ended [c] second false
          else
            Reader.giveBack second
            return unknown

/-- The text between backquotes. A backslash counts only before a character that has a meaning there. -/
def takeBackquoted (doubled : Bool) (fault : SyntaxFault) : Nat → Chars → Reader Chars
  | 0, _ => throw fault
  | n + 1, text => do
    match ← Reader.takeJoined with
    | none => throw fault
    | some '\x60' => return text.reverse
    | some '\\' =>
      match ← Reader.take with
      | none => throw fault
      | some c =>
        let special := "\\\x60$".toList.contains c || (doubled && c == '"')
        takeBackquoted doubled fault n (if special then c :: text else c :: '\\' :: text)
    | some c =>
      if c = '\n' then Reader.countLine
      takeBackquoted doubled fault n (c :: text)

namespace Scan

variable (nested : Nested) (within : Chars → Reader Word)

/-- A use of a parameter, with its level. -/
def parameter (s : Scan) (p : ParameterStart) : Scan :=
  if p.use = .value ∧ !p.emptyCounts then s.add (.piece (.parameter p.name p.subscript .value false []))
  else
    let around := if s.level.quoting = .arithmetic then Quoting.double else s.level.quoting
    let quoting := match p.use with
      | .trimmed .. | .replaced _ | .part | .cased .. | .transformed _ => .plain
      | _ => around
    let s :=
      if quoting ≠ s.level.quoting ∨ s.level.innerQuotes then
        s.push { Level.new quoting with doubled := quoting ≠ .plain, ofBraces := true }
      else s
    let l := { s.level with
      braces := s.level.braces + 1
      doubledBraces := s.level.doubledBraces + (if s.level.doubled then 1 else 0) }
    { s with level := l }.add (.parameter p.name p.subscript p.use p.emptyCounts)

/-- The text after a dollar sign and a quote, with its escapes replaced, up to the quote that closes it. -/
def takeEscaped : Nat → Chars → Reader Chars
  | 0, _ => throw (.unclosed '\'' 0)
  | n + 1, text => do
    match ← Reader.take with
    | none => throw (.unclosed '\'' (← get).line)
    | some '\'' => return text.reverse
    | some '\\' =>
      match ← Reader.take with
      | none => throw (.unclosed '\'' (← get).line)
      | some c =>
        if c = '\n' then Reader.countLine
        takeEscaped n (c :: '\\' :: text)
    | some c =>
      if c = '\n' then Reader.countLine
      takeEscaped n (c :: text)

/-- After a dollar sign. With `bare` it stands for itself. -/
def dollar (s : Scan) (bare : Bool) : Reader Scan := do
  let next ← Reader.takeJoined
  let itself : Reader Scan := do
    Reader.giveBack next
    return s.char '$'
  match bare, next with
  | true, _ => itself
  | false, none => itself
  | false, some c =>
    if c = '(' then
      let d ← Reader.takeJoined
      if d = some '(' then return (s.push (.new .arithmetic)).add .arithmetic
      else
        Reader.giveBack d
        return s.add (.piece (.output (← nested .substitution)))
    else if c = '\x7b' then return s.parameter (← bracedParameter within)
    else if isNameStart c then
      let (name, after) ← takeName isNameChar maxNameLength [c]
      Reader.giveBack after
      return s.parameter ⟨name, [], .value, false⟩
    else if c.isDigit || isSpecialParameter c then return s.parameter ⟨[c], [], .value, false⟩
    else
      let outside := (← get).rich && s.level.quoting == .plain
      match outside, c with
      | true, '\'' =>
        let text ← takeEscaped maxNameLength []
        let inner := (Escape.decode (text.length + 1) text).map fun c => Mark.piece (.escaped c)
        return { s with
          marks := .piece .quotes :: (inner.reverse ++ .piece .quotes :: s.marks), quoted := true }
      | true, '"' =>
        Reader.giveBack next
        return s
      | _, _ => itself

/-- After a backslash. -/
def backslash (s : Scan) (inDocument : Bool) : Reader Scan := do
  match ← Reader.take with
  | none => return s.escaped '\\'
  | some '\n' =>
    Reader.countLine
    return s
  | some c =>
    let l := s.level
    let kept := l.doubled && !"\\\x60$".toList.contains c &&
      (c != '"' || (inDocument && l.braces == 0)) && (c != '\x7d' || l.braces == 0)
    let s := if kept then s.escaped '\\' else s
    return { s.escaped c with quoted := true }

/-- After a backquote. -/
def backquote (s : Scan) (bare : Bool) : Reader Scan := do
  if bare then return { s.char '\x60' with quoted := true }
  else
    let r ← get
    let fault : SyntaxFault := if r.rich then .unclosed '\x60' r.line else .openBackquote
    let text ← takeBackquoted s.level.doubled fault maxNameLength []
    let body ← Reader.within text (nested .backquoted)
    return s.add (.piece (.output body))

/-- One more character of a word; nothing if the word ends before it. -/
def step (s : Scan) (inDocument bare : Bool) (c : Char) : Reader (Option Scan) := do
  let l := s.level
  let open_ : Bool := l.braces ≠ 0
  let go (s : Scan) : Reader (Option Scan) := return some s
  if c = '\n' then
    if l.quoting = .plain && !open_ then return none
    else
      Reader.countLine
      go (s.char c)
  else
    match l.quoting with
    | .single =>
      if c = '\'' then go (s.endQuotes inDocument c)
      else if c = aliasEnd then go s
      else if !inDocument && (c = '\\' || isPatternSign c) then go (s.escaped c)
      else go (s.char c)
    | .double =>
      match c with
      | '"' => go (s.endQuotes inDocument c)
      | '\\' => go (← s.backslash inDocument)
      | '$' => go (← s.dollar nested within bare)
      | '\x60' => go (← s.backquote nested bare)
      | '\x7d' => go s.endBrace
      | c =>
        if c = aliasEnd then go s
        else if isPatternSign c then go (s.escaped c)
        else go (s.char c)
    | .arithmetic =>
      match c with
      | '\\' => go (← s.backslash inDocument)
      | '$' => go (← s.dollar nested within bare)
      | '\x60' => go (← s.backquote nested bare)
      | '\x7d' => go s.endBrace
      | '(' => go { s.char c with level := { l with brackets := l.brackets + 1 } }
      | ')' =>
        if l.brackets ≠ 0 then go { s.char c with level := { l with brackets := l.brackets - 1 } }
        else
          let d ← Reader.takeJoined
          if d = some ')' then go (s.add .close).pop
          else
            Reader.giveBack d
            go (s.char c)
      | c => if c = aliasEnd then go s else go (s.char c)
    | .plain =>
      match c with
      | '\\' => go (← s.backslash inDocument)
      | '\'' => go ({ s with level := { l with quoting := .single } }.quotes inDocument)
      | '"' =>
        go ({ s with level := { l with quoting := .double, doubled := true } }.doubleQuotes inDocument)
      | '$' => go (← s.dollar nested within bare)
      | '\x60' => go (← s.backquote nested bare)
      | '\x7d' => go s.endBrace
      | c =>
        if endsWord c then
          if open_ || (l.solid && !" \t\n".toList.contains c) then go (if c = aliasEnd then s else s.char c)
          else return none
        else go (s.char c)

/-- The word that was read, if it ends here. -/
def finish (s : Scan) (inDocument : Bool) (line : Nat) : Reader Word := do
  let fault (usual : SyntaxFault) (sign : Char) : Reader Unit := do
    throw (if (← get).rich then .unclosed sign line else usual)
  if (← get).rich && s.level.braces ≠ 0 && !s.level.innerQuotes then fault .openBrace '\x7d'
  if s.level.quoting = .arithmetic then fault .openExpression ')'
  if s.level.quoting ≠ .plain && !inDocument then
    fault .openQuotes (if s.level.quoting = .single then '\'' else '"')
  if s.level.braces ≠ 0 then fault .openBrace '\x7d'
  return nest s.marks.reverse

end Scan

/-- Whether the line that begins here ends a text. If so it is taken. -/
def takesDelimiter (d : PendingDocument) (c : Option Char) : Reader Bool := do
  Reader.giveBack c
  let r ← get
  let text := match r.inserted with
    | [] => r.rest
    | top :: _ => top.text
  let after := text.drop d.delimiter.length
  if d.delimiter.isPrefixOf text && (after = [] || after.head? = some '\n') then
    modify fun r =>
      let r := { r with delimited := true }
      match r.inserted with
      | [] => { r with rest := after.tail, line := r.line + 1 }
      | top :: more =>
        { r with inserted := { top with text := after.tail } :: more, line := r.line + 1 }
    return true
  else
    let _ ← Reader.take
    return false

/-- The first character of a line that is no tab. -/
def skipTabs : Nat → Option Char → Reader (Option Char)
  | 0, c => return c
  | n + 1, c => if c = some '\t' then do skipTabs n (← Reader.take) else return c

/-- The characters of a word or of a text, from `c` on, with the character that ends it. -/
def scan (nested : Nested) (within : Chars → Reader Word) (document : Option PendingDocument) (bare : Bool) :
    Nat → Scan → Option Char → Reader (Scan × Option Char)
  | 0, s, c => return (s, c)
  | _, s, none => return (s, none)
  | n + 1, s, some c => do
    match ← s.step nested within document.isSome bare c with
    | none => return (s, some c)
    | some next =>
      match document, c with
      | some d, '\n' =>
        let c ← Reader.take
        let c ← if d.withoutTabs then skipTabs maxNameLength c else pure c
        if ← takesDelimiter d c then return (next, none)
        else scan nested within document bare n next c
      | _, _ =>
        let c ← if next.level.quoting = .single then Reader.take else Reader.takeJoined
        scan nested within document bare n next c

/-- The number of characters that a word can have. -/
def maxWordLength : Nat := 1000000000

/-- A text up to the line that ends it. -/
def readDocumentWith (nested : Nested) (within : Chars → Reader Word) (d : PendingDocument) : Reader Word := do
  let line := (← get).line
  modify fun r => { r with delimited := false }
  let c ← Reader.take
  let c ← if d.withoutTabs then skipTabs maxNameLength c else pure c
  if ← takesDelimiter d c then return []
  else
    let start := Scan.start (if d.expanded then .double else .single)
    let (s, _) ← scan nested within (some d) false maxWordLength start c
    s.finish true line

/-- How deep subscripts may stand inside others. -/
def maxSubscripts : Nat := 100

/-- The word that a subscript is, of which the subscripts inside it may be so deep. -/
def subscriptWord (nested : Nested) : Nat → Chars → Reader Word
  | 0, _ => throw .openBrace
  | n + 1, text =>
    Reader.within text (readDocumentWith nested (subscriptWord nested n) ⟨0, [aliasEnd], false, true⟩)

/-- The word that begins with `c`, whether some of it is quoted, and the character after it. With `bare`
neither parameters nor commands are looked for. -/
def readWordFrom (nested : Nested) (bare : Bool) (start : Scan) (c : Option Char) :
    Reader (Word × Bool × Option Char) := do
  let before ← get
  let (s, next) ← scan nested (subscriptWord nested maxSubscripts) none bare maxWordLength start c
  let word ← s.finish false before.line
  let unknown := before.rich && word.any fun p => match p with
    | .parameter _ _ .unknown _ _ => true
    | _ => false
  if unknown then
    let taken := c.toList ++ before.rest.take (before.rest.length - (← get).rest.length)
    let written := if next.isSome then taken.dropLast else taken
    return ([.parameter written [] .unknown false []], s.quoted, next)
  else return (word, s.quoted, next)

/-- The same from the start of a word on. -/
def readWord (nested : Nested) (bare : Bool) (c : Option Char) : Reader (Word × Bool × Option Char) :=
  readWordFrom nested bare (.start .plain) c

/-- A text up to the line that ends it. -/
def readDocument (nested : Nested) (d : PendingDocument) : Reader Word :=
  readDocumentWith nested (subscriptWord nested maxSubscripts) d

/-- A text up to the line that ends it. If that line is missing, the richer shell says so. -/
def readFullDocument (nested : Nested) (d : PendingDocument) : Reader Word := do
  let start := (← get).line
  let word ← readDocument nested d
  let r ← get
  if r.rich && !r.delimited then
    let text := chars ("warning: here-document at line " ++ toString (start - 1) ++
      " delimited by end-of-file (wanted \x60") ++ d.delimiter ++ chars "')"
    set { r with remarks := (r.line - 1, text) :: r.remarks }
  return word

end ConsumerCheck.Shell
