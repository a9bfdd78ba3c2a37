import ConsumerCheck.Shell.Edit
import ConsumerCheck.Shell.Regex.Reading

/-!
# The written form of scripts that edit lines

A script is read from one or more texts. A block and the text of a command may go on in the next one.

* `Edit.Fault` — why a text is no script, with its wording;
* `Edit.Refusal` — the same with the place where it was found;
* `Edit.read` — the script that texts are.
-/

namespace ConsumerCheck.Shell.Edit

/-- Why a text is no script. -/
inductive Fault where
  | manyNegations
  | unexpectedComma
  | relativeFirst
  | openBlock
  | closedBlock
  | excess
  | missingText
  | closeWithAddress
  | labelWithAddress
  | remarkWithAddress
  | missingCommand
  | oneAddress
  | openAddress
  | openSubstitution
  | openTranslation
  | unknownFlag
  | manyPrints
  | manyGlobals
  | manyNumbers
  | zeroNumber
  | unevenTranslation
  | newerVersion
  | lineZero
  | unknownCommand (c : Char)
  | missingLabel
  | missingFile
  | noExpression
  | emptyWithFlags
  | badReference (number : Nat)
  | expression (fault : RegexFault)
  deriving DecidableEq, Repr

/-- The text of a fault. -/
def Fault.message : Fault → String
  | manyNegations => "multiple \x60!'s"
  | unexpectedComma => "unexpected \x60,'"
  | relativeFirst => "invalid usage of +N or ~N as first address"
  | openBlock => "unmatched \x60\x7b'"
  | closedBlock => "unexpected \x60\x7d'"
  | excess => "extra characters after command"
  | missingText => "expected \\ after \x60a', \x60c' or \x60i'"
  | closeWithAddress => "\x60\x7d' doesn't want any addresses"
  | labelWithAddress => ": doesn't want any addresses"
  | remarkWithAddress => "comments don't accept any addresses"
  | missingCommand => "missing command"
  | oneAddress => "command only uses one address"
  | openAddress => "unterminated address regex"
  | openSubstitution => "unterminated \x60s' command"
  | openTranslation => "unterminated \x60y' command"
  | unknownFlag => "unknown option to \x60s'"
  | manyPrints => "multiple \x60p' options to \x60s' command"
  | manyGlobals => "multiple \x60g' options to \x60s' command"
  | manyNumbers => "multiple number options to \x60s' command"
  | zeroNumber => "number option to \x60s' command may not be zero"
  | unevenTranslation => "strings for \x60y' command are different lengths"
  | newerVersion => "expected newer version of sed"
  | lineZero => "invalid usage of line address 0"
  | unknownCommand c => "unknown command: \x60" ++ String.ofList [c] ++ "'"
  | missingLabel => "\":\" lacks a label"
  | missingFile => "missing filename in r/R/w/W commands"
  | noExpression => "no previous regular expression"
  | emptyWithFlags => "cannot specify modifiers on empty regexp"
  | badReference n => "invalid reference \\" ++ toString n ++ " on \x60s' command's RHS"
  | expression fault => fault.message

/-- A text that belongs to a script. -/
structure Source where
  /-- The file that it comes from, unless it stands among the arguments. -/
  file : Option Chars
  text : Chars

/-- A fault with the place where it was found. -/
structure Refusal where
  file : Option Chars
  /-- The number of the text among the arguments, or of the line. -/
  number : Nat
  /-- How many characters were read. -/
  column : Nat
  fault : Fault

/-- The text of a refusal. -/
def Refusal.message (r : Refusal) : Chars :=
  let place := match r.file with
    | some file => chars "file " ++ file ++ chars (" line " ++ toString r.number ++ ": ")
    | none => chars ("-e expression #" ++ toString r.number ++ ", char " ++ toString r.column ++ ": ")
  match r.fault with
  | .expression .bareClass => chars RegexFault.bareClass.message
  | fault => place ++ chars fault.message

/-- How far the reading of a script has come. -/
structure Reading where
  rest : Chars
  taken : Nat
  line : Nat
  extended : Bool
  /-- The commands that were read, the last one first. -/
  done : List Command
  count : Nat
  /-- The places of the blocks that are open. -/
  blocks : List Nat
  labels : List (Chars × Nat)
  quiet : Bool
  /-- The beginning of a text that goes on in the next source. -/
  pending : Option Chars

/-- A step of reading. -/
abbrev Reader := StateT Reading (Except (Reading × Fault))

/-- Refuses what was read. -/
def refuse (fault : Fault) : Reader α := do throw (← get, fault)

/-- The next character, over which is passed. -/
def nextChar : Reader (Option Char) := do
  let r ← get
  match r.rest with
  | [] => return none
  | c :: rest =>
    set { r with rest, taken := r.taken + 1, line := if c = '\n' then r.line + 1 else r.line }
    return some c

/-- The next character, which is still to be read. -/
def peek : Reader (Option Char) := return (← get).rest.head?

/-- Passes over the characters with a property. -/
def passWhile (p : Char → Bool) : Reader Chars := do
  let found := (← get).rest.takeWhile p
  modify fun r => { r with
    rest := r.rest.drop found.length
    taken := r.taken + found.length
    line := r.line + found.count '\n' }
  return found

/-- Whether a character is a gap. -/
def isGap (c : Char) : Bool := " \t\n\x0b\x0c\r".toList.contains c

/-- Whether a character is a gap inside a line. -/
def isInnerGap (c : Char) : Bool := isGap c && c != '\n'

/-- The next character that is no gap inside a line. -/
def nextFilled : Reader (Option Char) := do
  let _ ← passWhile isInnerGap
  nextChar

/-- A number. -/
def number : Reader Nat := return Text.numeral 10 (← passWhile Char.isDigit)

/-- Passes over the end of a command. -/
def commandEnd : Reader Unit := do
  let _ ← passWhile isInnerGap
  match ← peek with
  | some '}' | some '#' => pure ()
  | _ =>
    match ← nextChar with
    | none | some '\n' | some ';' => pure ()
    | some _ => refuse .excess

/-- The list in brackets that begins here, up to its end. -/
def bracketText (text : Chars) : Chars :=
  let front := match text with
    | '^' :: ']' :: _ => 2
    | '^' :: _ | ']' :: _ => 1
    | _ => 0
  text.take front ++ inside (text.length + 1) (text.drop front)
where
  /-- The members of the list and the bracket at its end. -/
  inside : Nat → Chars → Chars
    | n + 1, '[' :: sign :: rest =>
      if ":.=".toList.contains sign then
        match Regex.nameUpTo sign rest with
        | some (name, rest) => '[' :: sign :: name ++ [sign, ']'] ++ inside n rest
        | none => '[' :: inside n (sign :: rest)
      else '[' :: inside n (sign :: rest)
    | _, ']' :: _ => [']']
    | n + 1, c :: rest => c :: inside n rest
    | _, rest => rest

/-- The text up to a delimiter. In an expression a backslash and `n` are a line feed, and a list in brackets may
hold the delimiter. Otherwise a line feed ends the text too early unless a backslash stands before it. -/
def delimited (delimiter : Char) (isExpression : Bool) : Nat → Reader (Option Chars)
  | 0 => return none
  | n + 1 => do
    let more (front : Chars) : Reader (Option Chars) := do
      return (← delimited delimiter isExpression n).map (front ++ ·)
    match ← nextChar with
    | none => return none
    | some c =>
      if c = delimiter then return some []
      else if c = '\\' then
        match ← nextChar with
        | none => return none
        | some d =>
          if d = delimiter then more (if !isExpression && d = '&' then ['\\', d] else [d])
          else if d = 'n' && isExpression then more ['\n']
          else if d = '\n' && isExpression then more ['\n']
          else more ['\\', d]
      else if c = '\n' && !isExpression then
        modify fun r => { r with rest := '\n' :: r.rest, taken := r.taken - 1, line := r.line - 1 }
        return none
      else if c = '[' && isExpression then
        let inside := bracketText (← get).rest
        if inside.getLast? ≠ some ']' then
          let _ ← passWhile fun _ => true
          return none
        else
          modify fun r => { r with rest := r.rest.drop inside.length, taken := r.taken + inside.length }
          more ('[' :: lineFeeds inside)
      else more [c]
where
  /-- A list in which a backslash and `n` are a line feed. -/
  lineFeeds : Chars → Chars
    | '\\' :: 'n' :: rest => '\n' :: lineFeeds rest
    | c :: rest => c :: lineFeeds rest
    | [] => []

/-- The character that a letter behind a backslash stands for, and what follows. -/
def escape? (text : Chars) : Option (Char × Chars) :=
  let coded (base most : Nat) (rest : Chars) : Option (Char × Chars) :=
    let digits := (rest.take most).takeWhile (Text.isDigitOf base)
    if digits = [] then none
    else some (Char.ofNat (Text.numeral base digits % 256), rest.drop digits.length)
  match text with
  | 'a' :: rest => some ('\x07', rest)
  | 'f' :: rest => some ('\x0c', rest)
  | 'r' :: rest => some ('\r', rest)
  | 't' :: rest => some ('\t', rest)
  | 'v' :: rest => some ('\x0b', rest)
  | 'c' :: c :: rest => some (Char.ofNat (c.toUpper.toNat ^^^ 64), rest)
  | 'd' :: rest => coded 10 3 rest
  | 'o' :: rest => coded 8 3 rest
  | 'x' :: rest => coded 16 2 rest
  | _ => none

/-- An expression in which letters behind a backslash have become what they stand for. -/
def withEscapes : Nat → Chars → Chars
  | n + 1, '\\' :: rest =>
    match escape? rest, rest with
    | some (c, rest), _ => c :: withEscapes n rest
    | none, c :: rest => '\\' :: c :: withEscapes n rest
    | none, [] => ['\\']
  | n + 1, c :: rest => c :: withEscapes n rest
  | _, rest => rest

/-- The expression that a text is, and how many groups it has. -/
def patternOf (text : Chars) (folded byLine : Bool) : Reader (Option Pattern) := do
  if text = [] then
    if folded || byLine then refuse .emptyWithFlags
    return none
  else
    match Regex.read ⟨(← get).extended, true⟩ (withEscapes text.length text) with
    | .ok (regex, _) => return some ⟨regex, folded, byLine⟩
    | .error fault => refuse (.expression fault)

/-- Flags behind the expression of an address. -/
def addressFlags : Nat → (folded byLine : Bool) → Reader (Bool × Bool)
  | 0, folded, byLine => return (folded, byLine)
  | n + 1, folded, byLine => do
    let _ ← passWhile isInnerGap
    match ← peek with
    | some 'I' => do
      let _ ← nextChar
      addressFlags n true byLine
    | some 'M' => do
      let _ ← nextChar
      addressFlags n folded true
    | _ => return (folded, byLine)

/-- An address that stands by itself. -/
def address? : Reader (Option Address) := do
  match ← peek with
  | some '$' => do
    let _ ← nextChar
    return some .last
  | some c =>
    if c.isDigit then
      let first ← number
      let _ ← passWhile isInnerGap
      if (← peek) = some '~' then
        let _ ← nextChar
        let _ ← passWhile isInnerGap
        let step ← number
        return some (if step = 0 then .line first else .every first step)
      else return some (.line first)
    else if c = '/' || c = '\\' then
      let _ ← nextChar
      let delimiter ← if c = '/' then pure (some '/') else nextChar
      match delimiter with
      | none => refuse .openAddress
      | some delimiter =>
        match ← delimited delimiter true ((← get).rest.length + 1) with
        | none => refuse .openAddress
        | some text =>
          let (folded, byLine) ← addressFlags (← get).rest.length false false
          return some (.matching (← patternOf text folded byLine))
    else return none
  | none => return none

/-- The end of a range. -/
def rangeEnd? : Reader (Option RangeEnd) := do
  let counted (make : Nat → RangeEnd) : Reader (Option RangeEnd) := do
    let _ ← nextChar
    let _ ← passWhile isInnerGap
    return some (make (← number))
  match ← peek with
  | some '+' => counted .after
  | some '~' => counted fun n => if n = 0 then .after 0 else .multiple n
  | _ => return (← address?).map .at

/-- The addresses before a command. -/
def addresses : Reader (Option Address × Option RangeEnd) := do
  match ← peek with
  | some '+' | some '~' => do
    let _ ← nextChar
    let _ ← number
    refuse .relativeFirst
  | _ =>
    match ← address? with
    | none => return (none, none)
    | some first =>
      let _ ← passWhile isInnerGap
      let second ← if (← peek) = some ',' then do
          let _ ← nextChar
          let _ ← passWhile isInnerGap
          match ← rangeEnd? with
          | none => do
            let _ ← nextChar
            refuse .unexpectedComma
          | some last => pure (some last)
        else pure none
      match first, second with
      | .line 0, some (.at (.matching _)) => pure ()
      | .line 0, _ => do
        let _ ← passWhile isInnerGap
        let _ ← nextChar
        refuse .lineZero
      | _, _ => pure ()
      return (some first, second)

/-- The name of a file, up to the end of the line. -/
def fileName : Reader Chars := do
  let _ ← passWhile isInnerGap
  let name ← passWhile (· != '\n')
  let _ ← nextChar
  if name = [] then refuse .missingFile
  return name

/-- A label. -/
def label : Reader Chars := do
  let _ ← passWhile isInnerGap
  let name ← passWhile fun c => !isGap c && c != ';' && c != '}'
  return name

/-- The lines of a text up to one that does not end with a backslash. Nothing if more is to come. -/
def textLines : Nat → (done : Chars) → Reader (Chars × Bool)
  | 0, done => return (done, true)
  | n + 1, done => do
    match ← nextChar with
    | none | some '\n' => return (done ++ ['\n'], true)
    | some '\\' => do
      match escape? (← get).rest with
      | some (c, rest) => do
        let passed := (← get).rest.length - rest.length
        modify fun r => { r with rest, taken := r.taken + passed }
        textLines n (done ++ [c])
      | none =>
        match ← nextChar with
        | none => return (done ++ ['\n'], false)
        | some 'n' => textLines n (done ++ ['\n'])
        | some c => textLines n (done ++ [c])
    | some c => textLines n (done ++ [c])

/-- The text behind a command. The second result says that it may go on in the next source. -/
def commandText : Reader (Chars × Bool) := do
  let length := (← get).rest.length + 1
  let _ ← passWhile isInnerGap
  match ← peek with
  | none => refuse .missingText
  | some '\n' => refuse .missingText
  | some '\\' => do
    let _ ← nextChar
    let gap ← passWhile isInnerGap
    match ← peek with
    | none => return ([], false)
    | some '\n' => do
      let _ ← nextChar
      textLines length []
    | some '\\' => textLines length []
    | some c => do
      let _ ← nextChar
      textLines length (gap ++ [c])
  | some _ => textLines length []

/-- The parts of a replacement, and the number of the last group that it asks for. -/
def pieces : Nat → Chars → List Piece
  | n + 1, '\\' :: rest =>
    match escape? rest, rest with
    | some (c, rest), _ => .text [c] :: pieces n rest
    | none, [] => [.text ['\\']]
    | none, c :: rest =>
      let first :=
        if c.isDigit then .group (Text.numeral 10 [c])
        else
          match c with
          | 'L' => .case .small
          | 'U' => .case .capital
          | 'E' => .case .kept
          | 'l' => .nextCase .small
          | 'u' => .nextCase .capital
          | 'n' => .text ['\n']
          | c => .text [c]
      first :: pieces n rest
  | n + 1, '&' :: rest => .group 0 :: pieces n rest
  | n + 1, c :: rest => .text [c] :: pieces n rest
  | _, rest => [.text rest]

/-- The number of groups in an expression. -/
def groupCount : Regex → Nat
  | .group n r => max n (groupCount r)
  | .sequence a b | .either a b => max (groupCount a) (groupCount b)
  | .repeated _ _ r => groupCount r
  | _ => 0

/-- What stands behind a substitution. -/
structure Flags where
  folded : Bool
  byLine : Bool
  all : Bool
  prints : Bool
  first : Option Nat
  file : Option Chars

/-- The flags of a substitution. -/
def flags : Nat → Flags → Reader Flags
  | 0, f => return f
  | n + 1, f => do
    match ← peek with
    | some '}' | some '#' => return f
    | some c =>
      if c.isDigit then
        if f.first.isSome then
          let _ ← nextChar
          refuse .manyNumbers
        let first ← number
        if first = 0 then refuse .zeroNumber
        flags n { f with first := some first }
      else
        let _ ← nextChar
        match c with
        | 'i' | 'I' => flags n { f with folded := true }
        | 'm' | 'M' => flags n { f with byLine := true }
        | 'p' => if f.prints then refuse .manyPrints else flags n { f with prints := true }
        | 'g' => if f.all then refuse .manyGlobals else flags n { f with all := true }
        | 'w' => return { f with file := some (← fileName) }
        | '\n' | ';' => return f
        | c => if isInnerGap c then flags n f else refuse .unknownFlag
    | none => return f

/-- A substitution, behind its letter. -/
def substitution : Reader Operation := do
  let length := (← get).rest.length + 1
  match ← nextChar with
  | none => refuse .openSubstitution
  | some delimiter =>
    match ← delimited delimiter true length with
    | none => refuse .openSubstitution
    | some text =>
      match ← delimited delimiter false length with
      | none => refuse .openSubstitution
      | some shape =>
        let f ← flags length ⟨false, false, false, false, none, none⟩
        let pieces := pieces (shape.length + 1) shape
        let pattern ← patternOf text f.folded f.byLine
        let groups := (pattern.map fun p => groupCount p.regex).getD 9
        let asked := (pieces.map fun piece => match piece with
          | .group n => n
          | _ => 0).foldl max 0
        if groups < asked then refuse (.badReference asked)
        return .substitute ⟨pattern, pieces, f.first.getD 1, f.all, f.prints, f.file⟩

/-- The characters of a text in a translation. -/
def translated : Chars → Chars
  | '\\' :: c :: rest => (if c = 'n' then '\n' else c) :: translated rest
  | c :: rest => c :: translated rest
  | [] => []

/-- A translation, behind its letter. -/
def translation : Reader Operation := do
  let length := (← get).rest.length + 1
  match ← nextChar with
  | none => refuse .openTranslation
  | some delimiter =>
    match ← delimited delimiter false length with
    | none => refuse .openTranslation
    | some source =>
      match ← delimited delimiter false length with
      | none => refuse .openTranslation
      | some target =>
        let source := translated (withEscapes source.length source)
        let target := translated (withEscapes target.length target)
        if source.length ≠ target.length then refuse .unevenTranslation
        commandEnd
        return .translate (source.zip target)

/-- The letters of commands that nothing follows. -/
def plainCommands : List (Char × Operation) := [
  ('=', .number), ('d', .delete), ('D', .deleteFirst), ('F', .fileName), ('g', .recall false), ('G', .recall true),
  ('h', .keep false), ('H', .keep true), ('n', .next), ('N', .join), ('p', .print), ('P', .printFirst),
  ('x', .exchange), ('z', .clear)]

/-- Adds a command. -/
def put (command : Command) : Reader Unit :=
  modify fun r => { r with done := command :: r.done, count := r.count + 1 }

/-- A number behind a command, if one is there. -/
def commandNumber : Reader (Option Nat) := do
  let _ ← passWhile isInnerGap
  match ← peek with
  | some c => if c.isDigit then return some (← number) else return none
  | none => return none

/-- The text of a command, which is taken down if it goes on in the next source. -/
def ownText (make : Chars → Operation) : Reader Operation := do
  let (text, done) ← commandText
  if !done then modify fun r => { r with pending := some text }
  return make text

/-- Where a block begins, if one is open. -/
def closeBlock : Reader Unit := do
  match (← get).blocks with
  | [] => refuse .closedBlock
  | start :: blocks =>
    modify fun r =>
      let past := r.count
      let done := r.done.zipIdx.map fun (command, i) =>
        if r.count - 1 - i = start then { command with operation := .block past } else command
      { r with done, blocks }

/-- What a command does, from its letter on. -/
def operation (first : Option Address) (second : Option RangeEnd) : Reader Operation := do
  match ← nextFilled with
  | none | some '\n' => refuse .missingCommand
  | some c =>
    match plainCommands.lookup c with
    | some operation => do
      commandEnd
      return operation
    | none =>
      match c with
      | '{' => do
        modify fun r => { r with blocks := r.count :: r.blocks }
        return .block 0
      | 'a' => ownText .append
      | 'i' => ownText .insert
      | 'c' => ownText .change
      | ':' => do
        if first.isSome then refuse .labelWithAddress
        let name ← label
        if name = [] then refuse .missingLabel
        modify fun r => { r with labels := (name, r.count) :: r.labels }
        return .nothing
      | 'b' | 't' | 'T' => do
        let name ← label
        commandEnd
        return .jump (if c = 'b' then .always else if c = 't' then .replaced else .notReplaced) name
      | 'q' | 'Q' => do
        if second.isSome then refuse .oneAddress
        let status ← commandNumber
        commandEnd
        return .quit (c = 'q') (status.getD 0)
      | 'l' => do
        let width ← commandNumber
        commandEnd
        return .list width
      | 'r' => return .readFile (← fileName)
      | 'R' => return .readLine (← fileName)
      | 'w' => return .writeFile false (← fileName)
      | 'W' => return .writeFile true (← fileName)
      | 's' => substitution
      | 'y' => translation
      | 'v' => do
        let name ← label
        if name ≠ [] && Text.numeral 10 (name.takeWhile Char.isDigit) > 4 then refuse .newerVersion
        commandEnd
        return .nothing
      | c => refuse (.unknownCommand c)

/-- The commands of a source. -/
def commands : Nat → Reader Unit
  | 0 => pure ()
  | n + 1 => do
    let _ ← passWhile fun c => isGap c || c == ';'
    match ← peek with
    | none => pure ()
    | some _ => do
      let (first, second) ← addresses
      let _ ← passWhile isInnerGap
      let negated := (← peek) = some '!'
      if negated then
        let _ ← nextChar
        let _ ← passWhile isInnerGap
        if (← peek) = some '!' then
          let _ ← nextChar
          refuse .manyNegations
      match ← peek with
      | some '#' => do
        let _ ← nextChar
        if first.isSome then refuse .remarkWithAddress
        let _ ← passWhile (· != '\n')
      | some '}' => do
        let _ ← nextChar
        if (← get).blocks = [] then refuse .closedBlock
        if first.isSome then refuse .closeWithAddress
        closeBlock
        commandEnd
      | _ => do
        let operation ← operation first second
        put ⟨first, second, negated, operation⟩
      commands n

/-- A command with a text that has come to its end. -/
def Operation.withText (text : Chars) : Operation → Operation
  | .append _ => .append text
  | .insert _ => .insert text
  | .change _ => .change text
  | operation => operation

/-- One source. The rest of a text that goes on here comes first. -/
def source : Reader Unit := do
  let length := (← get).rest.length + 1
  match (← get).pending with
  | none => pure ()
  | some begun => do
    let (text, done) ← textLines length begun
    modify fun r => { r with
      pending := if done then none else some text
      done := match r.done with
        | last :: rest => { last with operation := last.operation.withText text } :: rest
        | [] => [] }
  commands length

/-- The status of the tool after a refusal. -/
def Refusal.status (r : Refusal) : Nat := if r.fault = .expression .bareClass then 4 else 1

/-- The script that texts are, or what is said about them and the status of the tool. Labels are looked for at the
end. -/
def read (extended : Bool) (sources : List Source) : Except (Chars × Nat) Script := do
  let mut reading : Reading := ⟨[], 0, 1, extended, [], 0, [], [], false, none⟩
  let mut arguments := 0
  let mut opened : Option Refusal := none
  let mut isFirst := true
  for s in sources do
    if s.file.isNone then arguments := arguments + 1
    let isQuiet := isFirst && (s.text = ['#', 'n'] || (chars "#n\n").isPrefixOf s.text)
    isFirst := false
    let begun := { reading with rest := s.text, taken := 0, line := 1, quiet := reading.quiet || isQuiet }
    let refusal (r : Reading) (fault : Fault) : Refusal :=
      ⟨s.file, if s.file.isSome then r.line else arguments, r.taken, fault⟩
    match source.run begun with
    | .error (r, fault) => throw ((refusal r fault).message, (refusal r fault).status)
    | .ok (_, r) =>
      if r.blocks.length > reading.blocks.length then
        opened := some ⟨s.file, if s.file.isSome then r.line else arguments, 0, .openBlock⟩
      reading := r
  if reading.blocks ≠ [] then
    throw ((opened.map Refusal.message).getD [], 1)
  let script : Script := ⟨reading.done.reverse.toArray, reading.labels, reading.quiet⟩
  match script.commands.toList.findSome? fun command => match command.operation with
      | .jump _ name => if name = [] || (reading.labels.lookup name).isSome then none else some name
      | _ => none with
  | some name => throw (chars "can't find label for jump to \x60" ++ name ++ ['\''], 4)
  | none => return script

end ConsumerCheck.Shell.Edit
