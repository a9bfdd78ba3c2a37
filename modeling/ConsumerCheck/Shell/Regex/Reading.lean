import ConsumerCheck.Shell.Regex
import ConsumerCheck.Text.Digits

/-!
# The written form of regular expressions

There are two written forms. In the basic one a backslash stands before the signs for groups, bounds and
alternatives, in the extended one it takes their meaning away.

* `RegexForm` — how an expression is written;
* `RegexFault` — why a text is no expression, with its wording;
* `Regex.read` — the expression that a text is.
-/

namespace ConsumerCheck.Shell

/-- How an expression is written. -/
structure RegexForm where
  extended : Bool
  /-- Whether a sign for repetitions must follow something, and be complete. -/
  strict : Bool

/-- Why a text is no expression. -/
inductive RegexFault where
  | openBracket
  | openGroup
  | closedGroup
  | openBound
  | badBound
  | greatBound
  | nothingToRepeat
  | badRange
  | lastBackslash
  | badReference
  | badClass
  | badCollation
  /-- The name of a class stands in a single pair of brackets. -/
  | bareClass
  /-- A list of what is not meant ends before it begins. -/
  | emptyBracket
  deriving DecidableEq, Repr

/-- The text of a fault. -/
def RegexFault.message : RegexFault → String
  | openBracket => "Unmatched [, [^, [:, [., or [="
  | openGroup => "Unmatched ( or \\("
  | closedGroup => "Unmatched ) or \\)"
  | openBound => "Unmatched \\\x7b"
  | badBound => "Invalid content of \\\x7b\\\x7d"
  | greatBound => "Regular expression too big"
  | nothingToRepeat => "Invalid preceding regular expression"
  | badRange => "Invalid range end"
  | lastBackslash => "Trailing backslash"
  | badReference => "Invalid back reference"
  | badClass => "Invalid character class name"
  | badCollation => "Invalid collation character"
  | emptyBracket => "Invalid regular expression"
  | bareClass => "character class syntax is [[:space:]], not [:space:]"

namespace Regex

/-- How far the reading of an expression has come. -/
structure Reading where
  rest : Chars
  /-- How many groups have begun, and which have ended. -/
  groups : Nat
  ended : List Nat
  /-- The signs for repetitions that have nothing before them. -/
  idle : List Chars

/-- A step of reading. -/
abbrev Reader := StateT Reading (Except RegexFault)

/-- Passes over so many characters. -/
def pass (n : Nat) : Reader Unit := modify fun r => { r with rest := r.rest.drop n }

/-- Whether a sign stands here, over which is then passed. -/
def took (sign : Chars) : Reader Bool := do
  if sign.isPrefixOf (← get).rest then
    pass sign.length
    return true
  else return false

/-- The text up to a sign that closes a name in a list, and what follows. -/
def nameUpTo (sign : Char) : Chars → Option (Chars × Chars)
  | [] => none
  | c :: ']' :: rest => if c = sign then some ([], rest) else
      (nameUpTo sign (']' :: rest)).map fun (name, rest) => (c :: name, rest)
  | c :: rest => (nameUpTo sign rest).map fun (name, rest) => (c :: name, rest)

/-- A member of a list of characters that is not a range: a class, or one character. -/
def bracketMember (text : Chars) : Except RegexFault (GlobMember × Chars) :=
  match text with
  | '[' :: ':' :: rest =>
    match nameUpTo ':' rest with
    | none => .error .openBracket
    | some (name, rest) =>
      let name := String.ofList name
      if (Glob.classes.lookup name).isSome then .ok (.named name, rest) else .error .badClass
  | '[' :: '=' :: rest => single '=' rest
  | '[' :: '.' :: rest => single '.' rest
  | c :: rest => .ok (.one c, rest)
  | [] => .error .openBracket
where
  /-- One character between signs. -/
  single (sign : Char) (rest : Chars) : Except RegexFault (GlobMember × Chars) :=
    match rest with
    | c :: d :: ']' :: rest => if d = sign then .ok (.one c, rest) else .error .badCollation
    | rest => .error (if (nameUpTo sign rest).isSome then .badCollation else .openBracket)

/-- The members of a list up to the bracket that closes it, and what follows. -/
def bracketMembers : Nat → (first : Bool) → Chars → Except RegexFault (List GlobMember × Chars)
  | 0, _, _ => .error .openBracket
  | _, _, [] => .error .openBracket
  | n + 1, first, c :: rest =>
    if c = ']' ∧ !first then .ok ([], rest)
    else if c = '-' ∧ !first ∧ rest.head? ≠ some ']' then
      .error (if rest = [] then .openBracket else .badRange)
    else do
      let (member, rest) ← bracketMember (c :: rest)
      match member, rest with
      | .one low, '-' :: d :: rest =>
        if d = ']' then
          let (more, rest) ← bracketMembers n false ('-' :: d :: rest)
          return (member :: more, rest)
        else
          match ← bracketMember (d :: rest) with
          | (.one high, rest) =>
            if high < low then throw .badRange
            let (more, rest) ← bracketMembers n false rest
            return (.span low high :: more, rest)
          | _ => throw .badRange
      | .named _, '-' :: d :: rest =>
        if d = ']' then
          let (more, rest) ← bracketMembers n false ('-' :: d :: rest)
          return (member :: more, rest)
        else throw .badRange
      | member, rest =>
        let (more, rest) ← bracketMembers n false rest
        return (member :: more, rest)

/-- Whether the inside of a list looks like the name of a class that lacks its own brackets. -/
def isBareClass (inside : Chars) : Bool :=
  match inside with
  | ':' :: rest =>
    let name := rest.takeWhile (· != ']')
    1 < name.length && name.getLast? == some ':'
  | _ => false

/-- The list of characters that begins behind a bracket. -/
def bracket : Reader Regex := do
  let r ← get
  if isBareClass r.rest then throw .bareClass
  if r.rest = ['^'] then throw .emptyBracket
  let (negated, inside) := match r.rest with
    | '^' :: rest => (true, rest)
    | rest => (false, rest)
  let (members, rest) ← bracketMembers (inside.length + 1) true inside
  set { r with rest }
  return .one negated members

/-- The greatest number in a bound. -/
def greatestBound : Nat := 32767

/-- The bounds that begin behind a brace. Nothing if what follows is not of the form of bounds, with whether it
ends too early. -/
def boundsIn (form : RegexForm) (text : Chars) : Except Bool ((Nat × Option Nat) × Chars) :=
  let close := if form.extended then ['}'] else ['\\', '}']
  let low := text.takeWhile Char.isDigit
  let after := text.drop low.length
  let (high, after, comma) := match after with
    | ',' :: more => (more.takeWhile Char.isDigit, more.dropWhile Char.isDigit, true)
    | after => ([], after, false)
  if after = [] then .error true
  else if close.isPrefixOf after ∧ (low ≠ [] ∨ comma) then
    let least := Text.numeral 10 low
    let most := if !comma then some least else if high = [] then none else some (Text.numeral 10 high)
    .ok ((least, most), after.drop close.length)
  else .error false

/-- What a sign for repetitions asks for. -/
def repetition? (form : RegexForm) : Reader (Option (Nat × Option Nat)) := do
  let escape (c : Char) : Chars := if form.extended then [c] else ['\\', c]
  if ← took ['*'] then return some (0, none)
  else if ← took (escape '+') then return some (1, none)
  else if ← took (escape '?') then return some (0, some 1)
  else
    let before ← get
    if ← took (escape '{') then
      let r ← get
      match boundsIn form r.rest with
      | .ok ((least, most), rest) =>
        if most.any (· < least) then throw .badBound
        if greatestBound < most.getD least then throw .greatBound
        set { r with rest }
        return some (least, most)
      | .error early =>
        if form.extended ∧ !form.strict then
          set before
          return none
        else throw (if early || form.extended then .openBound else .badBound)
    else return none

/-- What is repeated, with the signs that follow. -/
def repetitions (form : RegexForm) : Nat → Regex → Reader Regex
  | 0, r => return r
  | n + 1, r => do
    match ← repetition? form with
    | some (least, most) =>
      let again := ['*'].isPrefixOf (← get).rest || ['\\', '{'].isPrefixOf (← get).rest
      if form.strict && !form.extended && again then throw .nothingToRepeat
      repetitions form n (.repeated least most r)
    | none => return r

/-- A sign for repetitions that has nothing before it. In the basic form it stands for itself, and in the
extended one for nothing. -/
def leadingRepetition (form : RegexForm) : Reader (Option Regex) := do
  let escape (c : Char) : Chars := if form.extended then [c] else ['\\', c]
  let before ← get
  let sign? := [(['*'], '*'), (escape '+', '+'), (escape '?', '?'), (escape '{', '{')].find? fun (sign, _) =>
    sign.isPrefixOf before.rest
  match sign? with
  | none => return none
  | some (sign, c) =>
    if form.strict ∧ (form.extended ∨ c = '{') then throw .nothingToRepeat
    else if form.extended then
      match ← repetition? form with
      | none => return none
      | some _ =>
        let shown := if c = '{' then chars "\x7b...\x7d" else [c]
        modify fun r => { r with idle := r.idle ++ [shown] }
        return some .empty
    else
      pass sign.length
      return some (.char c)

/-- The classes and places that a letter behind a backslash stands for. -/
def escapes : List (Char × Regex) :=
  let word := [GlobMember.named "alnum", .one '_']
  [('w', .one false word), ('W', .one true word), ('s', .one false [.named "space"]),
    ('S', .one true [.named "space"]), ('b', .anchor .wordEdge), ('B', .anchor .noWordEdge),
    ('<', .anchor .wordStart), ('>', .anchor .wordEnd), ('\x60', .anchor .textStart),
    ('\'', .anchor .textEnd)]

/-- Whether an alternative or a group ends here, or the expression. -/
def endsHere (form : RegexForm) (inGroup : Bool) (text : Chars) : Bool :=
  let escape (c : Char) : Chars := if form.extended then [c] else ['\\', c]
  text == [] || (escape '|').isPrefixOf text ||
    ((inGroup || form.strict || !form.extended) && (escape ')').isPrefixOf text)

/-- What stands in front of a piece. -/
inductive Front where
  /-- Nothing in the same alternative. -/
  | nothing
  /-- A sign for a place, which cannot be repeated. -/
  | anchor
  | piece
  deriving DecidableEq, Repr

/-- Whether an expression asks for a place. -/
def isAnchor : Regex → Bool
  | .anchor _ => true
  | _ => false

mutual

/-- Alternatives. -/
def choice (form : RegexForm) : Nat → (inGroup : Bool) → Reader Regex
  | 0, _ => return .empty
  | n + 1, inGroup => do
    let first ← pieces form n inGroup .nothing
    if ← took (if form.extended then ['|'] else ['\\', '|']) then
      return .either first (← choice form n inGroup)
    else return first

/-- Pieces one after the other. -/
def pieces (form : RegexForm) : Nat → (inGroup : Bool) → Front → Reader Regex
  | 0, _, _ => return .empty
  | n + 1, inGroup, front => do
    if endsHere form inGroup (← get).rest then return .empty
    else
      let first ← piece form n front
      if isAnchor first then return .sequence first (← pieces form n inGroup .anchor)
      else
        let whole ← repetitions form (← get).rest.length first
        return .sequence whole (← pieces form n inGroup .piece)

/-- One piece. A sign for repetitions repeats only what is a piece. -/
def piece (form : RegexForm) : Nat → Front → Reader Regex
  | 0, _ => return .empty
  | n + 1, front => do
    let escape (c : Char) : Chars := if form.extended then [c] else ['\\', c]
    if front ≠ .piece then
      match ← leadingRepetition form with
      | some r => return r
      | none => pure ()
    if ← took (escape '(') then
      modify fun r => { r with groups := r.groups + 1 }
      let number := (← get).groups
      let inside ← choice form n true
      if !(← took (escape ')')) then throw .openGroup
      modify fun r => { r with ended := number :: r.ended }
      return .group number inside
    else
      match (← get).rest with
      | '[' :: _ => do
        pass 1
        bracket
      | '.' :: _ => do
        pass 1
        return .one true []
      | '^' :: _ =>
        pass 1
        return if form.extended ∨ front = .nothing then .anchor .lineStart else .char '^'
      | '$' :: rest =>
        pass 1
        return if form.extended ∨ endsHere form true rest then .anchor .lineEnd else .char '$'
      | ['\\'] => throw .lastBackslash
      | '\\' :: c :: _ => do
        pass 2
        if c.isDigit ∧ c ≠ '0' then
          let number := Text.numeral 10 [c]
          if !(← get).ended.contains number then throw .badReference
          return .same number
        else return (escapes.lookup c).getD (.char c)
      | c :: _ => do
        pass 1
        return .char c
      | [] => return .empty

end

/-- The expression that a text is, with the signs for repetitions in it that have nothing before them. -/
def read (form : RegexForm) (text : Chars) : Except RegexFault (Regex × List Chars) := do
  let (r, last) ← (choice form (3 * text.length + 3) false).run ⟨text, 0, [], []⟩
  if last.rest ≠ [] then throw .closedGroup
  return (r, last.idle)

end Regex

end ConsumerCheck.Shell
