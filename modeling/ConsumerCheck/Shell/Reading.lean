import ConsumerCheck.Shell.Token

/-!
# The characters of a script

A script is read character by character. An alias puts its text in front of what is left of the script; the
end of that text counts as a blank, and if the text itself ends in a blank, the word after it may be an alias
again.

* `Reading` — how far the reading has come;
* `Reader` — what reads a part of a script, or finds a fault in it;
* `Reader.take`, `Reader.giveBack` — one character;
* `Reader.takeJoined` — the same, where a backslash at the end of a line joins it with the next one.
-/

namespace ConsumerCheck.Shell

/-- The text of an alias that is being read. -/
structure AliasText where
  /-- The alias, and those whose texts ended with it. They are not replaced until the text is read. -/
  names : List Chars
  text : Chars
  /-- Whether the text ends in a blank. -/
  goesOn : Bool

/-- A text in the script that is still to be read, for a redirection on the line. -/
structure PendingDocument where
  index : Nat
  /-- The line that ends the text. -/
  delimiter : Chars
  /-- Whether tabs at the start of a line are left out. -/
  withoutTabs : Bool
  expanded : Bool

/-- How far the reading of a script has come. -/
structure Reading where
  aliases : List (Chars × Chars)
  /-- The texts of aliases that are read before the rest. -/
  inserted : List AliasText
  /-- The aliases whose texts ended with the last character. -/
  justEnded : List Chars
  /-- The aliases in whose texts the script that is read stands. -/
  around : List Chars
  rest : Chars
  line : Nat
  /-- The last token, and whether it counts as not read yet. -/
  last : Token
  unread : Bool
  /-- Whether the next word may be an alias because of the blank before it. -/
  aliasNext : Bool
  pending : List PendingDocument
  /-- The texts in the script that redirections refer to. -/
  documents : Array Word
  /-- Whether the shell is the one that knows more signs. -/
  rich : Bool
  /-- What the shell has to say about what was read, with the lines, the last one first. -/
  remarks : List (Nat × Chars)
  /-- Whether the line was there that ends the text that was read last. -/
  delimited : Bool

/-- What reads a part of a script. -/
abbrev Reader := EStateM SyntaxFault Reading

/-- The end of an alias as a character. No script holds it. -/
def aliasEnd : Char := '\x00'

namespace Reading

/-- The next character: from the texts of aliases that are inserted, or from the rest. -/
def takeFrom : List AliasText → Reading → Option Char × Reading
  | [], r =>
    match r.rest with
    | [] => (none, { r with inserted := [] })
    | c :: rest => (some c, { r with inserted := [], rest })
  | ⟨names, c :: text, goesOn⟩ :: more, r =>
    (some c, { r with inserted := ⟨names, text, goesOn⟩ :: more })
  | ⟨names, [], true⟩ :: more, r =>
    takeFrom more { r with aliasNext := true, justEnded := names ++ r.justEnded }
  | ⟨names, [], false⟩ :: more, r =>
    (some aliasEnd, { r with inserted := more, justEnded := names ++ r.justEnded })

/-- The aliases that are being read. -/
def busy (r : Reading) : List Chars := r.inserted.flatMap (·.names) ++ r.justEnded ++ r.around

end Reading

namespace Reader

/-- The next character. -/
def take : Reader (Option Char) := do
  modifyGet fun r => Reading.takeFrom r.inserted { r with justEnded := [] }

/-- Puts a character back. -/
def giveBack (c : Option Char) : Reader Unit :=
  match c with
  | none => pure ()
  | some c =>
    if c = aliasEnd then pure ()
    else
      modify fun r =>
        match r.inserted with
        | [] => { r with rest := c :: r.rest }
        | top :: more => { r with inserted := { top with text := c :: top.text } :: more }

/-- Counts the end of a line. -/
def countLine : Reader Unit := modify fun r => { r with line := r.line + 1 }

/-- How many lines may be joined into one. -/
def maxJoined : Nat := 100000

/-- The next character, over the ends of lines with a backslash before them. -/
def takeJoinedUpTo : Nat → Reader (Option Char)
  | 0 => take
  | n + 1 => do
    let c ← take
    if c = some '\\' then
      let d ← take
      if d = some '\n' then
        countLine
        takeJoinedUpTo n
      else
        giveBack d
        return c
    else return c

/-- The next character, over the ends of lines with a backslash before them. -/
def takeJoined : Reader (Option Char) := takeJoinedUpTo maxJoined

/-- Leaves out the rest of the line. -/
def skipComment : Reader Unit :=
  modify fun r =>
    match r.inserted with
    | [] => { r with rest := r.rest.dropWhile (· != '\n') }
    | top :: more =>
      let text := top.text.dropWhile (· != '\n')
      if text = [] then { r with inserted := [], rest := r.rest.dropWhile (· != '\n') }
      else { r with inserted := { top with text } :: more }

/-- Puts the text of an alias in front. -/
def insertAlias (name text : Chars) : Reader Unit :=
  modify fun r =>
    let goesOn := text.getLast? = some ' ' ∨ text.getLast? = some '\t'
    if text = [] then r
    else
      { r with
        inserted := ⟨name :: r.justEnded, text, goesOn⟩ :: r.inserted
        justEnded := [] }

/-- The text of an alias that is not being read already. -/
def alias? (name : Chars) : Reader (Option Chars) := do
  let r ← get
  return if r.busy.contains name then none else r.aliases.lookup name

/-- Counts the last token as not read yet. -/
def putBack : Reader Unit := modify fun r => { r with unread := true }

/-- A fault: the last token is not expected, or another one is. -/
def unexpected (expected : Option String) : Reader α := do
  throw (.unexpected (← get).last expected)

/-- Reads another text in the place of the script. Its lines are counted from one, and whatever is left of
it is not read. -/
def within (text : Chars) (reader : Reader α) : Reader α := do
  let before ← get
  set { before with
    inserted := []
    justEnded := []
    around := before.busy
    rest := text
    line := 1
    unread := false }
  let a ← reader
  modify fun r => { r with
    inserted := before.inserted
    justEnded := before.justEnded
    around := before.around
    rest := before.rest
    line := before.line
    unread := false }
  return a

end Reader

end ConsumerCheck.Shell
