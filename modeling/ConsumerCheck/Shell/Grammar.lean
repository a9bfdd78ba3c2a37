import ConsumerCheck.Shell.Braces
import ConsumerCheck.Shell.Word

/-!
# The grammar of scripts

* `Reader.next` — the next token, where `Checks` says what counts besides;
* `Reader.command` — one command, with what it encloses;
* `Reader.list` — commands one after the other, up to the end of a line or to a token that ends the list;
* `parse` — the readers tied together: each may call the others for what it encloses, up to a depth;
* `readCommand` — the commands of a line, or the end of the script.

A complete command may reach over several lines. A script is read command by command, so that what stands
before a fault still counts.
-/

namespace ConsumerCheck.Shell

/-- What counts when a token is read. -/
structure Checks where
  /-- The ends of lines are left out. -/
  newlines : Bool
  /-- Reserved words have their meaning. -/
  reserved : Bool
  /-- Aliases are replaced. -/
  aliases : Bool

namespace Checks

/-- Nothing besides the tokens. -/
def none : Checks := ⟨false, false, false⟩

/-- Where a command may begin. -/
def command : Checks := ⟨false, true, true⟩

/-- Where a command may begin on a later line. -/
def all : Checks := ⟨true, true, true⟩

/-- Where a pattern of a choice may begin. -/
def pattern : Checks := ⟨true, true, false⟩

end Checks

/-- A bound on the parts of a script, which no script reaches. -/
def maxParts : Nat := 1000000000

/-- The commands on which the course of a script depends. Their failures end it. -/
def specialCommands : List String := [
  ".", ":", "break", "continue", "eval", "exec", "exit", "export", "local", "readonly", "return",
  "set", "shift", "times", "trap", "unset"]

namespace Reader

variable (nested : Nested)

/-- Reads the texts that redirections on the line have asked for. -/
def readPending : Reader Unit := do
  let pending := (← get).pending
  modify fun r => { r with pending := [] }
  pending.forM fun d => do
    let word ← readFullDocument nested d
    modify fun r => { r with documents := r.documents.setIfInBounds d.index word }

/-- The redirection that a sign begins. -/
def redirectionSign (usual : Option Nat) (sign : Char) : Reader Token := do
  let c ← takeJoined
  let token (standard : Nat) (kind : RedirectionKind) : Token :=
    .redirection (usual.getD standard) kind
  let other (t : Token) : Reader Token := do
    giveBack c
    return t
  if sign = '>' then
    match c with
    | some '>' => return token 1 (.file .append)
    | some '|' => return token 1 (.file .replace)
    | some '&' => return token 1 .duplicate
    | _ => other (token 1 (.file .write))
  else
    match c with
    | some '<' =>
      let d ← takeJoined
      if d = some '-' then return token 0 (.document true)
      else if d = some '<' && (← get).rich then return token 0 .text
      else
        giveBack d
        return token 0 (.document false)
    | some '&' => return token 0 .duplicate
    | some '>' => return token 0 (.file .update)
    | _ => other (token 0 (.file .read))

/-- The number of a descriptor that stands before a sign of redirection. -/
def descriptorBefore? (rich : Bool) (word : Word) : Option (Option Nat) :=
  match word with
  | [] => some none
  | [.char c] => if c.isDigit then some (some (c.toNat - 0x30)) else none
  | word =>
    match rich, literal? word with
    | true, some digits =>
      if digits.all Char.isDigit && digits.length ≤ 3 then some (some (Text.numeral 10 digits)) else none
    | _, _ => none

/-- The token that begins with `c`. -/
def tokenFrom (bare : Bool) (c : Char) : Reader Token := do
  let rich := (← get).rich
  /- A sign that may stand twice. -/
  let twice (once both : String) : Reader Token := do
    let d ← takeJoined
    if d = some c then
      let e ← if rich && c = ';' then takeJoined else pure none
      if e = some '&' then return .sign ";;&"
      else
        giveBack e
        return .sign both
    else
      match rich, c, d with
      | true, '&', some '>' => do
        let e ← takeJoined
        if e = some '>' then return .redirection 1 (.both true)
        else
          giveBack e
          return .redirection 1 (.both false)
      | true, '|', some '&' => return .sign "|&"
      | true, ';', some '&' => return .sign ";&"
      | _, _, _ =>
        giveBack d
        return .sign once
  match c with
  | '\n' =>
    countLine
    return .newline
  | '&' => twice "&" "&&"
  | '|' => twice "|" "||"
  | ';' => twice ";" ";;"
  | '(' => return .sign "("
  | ')' => return .sign ")"
  | c =>
    let (word, quoted, after) ← readWord nested bare (some c)
    match after, descriptorBefore? rich word, quoted with
    | some '<', some usual, false => redirectionSign usual '<'
    | some '>', some usual, false => redirectionSign usual '>'
    | _, _, _ =>
      giveBack after
      return .word word quoted

/-- The next token from the characters. -/
def scanToken (bare : Bool) : Nat → Reader Token
  | 0 => return .ending
  | n + 1 => do
    match ← takeJoined with
    | none => return .ending
    | some c =>
      if c = ' ' || c = '\t' || c = aliasEnd then scanToken bare n
      else if c = '#' then
        skipComment
        scanToken bare n
      else tokenFrom nested bare c

/-- The next token, which may be one that was put back. -/
def rawToken (bare : Bool) : Reader Token := do
  let r ← get
  if r.unread then
    set { r with unread := false }
    return r.last
  else
    let token ← scanToken nested bare maxParts
    modify fun r => { r with last := token }
    return token

/-- The next token that is no end of a line. -/
def skipNewlines : Nat → Token → Reader Token
  | 0, token => return token
  | n + 1, token => do
    match token with
    | .newline =>
      readPending nested
      skipNewlines n (← rawToken nested false)
    | token => return token

/-- The next token, after aliases are replaced. -/
def nextUpTo (bare : Bool) : Nat → Checks → Reader Token
  | 0, _ => return .ending
  | n + 1, checks => do
    let token ← rawToken nested bare
    let token ← if checks.newlines then skipNewlines nested maxParts token else pure token
    let aliases := checks.aliases || (← get).aliasNext
    modify fun r => { r with aliasNext := false }
    let rich := (← get).rich
    let token := if checks.reserved then token.withMeaning rich else token
    modify fun r => { r with last := token }
    match token, aliases with
    | .word word false, true =>
      match literal? word with
      | none => return token
      | some name =>
        match ← alias? name with
        | none => return token
        | some text =>
          insertAlias name text
          nextUpTo bare n { checks with aliases := true }
    | token, _ => return token

/-- The next token. -/
def next (checks : Checks) : Reader Token := nextUpTo nested false maxParts checks

/-- Takes a token that must stand here. -/
def expect (token : Token) : Reader Unit := do
  let found ← next nested .none
  if found.name ≠ token.name then unexpected (some token.name)

/-- The redirection that a sign has begun, with its target. -/
def redirection (descriptor : Nat) (kind : RedirectionKind) : Reader Redirection := do
  let bare := match kind with
    | .document _ => true
    | _ => false
  match ← nextUpTo nested bare maxParts .none, kind with
  | .word word _, .file opening => return .file descriptor opening word
  | .word word _, .duplicate => return .duplicate descriptor word
  | .word word _, .text => return .text descriptor word
  | .word word _, .both appending => return .both appending word
  | .word word quoted, .document withoutTabs =>
    let r ← get
    let index := r.documents.size
    set { r with
      documents := r.documents.push []
      pending := r.pending ++ [PendingDocument.mk index (plainText word) withoutTabs (!quoted)] }
    return .document descriptor (!quoted) index
  | _, _ => unexpected none

/-- What stands between reserved words. -/
def body : Reader Statement := do return (← nested .body).getD default

/-- The redirections after a command that encloses others. -/
def redirections : Nat → Reader (List Redirection)
  | 0 => return []
  | n + 1 => do
    match ← next nested .command with
    | .redirection descriptor kind =>
      let first ← redirection nested descriptor kind
      return first :: (← redirections n)
    | _ =>
      putBack
      return []

/-- What is done if the condition does not hold. -/
def otherwise : Nat → Reader (Option Statement)
  | 0 => return none
  | n + 1 => do
    match ← next nested .none with
    | .reserved "elif" =>
      let condition ← body nested
      expect nested (.reserved "then")
      let consequence ← body nested
      return some (.conditional condition consequence (← otherwise n))
    | .reserved "else" => return some (← body nested)
    | _ =>
      putBack
      return none

/-- Words up to another token. -/
def words : Nat → Reader (List Word)
  | 0 => return []
  | n + 1 => do
    match ← next nested .none with
    | .word word _ => do
      let found := if (← get).rich then braceWords word else [word]
      return found ++ (← words n)
    | _ => return []

/-- The commands of a loop, between the words that enclose them. -/
def loopBody : Reader Statement := do
  match ← next nested .all with
  | .reserved "do" => pure ()
  | _ => unexpected (some (Token.quoted "do"))
  let commands ← body nested
  expect nested (.reserved "done")
  return commands

/-- The expression that begins here behind two brackets, up to the brackets that close it. -/
def bracketed : Reader Word := do
  let c ← takeJoined
  let start := (Scan.start .plain).push (.new .arithmetic)
  let (word, _, after) ← readWordFrom nested false (start.add .arithmetic) c
  giveBack after
  match word with
  | [.arithmetic expression] => return expression
  | _ => unexpected none

/-- Whether another opening bracket follows at once, over which is then passed. -/
def takesBracket : Reader Bool := do
  let r ← get
  let c ← takeJoined
  if r.rich && c = some '(' then return true
  else
    giveBack c
    return false

/-- A loop that counts, from its expressions on. -/
def countedLoop (line : Nat) : Reader Statement := do
  match splitWord ';' (← bracketed nested) with
  | [before, test, after] => do
    match ← next nested .command with
    | .sign ";" => pure ()
    | _ => putBack
    return .counted line before test after (← loopBody nested)
  | _ => unexpected none

/-- A loop over words, from its variable on. -/
def loopOverWords (line : Nat) : Reader Statement := do
  let rich := (← get).rich
  let name ← match ← next nested .none with
    | .word word false =>
      match literal? word with
      | some name => if rich || isName name then pure name else throw .loopVariable
      | none => if rich then pure (plainText word) else throw .loopVariable
    | .word word true => if rich then pure (plainText word) else throw .loopVariable
    | _ => if rich then unexpected none else throw .loopVariable
  let list ← match ← next nested .all with
    | .reserved "in" => do
      let list ← words nested maxParts
      match (← get).last with
      | .newline | .sign ";" => pure list
      | _ => unexpected none
    | .sign ";" => pure [[.arguments]]
    | _ => do
      putBack
      pure [[.arguments]]
  return .each line name list (← loopBody nested)

/-- The patterns of an arm, from the last token on. -/
def patterns : Nat → Reader (List Word)
  | 0 => return []
  | n + 1 => do
    let word := (← get).last.asWord
    match ← next nested .none with
    | .sign "|" =>
      let _ ← next nested .none
      return word :: (← patterns n)
    | _ => return [word]

/-- The arms of a choice. -/
def arms : Nat → Reader (List (List Word × Option Statement × ArmEnd))
  | 0 => return []
  | n + 1 => do
    match ← next nested .pattern with
    | .reserved "esac" => return []
    | first =>
      match first with
      | .sign "(" => let _ ← next nested .none
      | _ => pure ()
      let alternatives ← patterns nested maxParts
      match (← get).last with
      | .sign ")" => pure ()
      | _ => unexpected (some (Token.quoted ")"))
      let commands ← nested .arm
      match ← next nested .pattern with
      | .reserved "esac" => return [(alternatives, commands, .choiceEnds)]
      | .sign ";;" => return (alternatives, commands, .choiceEnds) :: (← arms n)
      | .sign ";&" => return (alternatives, commands, .nextRuns) :: (← arms n)
      | .sign ";;&" => return (alternatives, commands, .goesOn) :: (← arms n)
      | _ => unexpected (some (Token.quoted ";;"))

/-- A choice, from its word on. -/
def choice (line : Nat) : Reader Statement := do
  match ← next nested .none with
  | .word word _ =>
    match ← next nested .all with
    | .reserved "in" => return .choice line word (← arms nested maxParts)
    | _ => unexpected (some (Token.quoted "in"))
  | _ => unexpected (some "word")

/-- Words in brackets on any lines, up to the bracket that closes them. -/
def valuesUpTo : Nat → Reader (List Word)
  | 0 => return []
  | n + 1 => do
    match ← next nested ⟨true, false, false⟩ with
    | .word word _ => return braceWords word ++ (← valuesUpTo n)
    | .sign ")" => return []
    | _ => unexpected none

/-- The values in brackets that follow at once, as a piece of a word. -/
def bracketedValues : Reader Word := do
  if ← takesBracket then return [.values (← valuesUpTo nested maxParts)] else return []

/-- The signs of conditions on one word. -/
def checksOnOne : List String := [
  "-a", "-b", "-c", "-d", "-e", "-f", "-g", "-h", "-k", "-n", "-o", "-p", "-r", "-s", "-t", "-u", "-v", "-w",
  "-x", "-z", "-G", "-L", "-N", "-O", "-S"]

/-- The signs of conditions on two words. -/
def checksOnTwo : List String := [
  "=", "==", "!=", "=~", "-eq", "-ne", "-lt", "-le", "-gt", "-ge", "-nt", "-ot", "-ef"]

/-- What counts between double brackets. -/
def insideChecks : Checks := ⟨true, false, false⟩

/-- A fault of the last token between double brackets. -/
def misplacedCheck : Reader α := do throw (.unexpectedInCheck (← get).last)

/-- The first character that is no blank. -/
def skipBlanks : Nat → Reader (Option Char)
  | 0 => return none
  | n + 1 => do
    match ← takeJoined with
    | some c => if c = ' ' || c = '\t' then skipBlanks n else return some c
    | none => return none

/-- The second word of a condition. A regular expression goes on over signs that separate commands. -/
def checkOperand (sign : String) : Reader Word := do
  if sign = "=~" then
    let start := Scan.start .plain
    let c ← skipBlanks maxParts
    let (word, _, after) ← readWordFrom nested false { start with level := { start.level with solid := true } } c
    giveBack after
    return word
  else
    match ← next nested .none with
    | .word word _ => return word
    | _ => misplacedCheck

/-- A condition that begins with a word. -/
def checkFrom (word : Word) : Reader Check := do
  let text := (literal? word).map String.ofList
  if text = some "]]" then misplacedCheck
  else
    match ← next nested .none, text.filter checksOnOne.contains with
    | .word second _, sign? => do
      let other := ((literal? second).map String.ofList).filter checksOnTwo.contains
      match sign?, other with
      | _, some sign => return .compares sign word (← checkOperand nested sign)
      | some sign, none => if literal? second = some (chars "]]") then misplacedCheck else return .holds sign second
      | none, none =>
        putBack
        return .holds "-n" word
    | .redirection 0 (.file .read), _ => return .compares "<" word (← checkOperand nested "<")
    | .redirection 1 (.file .write), _ => return .compares ">" word (← checkOperand nested ">")
    | _, _ =>
      putBack
      return .holds "-n" word

mutual

/-- Conditions of which one must hold. -/
def checkOf : Nat → Reader Check
  | 0 => misplacedCheck
  | n + 1 => do
    let first ← checkAll n
    match ← next nested insideChecks with
    | .sign "||" => return .either first (← checkOf n)
    | _ =>
      putBack
      return first

/-- Conditions that must all hold. -/
def checkAll : Nat → Reader Check
  | 0 => misplacedCheck
  | n + 1 => do
    let first ← checkOne n
    match ← next nested insideChecks with
    | .sign "&&" => return .both first (← checkAll n)
    | _ =>
      putBack
      return first

/-- One condition. -/
def checkOne : Nat → Reader Check
  | 0 => misplacedCheck
  | n + 1 => do
    match ← next nested insideChecks with
    | .sign "(" => do
      let inside ← checkOf n
      match ← next nested insideChecks with
      | .sign ")" => return inside
      | _ => misplacedCheck
    | .word word quoted =>
      if literal? word = some ['!'] ∧ !quoted then return .negated (← checkOne n) else checkFrom nested word
    | _ => misplacedCheck

end

/-- Takes the brackets that close a condition. -/
def expectCheckEnd : Reader Unit := do
  match ← next nested insideChecks with
  | .word word false => if literal? word ≠ some (chars "]]") then misplacedCheck
  | _ => misplacedCheck

/-- The body of a function, which in the richer shell must be a command that encloses others. -/
def functionBody : Reader Statement := do
  if (← get).rich then
    match ← next nested .all with
    | .reserved text =>
      if ["\x7b", "[[", "case", "for", "if", "until", "while"].contains text then putBack else unexpected none
    | .sign "(" => putBack
    | _ => unexpected none
  return (← nested .command).getD default

/-- The definition of a function after the word that says so. -/
def namedFunction : Reader Statement := do
  match ← next nested .none with
  | .word word _ =>
    match literal? word with
    | some name =>
      match ← next nested .none with
      | .sign "(" => expect nested (.sign ")")
      | _ => putBack
      let line := (← get).line
      return .function line name (← functionBody nested)
    | none => throw .functionName
  | _ => unexpected none

/-- A simple command that is being read. Each list has its last part first. -/
structure SimpleParts where
  assignments : List Word
  words : List Word
  redirections : List Redirection

/-- The name of a function whose definition begins here. -/
def functionName (parts : SimpleParts) : Reader (Option Chars) :=
  match parts.assignments, parts.words, parts.redirections with
  | [], [word], [] => do
    expect nested (.sign ")")
    match literal? word with
    | some name =>
      if (← get).rich || (isName name && !specialCommands.contains (String.ofList name)) then
        return some name
      else throw .functionName
    | none => throw .functionName
  | _, _, _ => return none

/-- The line at which the last token stands. -/
def tokenLine : Reader Nat := do
  let r ← get
  match r.last with
  | .newline => return r.line - 1
  | _ => return r.line

/-- A simple command, or the definition of a function. In the richer shell it stands on the line on which the token
after its first word does. -/
def simple (line : Nat) : Nat → SimpleParts → Reader Statement
  | 0, _ => return default
  | n + 1, parts => do
    let first := parts.words.isEmpty
    let second := parts.assignments.isEmpty && parts.redirections.isEmpty && parts.words.length = 1
    let token ← next nested ⟨false, false, first⟩
    let line ← if second && (← get).rich then tokenLine else pure line
    let finished : Reader Statement := do
      putBack
      return .simple line parts.assignments.reverse parts.words.reverse
        parts.redirections.reverse
    match token with
    | .word word _ =>
      if (← get).rich then
        match richAssignment? word with
        | some a =>
          let values ← if a.value.isEmpty then bracketedValues nested else pure []
          let word := word ++ values
          if first then simple line n { parts with assignments := word :: parts.assignments }
          else simple line n { parts with words := word :: parts.words }
        | none => simple line n { parts with words := (braceWords word).reverse ++ parts.words }
      else if first && (assignment? word).isSome then
        simple line n { parts with assignments := word :: parts.assignments }
      else simple line n { parts with words := word :: parts.words }
    | .redirection descriptor kind =>
      let target ← redirection nested descriptor kind
      simple line n { parts with redirections := target :: parts.redirections }
    | .sign "(" =>
      match ← functionName nested parts with
      | some name =>
        let line := (← get).line
        return .function line name (← functionBody nested)
      | none => finished
    | _ => finished

/-- One command. -/
def command (checks : Checks) : Reader Statement := do
  let line := (← get).line
  let enclosing ← match ← next nested checks with
    | .reserved "if" => do
      let condition ← body nested
      expect nested (.reserved "then")
      let consequence ← body nested
      let otherwise ← otherwise nested maxParts
      expect nested (.reserved "fi")
      pure (some (Statement.conditional condition consequence otherwise))
    | .reserved "while" => do
      let condition ← body nested
      expect nested (.reserved "do")
      let commands ← body nested
      expect nested (.reserved "done")
      pure (some (.loop false condition commands))
    | .reserved "until" => do
      let condition ← body nested
      expect nested (.reserved "do")
      let commands ← body nested
      expect nested (.reserved "done")
      pure (some (.loop true condition commands))
    | .reserved "for" => do
      match ← next nested .none with
      | .sign "(" =>
        if ← takesBracket then some <$> countedLoop nested line else throw .loopVariable
      | _ => do
        putBack
        some <$> loopOverWords nested line
    | .reserved "[[" => do
      let check ← checkOf nested maxParts
      expectCheckEnd nested
      pure (some (.check line check))
    | .reserved "function" => some <$> namedFunction nested
    | .reserved "case" => some <$> choice nested line
    | .reserved "\x7b" => do
      let commands ← body nested
      expect nested (.reserved "\x7d")
      pure (some commands)
    | .sign "(" => do
      if ← takesBracket then pure (some (.arithmetic line (← bracketed nested)))
      else
        let commands ← body nested
        expect nested (.sign ")")
        pure (some (.subshell line commands []))
    | .word .. => pure none
    | .redirection .. => pure none
    | _ => unexpected none
  match enclosing with
  | none =>
    putBack
    simple nested (← get).line maxParts ⟨[], [], []⟩
  | some statement =>
    let redirections ← redirections nested maxParts
    match statement, redirections with
    | statement, [] => return statement
    | .subshell line commands _, redirections => return .subshell line commands redirections
    | statement, redirections => return .redirected line statement redirections

/-- The commands of a pipeline after the first one. -/
def stages : Nat → Statement → Reader (List Statement)
  | 0, first => return [first]
  | n + 1, first => do
    match ← next nested .none with
    | .sign "|" => return first :: (← stages n (← command nested .all))
    | .sign "|&" =>
      let complaining := Statement.redirected (← get).line first [.duplicate 2 [.char '1']]
      return complaining :: (← stages n (← command nested .all))
    | _ =>
      putBack
      return [first]

/-- Whether an odd number of signs of negation follows in the richer shell. -/
def negations : Nat → Bool → Reader Bool
  | 0, odd => return odd
  | n + 1, odd => do
    if (← get).rich then
      match ← next nested .command with
      | .reserved "!" => negations n (!odd)
      | _ => do
        putBack
        return odd
    else return odd

/-- Whether a pipeline in the richer shell has no command. -/
def isBare : Reader Bool := do
  if (← get).rich then
    let token ← next nested .command
    putBack
    match token with
    | .newline | .ending | .sign ";" => return true
    | _ => return false
  else return false

/-- A pipeline. -/
def pipeline (checks : Checks) : Reader Statement := do
  let (negated, checks) ← match ← next nested checks with
    | .reserved "!" => do
      if ← isBare nested then return .negated (.simple (← get).line [] [] [])
      pure (← negations nested maxParts true, Checks.command)
    | _ => do
      putBack
      pure (false, Checks.none)
  let first ← command nested checks
  let statement := match ← stages nested maxParts first with
    | [one] => one
    | more => .pipeline false more
  return if negated then .negated statement else statement

/-- Pipelines joined by what comes of the ones before. -/
def joined : Nat → Statement → Reader Statement
  | 0, first => return first
  | n + 1, first => do
    match ← next nested .none with
    | .sign "&&" => joined n (.both first (← pipeline nested .all))
    | .sign "||" => joined n (.either first (← pipeline nested .all))
    | _ =>
      putBack
      return first

/-- A command that nothing waits for. -/
def inBackground (line : Nat) : Statement → Statement
  | .pipeline _ stages => .pipeline true stages
  | .redirected line commands redirections => .background line commands redirections
  | statement => .background line statement []

/-- Commands one after the other, the last one first, and whether the script has ended. With `top` they end
with the line; else with a token that ends a list, which must not come first unless `mayEnd` says so. -/
def list (top : Bool) : Nat → Bool → List Statement → Reader (List Statement × Bool)
  | 0, _, done => return (done, true)
  | n + 1, mayEnd, done => do
    let token ← next nested ⟨!top, true, true⟩
    match token with
    | .newline =>
      readPending nested
      return (done, false)
    | .ending =>
      readPending nested
      putBack
      return (done, true)
    | token =>
      putBack
      if !top && mayEnd && token.endsList then return (done, false)
      else
        let first ← joined nested maxParts (← pipeline nested .none)
        match ← next nested .none with
        | .sign "&" => list top n true (inBackground (← get).line first :: done)
        | .sign ";" => list top n true (first :: done)
        | .newline =>
          putBack
          list top n true (first :: done)
        | .ending =>
          readPending nested
          putBack
          return (first :: done, true)
        | _ =>
          if top then unexpected none
          else
            putBack
            return (first :: done, false)

end Reader

/-- Commands one after the other as one statement. -/
def Statement.ofList : List Statement → Option Statement
  | [] => none
  | [one] => some one
  | more => some (.sequence more)

/-- How deep statements may stand inside others. -/
def maxNesting : Nat := 100000

/-- The readers tied together. -/
def parse : Nat → Nested
  | 0, _ => throw .openBrace
  | n + 1, goal => do
    let nested : Nested := parse n
    let statements (mayEnd : Bool) : Reader (Option Statement) := do
      return Statement.ofList (← Reader.list nested false maxParts mayEnd []).1.reverse
    match goal with
    | .body => statements false
    | .arm => statements true
    | .command => return some (← Reader.command nested .all)
    | .backquoted =>
      let pending := (← get).pending
      modify fun r => { r with pending := [] }
      let commands ← statements true
      Reader.readPending nested
      modify fun r => { r with pending }
      return commands
    | .substitution =>
      let pending := (← get).pending
      modify fun r => { r with pending := [] }
      let commands ← statements true
      let r ← get
      if r.rich && r.unread && r.last.isEnding then throw (.unclosed ')' r.line)
      Reader.expect nested (.sign ")")
      Reader.within [] (Reader.readPending nested)
      modify fun r => { r with pending }
      return commands

/-- The commands of a line, which may be empty; nothing at the end of the script. -/
def readCommand : Reader (Option (Option Statement)) := do
  modify fun r => { r with unread := false, pending := [], aliasNext := false }
  match ← Reader.list (parse maxNesting) true maxParts false [] with
  | ([], true) => return none
  | (done, _) => return some (Statement.ofList done.reverse)

end ConsumerCheck.Shell
