import ConsumerCheck.Shell.Syntax

/-!
# Tokens of a shell script

* `Token` — what a script is made of between its blanks;
* `RedirectionKind` — what a sign of redirection asks for;
* `Token.name` — how complaints name a token;
* `SyntaxFault` — why a script cannot be read, with `SyntaxFault.message` for the wording.
-/

namespace ConsumerCheck.Shell

/-- What a sign of redirection asks for. -/
inductive RedirectionKind where
  | file (opening : Opening)
  | duplicate
  /-- A text in the script, perhaps without the tabs at the start of its lines. -/
  | document (withoutTabs : Bool)
  /-- A word as a text. -/
  | text
  /-- A file for output and complaints. -/
  | both (appending : Bool)
  deriving DecidableEq, Repr

/-- What a script is made of between its blanks. -/
inductive Token where
  | ending
  | newline
  /-- A sign that separates commands. -/
  | sign (text : String)
  /-- A word with a meaning of its own, where a command may begin. -/
  | reserved (text : String)
  /-- Any other word, and whether some of it is quoted. -/
  | word (word : Word) (quoted : Bool)
  | redirection (descriptor : Nat) (kind : RedirectionKind)

instance : Inhabited Token := ⟨.ending⟩

namespace Token

/-- The words with a meaning of their own. -/
def reservedWords : List String := [
  "!", "case", "do", "done", "elif", "else", "esac", "fi", "for", "if", "in", "then", "until",
  "while", "\x7b", "\x7d"]

/-- The words that have a meaning of their own only in the richer shell. -/
def richWords : List String := ["function", "[["]

/-- A text between double quotes. -/
def quoted (text : String) : String := "\"" ++ text ++ "\""

/-- How complaints name a token. -/
def name : Token → String
  | ending => "end of file"
  | newline => "newline"
  | sign text => quoted text
  | reserved text => quoted text
  | word .. => "word"
  | redirection .. => "redirection"

/-- Whether a token is the end of the script. -/
def isEnding : Token → Bool
  | ending => true
  | _ => false

/-- Whether a list of commands can end before a token. -/
def endsList : Token → Bool
  | ending => true
  | sign text => [")", ";;", ";&", ";;&"].contains text
  | reserved text =>
    ["do", "done", "elif", "else", "esac", "fi", "then", "\x7d"].contains text
  | _ => false

/-- The word of a token, as a pattern may need it. -/
def asWord : Token → Word
  | word parts _ => parts
  | reserved text => (chars text).map .char
  | _ => []

/-- A token as it is written, as far as that is known. -/
def written : Token → Chars
  | ending => chars "end of file"
  | newline => chars "newline"
  | sign text => chars text
  | reserved text => chars text
  | word parts _ => plainText parts
  | redirection _ (.file .read) => ['<']
  | redirection _ (.file .append) => chars ">>"
  | redirection _ (.document _) => chars "<<"
  | redirection .. => ['>']

/-- A word, or the reserved word that it is. -/
def withMeaning (rich : Bool) (token : Token) : Token :=
  match token with
  | word parts false =>
    match literal? parts with
    | some cs =>
      let text := String.ofList cs
      if reservedWords.contains text || (rich && richWords.contains text) then reserved text else token
    | none => token
  | _ => token

end Token

/-- Why a script cannot be read. -/
inductive SyntaxFault where
  /-- A token where another one must stand, or none like it. -/
  | unexpected (found : Token) (expected : Option String)
  /-- The end of the script before the sign that must follow, which belongs to one on a line before. -/
  | unclosed (sign : Char) (line : Nat)
  /-- A token between double brackets where it cannot stand. -/
  | unexpectedInCheck (found : Token)
  | openQuotes
  | openBrace
  | openExpression
  | openBackquote
  | loopVariable
  | functionName

instance : Inhabited SyntaxFault := ⟨.openQuotes⟩

/-- The wording of a fault. -/
def SyntaxFault.message : SyntaxFault → String
  | unexpected found none => found.name ++ " unexpected"
  | unexpected found (some expected) => found.name ++ " unexpected (expecting " ++ expected ++ ")"
  | unclosed .. => "Unterminated quoted string"
  | unexpectedInCheck found => found.name ++ " unexpected"
  | openQuotes => "Unterminated quoted string"
  | openBrace => "Missing '\x7d'"
  | openExpression => "Missing '))'"
  | openBackquote => "EOF in backquote substitution"
  | loopVariable => "Bad for loop variable"
  | functionName => "Bad function name"

/-- The wording of a fault in the richer shell, and whether the line in which it is found is shown too. -/
def SyntaxFault.richMessage : SyntaxFault → Chars × Bool
  | unexpected .ending _ => (chars "syntax error: unexpected end of file", false)
  | unexpected found _ => (chars "syntax error near unexpected token \x60" ++ found.written ++ ['\''], true)
  | unclosed sign _ => (chars "unexpected EOF while looking for matching \x60" ++ [sign, '\''], false)
  | unexpectedInCheck found => (chars "syntax error near \x60" ++ found.written ++ ['\''], true)
  | fault => (chars ("syntax error: " ++ fault.message), false)

end ConsumerCheck.Shell
