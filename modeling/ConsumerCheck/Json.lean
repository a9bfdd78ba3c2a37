/-!
# JSON documents

* `Json` — a document. The members of an object keep their order;
* `Json.quote` — a text between quotes: quotes, backslashes and control characters are escaped, all else
  stands for itself;
* `Json.pretty` — a document over several lines, two blanks deeper for each level, as
  `serde_json::to_string_pretty` writes it.
-/

namespace ConsumerCheck

/-- A JSON document. -/
inductive Json where
  | null
  | bool (b : Bool)
  | number (n : Nat)
  | string (text : String)
  | array (items : List Json)
  | object (members : List (String × Json))
  deriving Repr, Inhabited

namespace Json

/-- A hexadecimal digit, in lower case. -/
def hexDigit (n : Nat) : Char := if n < 10 then Char.ofNat (0x30 + n) else Char.ofNat (0x57 + n)

/-- A character inside quotes. -/
def escape (c : Char) : List Char :=
  if c = '"' then ['\\', '"']
  else if c = '\\' then ['\\', '\\']
  else if c = '\x08' then ['\\', 'b']
  else if c = '\x0c' then ['\\', 'f']
  else if c = '\n' then ['\\', 'n']
  else if c = '\r' then ['\\', 'r']
  else if c = '\t' then ['\\', 't']
  else if c.toNat < 0x20 then
    ['\\', 'u', '0', '0', hexDigit (c.toNat / 16), hexDigit (c.toNat % 16)]
  else [c]

/-- A text between quotes. -/
def quote (text : String) : List Char := '"' :: text.toList.flatMap escape ++ ['"']

/-- A line feed and the blanks of a level. -/
def newLine (depth : Nat) : List Char := '\n' :: List.replicate (2 * depth) ' '

mutual

/-- The characters of a document that stands on a level. -/
def prettyChars (depth : Nat) : Json → List Char
  | null => ['n', 'u', 'l', 'l']
  | bool true => ['t', 'r', 'u', 'e']
  | bool false => ['f', 'a', 'l', 's', 'e']
  | number n => Nat.toDigits 10 n
  | string text => quote text
  | array [] => ['[', ']']
  | array (item :: items) =>
    '[' :: newLine (depth + 1) ++ prettyChars (depth + 1) item ++ prettyItems (depth + 1) items ++
      newLine depth ++ [']']
  | object [] => ['\x7b', '\x7d']
  | object (member :: members) =>
    '\x7b' :: newLine (depth + 1) ++ prettyMember (depth + 1) member ++
      prettyMembers (depth + 1) members ++ newLine depth ++ ['\x7d']

/-- The items of an array after the first. -/
def prettyItems (depth : Nat) : List Json → List Char
  | [] => []
  | item :: items =>
    ',' :: newLine depth ++ prettyChars depth item ++ prettyItems depth items

/-- A member of an object. -/
def prettyMember (depth : Nat) : String × Json → List Char
  | (key, value) => quote key ++ [':', ' '] ++ prettyChars depth value

/-- The members of an object after the first. -/
def prettyMembers (depth : Nat) : List (String × Json) → List Char
  | [] => []
  | member :: members =>
    ',' :: newLine depth ++ prettyMember depth member ++ prettyMembers depth members

end

/-- A document over several lines. -/
def pretty (document : Json) : String := String.ofList (prettyChars 0 document)

end Json

end ConsumerCheck
