import ConsumerCheck.Text.Utf8

/-!
# Shell scripts

The tools that a run starts are usually scripts for `sh`, or for `bash`, the richer shell. This is what a
script says once it is read.

* `Piece` — a part of a word: a character, or something that is replaced when the word is used;
* `Redirection` — where a descriptor of a command leads;
* `Statement` — a command, or commands under control.

A shell works on octets. `Chars` holds one character for each octet, so that scripts can be written and
read as text.
-/

namespace ConsumerCheck.Shell

/-- Octets as characters, each below 256. -/
abbrev Chars := List Char

/-- Octets as characters. -/
def ofOctets (octets : Bytes) : Chars := octets.map fun b => Char.ofNat b.toNat

/-- Characters as octets. -/
def toOctets (chars : Chars) : Bytes := chars.map fun c => UInt8.ofNat c.toNat

/-- The characters of a text. -/
def chars (text : String) : Chars := ofOctets (Utf8.encode text)

/-- Whether a text stands before another one in the order of octets. -/
def precedes : Chars → Chars → Bool
  | _, [] => false
  | [], _ :: _ => true
  | a :: as, b :: bs => a < b || (a == b && precedes as bs)

/-- Texts in the order of octets. -/
def ordered (texts : List Chars) : List Chars := texts.mergeSort fun a b => !precedes b a

/-- What of a value is replaced. -/
inductive Replacing where
  | first
  | every
  | start
  | finish
  deriving DecidableEq, Repr

/-- How the value of a parameter is used. -/
inductive ParameterUse where
  | value
  | length
  /-- The word if there is no value. -/
  | default
  /-- The same, and the parameter is set to it. -/
  | assign
  /-- The word if there is a value. -/
  | alternative
  /-- The script ends if there is no value; the word says why. -/
  | required
  /-- The value without what the word matches at its start or at its end. -/
  | trimmed (start longest : Bool)
  /-- The value with something else in the place of what the first part of the word matches. -/
  | replaced (where_ : Replacing)
  /-- So many characters of the value, from a place on. -/
  | part
  /-- The value with capital or small letters, where the word matches them. -/
  | cased (capital every : Bool)
  /-- The value in another form, which a letter stands for. -/
  | transformed (letter : Char)
  /-- No use is written like this. -/
  | unknown
  deriving DecidableEq, Repr

/-- What is done with the file of a redirection. -/
inductive Opening where
  | read
  /-- Reading and writing, from the start of the file. -/
  | update
  | write
  /-- Writing to a file that may exist already, whatever the options say. -/
  | replace
  | append
  deriving DecidableEq, Repr

/-- What follows after the commands of an arm of a choice. -/
inductive ArmEnd where
  | choiceEnds
  /-- The commands of the next arm run too. -/
  | nextRuns
  /-- Further patterns are tried. -/
  | goesOn
  deriving DecidableEq, Repr

mutual

/-- A part of a word. Between two marks of quotation the word is not split into fields. -/
inductive Piece where
  | char (c : Char)
  /-- A character that stands for itself. -/
  | escaped (c : Char)
  /-- Quotes that are opened or closed. -/
  | quotes
  /-- The arguments of the script between quotes, each as a field of its own. -/
  | arguments
  /-- A parameter, or what stands at a place in it. With `emptyCounts` an empty value counts as none. -/
  | parameter (name : Chars) (subscript : List Piece) (use : ParameterUse) (emptyCounts : Bool)
      (word : List Piece)
  /-- What separates the parts of the word for a use. -/
  | divider
  /-- Several values in brackets. -/
  | values (list : List (List Piece))
  | arithmetic (expression : List Piece)
  /-- What a statement writes. -/
  | output (body : Option Statement)

/-- Where a descriptor leads. -/
inductive Redirection where
  | file (descriptor : Nat) (opening : Opening) (target : List Piece)
  /-- To where another descriptor leads, or nowhere. -/
  | duplicate (descriptor : Nat) (source : List Piece)
  /-- To a text that stands in the script, by its number among such texts. -/
  | document (descriptor : Nat) (expanded : Bool) (index : Nat)
  /-- To the text of a word. -/
  | text (descriptor : Nat) (word : List Piece)
  /-- To a file, together with the descriptor for complaints. -/
  | both (appending : Bool) (target : List Piece)

/-- A condition between double brackets. -/
inductive Check where
  | holds (sign : String) (operand : List Piece)
  | compares (sign : String) (first second : List Piece)
  | negated (check : Check)
  | both (first second : Check)
  | either (first second : Check)

/-- A command, or commands under control. Where a line is given, complaints name it. -/
inductive Statement where
  | simple (line : Nat) (assignments words : List (List Piece)) (redirections : List Redirection)
  | pipeline (background : Bool) (stages : List Statement)
  | both (first second : Statement)
  | either (first second : Statement)
  | sequence (list : List Statement)
  | negated (body : Statement)
  | background (line : Nat) (body : Statement) (redirections : List Redirection)
  | subshell (line : Nat) (body : Statement) (redirections : List Redirection)
  | redirected (line : Nat) (body : Statement) (redirections : List Redirection)
  | conditional (condition body : Statement) (otherwise : Option Statement)
  /-- Repeats the body as long as the condition succeeds, or until it does. -/
  | loop (untilSuccess : Bool) (condition body : Statement)
  /-- The variable takes each field of the words. -/
  | each (line : Nat) (name : Chars) (words : List (List Piece)) (body : Statement)
  | choice (line : Nat) (word : List Piece)
      (arms : List (List (List Piece) × Option Statement × ArmEnd))
  | function (line : Nat) (name : Chars) (body : Statement)
  | check (line : Nat) (check : Check)
  /-- An expression, which succeeds unless it is zero. -/
  | arithmetic (line : Nat) (expression : List Piece)
  /-- Repeats the body as long as an expression is not zero, with one before all rounds and one after each. -/
  | counted (line : Nat) (before test after : List Piece) (body : Statement)

end

/-- A word. -/
abbrev Word := List Piece

instance : Inhabited Statement := ⟨.simple 0 [] [] []⟩

/-- Whether a character may begin a name. -/
def isNameStart (c : Char) : Bool := c == '_' || c.isAlpha

/-- Whether a character may be part of a name. -/
def isNameChar (c : Char) : Bool := isNameStart c || c.isDigit

/-- Whether characters are the name of a variable. -/
def isName (cs : Chars) : Bool := cs.head?.any isNameStart && cs.all isNameChar

/-- The characters of a word that has nothing else. -/
def literal? : Word → Option Chars
  | [] => some []
  | .char c :: rest => (literal? rest).map (c :: ·)
  | _ => none

/-- The parts of a word between the places where a character stands for itself. -/
def splitWord (sign : Char) : Word → List Word
  | [] => [[]]
  | p :: rest =>
    match p, splitWord sign rest with
    | .char c, first :: more => if c = sign then [] :: first :: more else (p :: first) :: more
    | p, first :: more => (p :: first) :: more
    | p, [] => [[p]]

/-- The characters of a word without its quotes. -/
def plainText (word : Word) : Chars :=
  word.filterMap fun p => match p with
    | .char c => some c
    | .escaped c => some c
    | _ => none

/-- The name of a variable that a word sets, and the word for the value. -/
def assignment? (word : Word) : Option (Chars × Word) :=
  go [] word
where
  /-- The same after the characters of the name so far, the last one first. -/
  go (name : Chars) : Word → Option (Chars × Word)
    | .char '=' :: rest => if isName name.reverse then some (name.reverse, rest) else none
    | .char c :: rest => go (c :: name) rest
    | _ => none

/-- What a word sets in the richer shell: a variable, or what stands at a place in it. -/
structure Assignment where
  name : Chars
  subscript : Word
  /-- Whether the value goes behind the one that is there. -/
  appends : Bool
  value : Word

/-- The pieces up to the bracket that closes a subscript, and what follows. -/
def subscriptIn : (depth : Nat) → Word → Option (Word × Word)
  | _, [] => none
  | depth, p :: rest =>
    let on (depth : Nat) := (subscriptIn depth rest).map fun (inside, after) => (p :: inside, after)
    match p with
    | .char ']' => if depth = 0 then some ([], rest) else on (depth - 1)
    | .char '[' => on (depth + 1)
    | _ => on depth

/-- What a word sets in the richer shell, if it sets something. -/
def richAssignment? (word : Word) : Option Assignment :=
  let name := (word.takeWhile fun p => match p with
    | .char c => isNameChar c
    | _ => false)
  let after := word.drop name.length
  let text := plainText name
  let (subscript, after) := match after with
    | .char '[' :: inside => (subscriptIn 0 inside).getD ([], [])
    | after => ([], after)
  if !isName text then none
  else
    match after with
    | .char '=' :: value => some ⟨text, subscript, false, value⟩
    | .char '+' :: .char '=' :: value => some ⟨text, subscript, true, value⟩
    | _ => none

end ConsumerCheck.Shell
