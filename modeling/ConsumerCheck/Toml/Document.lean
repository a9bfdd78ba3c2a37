import ConsumerCheck.Toml.Scalar

/-!
# TOML documents

`Toml.parse` reads a document as the library `toml` does. Every line holds a header, a key with a value, or
nothing, and may end with a comment. A header closes the table before it and opens another; a table may be
opened once only, and no key may be given twice.

* `readValue` — a value, which may span lines only inside an array;
* `Draft` — the tables so far, and the one that is open;
* `parse` — a document.
-/

namespace ConsumerCheck.Toml

/-! ## Values -/

/-- The rest after blanks, line ends and comments. -/
def skipLines : Nat → List Char → List Char
  | 0, cs => cs
  | fuel + 1, cs =>
    match cs with
    | ' ' :: rest => skipLines fuel rest
    | '\t' :: rest => skipLines fuel rest
    | '\n' :: rest => skipLines fuel rest
    | '\r' :: '\n' :: rest => skipLines fuel rest
    | '#' :: rest => skipLines fuel (rest.dropWhile isCommentChar)
    | cs => cs

/-- The rest after blanks, line ends and comments, however many. -/
def skipAll (cs : List Char) : List Char := skipLines (cs.length + 1) cs

mutual

/-- A value at a depth. -/
def readValue (fuel depth : Nat) (cs : List Char) : Option (Value × List Char) :=
  match fuel with
  | 0 => none
  | fuel + 1 =>
    match cs with
    | [] => none
    | c :: rest =>
      if c = '"' ∨ c = '\'' then
        (readString cs).map fun (text, rest) => (.string text, rest)
      else if c = '[' then
        if depthLimit ≤ depth + 1 then none
        else (readItems fuel (depth + 1) rest).map fun (items, rest) => (.array items, rest)
      else if c = '\x7b' then
        if depthLimit ≤ depth + 1 then none
        else
          (readMembers fuel (depth + 1) OpenTable.empty rest).map fun (t, rest) =>
            (.table (membersOf t.members), rest)
      else
        match cs with
        | 't' :: 'r' :: 'u' :: 'e' :: rest => some (.boolean true, rest)
        | 'f' :: 'a' :: 'l' :: 's' :: 'e' :: rest => some (.boolean false, rest)
        | cs => readNumber cs

/-- The items of an array, after its opening bracket or a comma. -/
def readItems (fuel depth : Nat) (cs : List Char) : Option (List Value × List Char) :=
  match fuel with
  | 0 => none
  | fuel + 1 =>
    match skipAll cs with
    | ']' :: rest => some ([], rest)
    | cs => do
      let (item, rest) ← readValue fuel depth cs
      match skipAll rest with
      | ']' :: rest => return ([item], rest)
      | ',' :: rest =>
        let (items, rest) ← readItems fuel depth rest
        return (item :: items, rest)
      | _ => none

/-- The members of a table between braces, after its opening brace. -/
def readMembers (fuel depth : Nat) (t : OpenTable) (cs : List Char) :
    Option (OpenTable × List Char) :=
  match fuel with
  | 0 => none
  | fuel + 1 =>
    match skipSpaces cs with
    | '\x7d' :: rest => some (t, rest)
    | cs => readMember fuel depth t cs

/-- A member of a table between braces, and those after it. -/
def readMember (fuel depth : Nat) (t : OpenTable) (cs : List Char) :
    Option (OpenTable × List Char) :=
  match fuel with
  | 0 => none
  | fuel + 1 => do
    let ((path, key), rest) ← readKey cs
    let rest ← expectChar '=' rest
    let (v, rest) ← readValue fuel depth (skipSpaces rest)
    let t ← t.insert path key v
    match skipSpaces rest with
    | '\x7d' :: rest => return (t, rest)
    | ',' :: rest => readMember fuel depth t rest
    | _ => none

end

/-! ## Lines -/

/-- A document while it is read. -/
structure Draft where
  /-- The tables that are closed. -/
  root : OpenTable
  /-- The table that is open. -/
  current : OpenTable
  /-- Where the open table belongs; empty before the first header. -/
  path : List String
  /-- Whether it is one of an array. -/
  isItem : Bool

namespace Draft

/-- The document before its first line. -/
def empty : Draft := ⟨.empty, .empty, [], false⟩

/-- Puts the open table where it belongs. -/
def close (d : Draft) : Option OpenTable :=
  match d.path.getLast? with
  | none => some d.current
  | some key =>
    let add (t : OpenTable) : Option (Unit × OpenTable) :=
      if d.isItem then
        match t.get? key with
        | none => some ((), t.put key (.tables d.current.members []))
        | some (.tables last before) =>
          some ((), t.put key (.tables d.current.members (last :: before)))
        | some _ => none
      else
        match t.get? key with
        | none => some ((), t.put key (.table d.current.origin d.current.members))
        | some _ => none
    (OpenTable.modifyAt false add d.path.dropLast d.root).map (·.2)

/-- Opens the table of a header. It takes over what headers of tables below it have made. -/
def openTable (d : Draft) (path : List String) (key : String) : Option Draft := do
  let root ← d.close
  let take (t : OpenTable) : Option (List (String × Node) × OpenTable) :=
    match t.get? key with
    | none => some ([], t)
    | some (.table .passed members) => some (members, t.erase key)
    | some _ => none
  let (members, root) ← OpenTable.modifyAt false take path root
  return ⟨root, ⟨.defined, members⟩, path ++ [key], false⟩

/-- Opens a new table of an array. -/
def openItem (d : Draft) (path : List String) (key : String) : Option Draft := do
  let root ← d.close
  let check (t : OpenTable) : Option (Unit × OpenTable) :=
    match t.get? key with
    | none => some ((), t)
    | some (.tables _ _) => some ((), t)
    | some _ => none
  let (_, root) ← OpenTable.modifyAt false check path root
  return ⟨root, .empty, path ++ [key], true⟩

/-- Adds a value to the open table. -/
def insert (d : Draft) (path : List String) (key : String) (v : Value) : Option Draft :=
  (d.current.insert path key v).map fun current => { d with current }

end Draft

/-- The rest after the end of a line with a header or a value: blanks, perhaps a comment, and the end of the
line or of the document. -/
def endOfLine? (cs : List Char) : Option (List Char) :=
  match skipComment (skipSpaces cs) with
  | [] => some []
  | cs => newline? cs

/-- One line that does not begin with a blank. -/
def readLine (d : Draft) (cs : List Char) : Option (Draft × List Char) :=
  match cs with
  | '[' :: '[' :: rest => do
    let ((path, key), rest) ← readKey rest
    let rest ← expectChar ']' rest
    let rest ← expectChar ']' rest
    let rest ← endOfLine? rest
    return (← d.openItem path key, rest)
  | '[' :: rest => do
    let ((path, key), rest) ← readKey rest
    let rest ← expectChar ']' rest
    let rest ← endOfLine? rest
    return (← d.openTable path key, rest)
  | '#' :: _ => (endOfLine? cs).map (d, ·)
  | '\n' :: _ => (endOfLine? cs).map (d, ·)
  | '\r' :: _ => (endOfLine? cs).map (d, ·)
  | cs => do
    let ((path, key), rest) ← readKey cs
    let rest ← expectChar '=' rest
    let (v, rest) ← readValue (4 * rest.length + 4) 0 (skipSpaces rest)
    let rest ← endOfLine? rest
    return (← d.insert path key v, rest)

/-- All lines. -/
def readLines : Nat → Draft → List Char → Option Draft
  | 0, _, _ => none
  | fuel + 1, d, cs =>
    match skipSpaces cs with
    | [] => some d
    | cs =>
      match readLine d cs with
      | some (d, rest) => readLines fuel d rest
      | none => none

/-- The members of the document's outermost table, or nothing if it is malformed. A mark of the order of
octets may stand at the beginning. -/
def parse (text : String) : Option (List (String × Value)) := do
  let cs := match text.toList with
    | '\uFEFF' :: rest => rest
    | cs => cs
  let d ← readLines (cs.length + 1) .empty cs
  let root ← d.close
  return membersOf root.members

end ConsumerCheck.Toml
