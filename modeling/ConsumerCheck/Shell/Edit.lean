import ConsumerCheck.Shell.Regex

/-!
# Scripts that edit lines

A script of the tool `sed` is a list of commands, each of which is carried out for the lines that its addresses
select.

* `Edit.Address`, `Edit.RangeEnd` — the lines that a command is for;
* `Edit.Operation` — what a command does;
* `Edit.Command` — a command with its addresses;
* `Edit.Substitution.apply` — a text in which matches have been replaced.
-/

namespace ConsumerCheck.Shell.Edit

/-- An expression as it is looked for. -/
structure Pattern where
  regex : Regex
  folded : Bool
  byLine : Bool

/-- Lines that an address selects. Without an expression the one counts that was used last. -/
inductive Address where
  | line (number : Nat)
  | every (first step : Nat)
  | last
  | matching (pattern : Option Pattern)

/-- Where a range of lines ends. -/
inductive RangeEnd where
  | at (address : Address)
  | after (lines : Nat)
  | multiple (of : Nat)

/-- Which letters a part of a replacement is written with. -/
inductive Case where
  | kept
  | small
  | capital
  deriving DecidableEq, Repr

/-- A part of a replacement. -/
inductive Piece where
  | text (text : Chars)
  /-- What a group has taken; number zero is all that has matched. -/
  | group (number : Nat)
  /-- The case of what follows. -/
  | case (case : Case)
  /-- The case of the next letter. -/
  | nextCase (case : Case)
  deriving Repr

/-- What is to be replaced, and by what. -/
structure Substitution where
  pattern : Option Pattern
  pieces : List Piece
  /-- The number of the first match that is replaced. -/
  first : Nat
  /-- Whether those after it are replaced too. -/
  all : Bool
  prints : Bool
  file : Option Chars

/-- Whether a jump depends on a replacement that was made. -/
inductive Condition where
  | always
  | replaced
  | notReplaced
  deriving DecidableEq, Repr

/-- What a command does. -/
inductive Operation where
  | nothing
  /-- Passes over the commands before a place if the line is not selected. -/
  | block (past : Nat)
  | number
  | append (text : Chars)
  | insert (text : Chars)
  | change (text : Chars)
  | delete
  | deleteFirst
  | next
  | join
  | print
  | printFirst
  | quit (shows : Bool) (status : Nat)
  | keep (adds : Bool)
  | recall (adds : Bool)
  | exchange
  | list (width : Option Nat)
  | jump (condition : Condition) (label : Chars)
  | substitute (s : Substitution)
  | translate (pairs : List (Char × Char))
  | readFile (name : Chars)
  | readLine (name : Chars)
  | writeFile (onlyFirst : Bool) (name : Chars)
  | fileName
  | clear

/-- A command with its addresses. -/
structure Command where
  first : Option Address
  second : Option RangeEnd
  /-- Whether the command is for the other lines. -/
  negated : Bool
  operation : Operation

/-- A script. -/
structure Script where
  commands : Array Command
  /-- The commands that labels stand before. -/
  labels : List (Chars × Nat)
  /-- Whether lines are shown only if that is asked for. -/
  quiet : Bool

/-- The files that a script writes. -/
def Script.outputs (s : Script) : List Chars :=
  s.commands.toList.filterMap fun command =>
    match command.operation with
    | .writeFile _ name => some name
    | .substitute s => s.file
    | _ => none

/-- A text in another case. -/
def Case.apply (case : Case) (text : Chars) : Chars :=
  match case with
  | kept => text
  | small => text.map Char.toLower
  | capital => text.map Char.toUpper

/-- A text in this case, but for its first letter if that has a case of its own. -/
def Case.applyAfter (case : Case) (once : Option Case) (text : Chars) : Chars :=
  match once, text with
  | some first, c :: cs => first.apply [c] ++ case.apply cs
  | _, text => case.apply text

/-- What takes the place of a match whose groups are given. The case of the next letter is that of the next
letter there is. -/
def replacement (group : Nat → Chars) (pieces : List Piece) : Chars :=
  (pieces.foldl (fun (case, once, done) piece =>
    let put (text : Chars) : Case × Option Case × Chars :=
      (case, if text = [] then once else none, done ++ case.applyAfter once text)
    match piece with
    | .text text => put text
    | .group number => put (group number)
    | .case case => (case, once, done)
    | .nextCase first => (case, some first, done)) (Case.kept, none, [])).2.2

namespace Substitution

/-- The text behind a place, in which matches have been replaced, and whether any has. Given are how many
matches came before, and the place where the last one ended. An empty match there does not count. -/
def applyFrom (s : Substitution) (regex : Regex) (subject : Regex.Subject) :
    Nat → (start count : Nat) → (last : Option Nat) → Chars × Bool
  | 0, start, _, _ => (subject.between start subject.text.size, false)
  | n + 1, start, count, last =>
    match regex.first? subject start with
    | none => (subject.between start subject.text.size, false)
    | some m =>
      let before := subject.between start m.start
      let matched := subject.between m.start m.finish
      let isEmpty := m.start == m.finish
      let counts := !isEmpty || last ≠ some m.start
      let count := if counts then count + 1 else count
      let replaces := counts && s.first ≤ count
      let group (number : Nat) : Chars :=
        if number = 0 then matched
        else ((m.groups.lookup number).map fun (a, b) => subject.between a b).getD []
      let put := if replaces then replacement group s.pieces else matched
      let goesOn := !replaces || s.all
      let next := if isEmpty && goesOn then m.finish + 1 else m.finish
      let passed := if isEmpty && goesOn then subject.between m.finish next else []
      let (rest, more) :=
        if !goesOn || subject.text.size < next then (subject.between next subject.text.size, false)
        else applyFrom s regex subject n next count (if isEmpty then none else some m.finish)
      (before ++ put ++ passed ++ rest, replaces || more)

/-- A text in which matches have been replaced, if there are any. -/
def replaced? (s : Substitution) (pattern : Pattern) (text : Chars) : Option Chars :=
  let subject : Regex.Subject := ⟨text.toArray, pattern.folded, pattern.byLine⟩
  let (text, replaced) := s.applyFrom pattern.regex subject (text.length + 2) 0 0 none
  if replaced then some text else none

end Substitution

end ConsumerCheck.Shell.Edit
