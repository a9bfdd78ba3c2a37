/-!
# Lines and pieces of a text

* `Text.splitChars` — the pieces between certain characters, always at least one;
* `Text.lines` — the lines of a text (`str::lines`): a line feed ends a line, a carriage return before it
  belongs to the end of the line, and nothing after the last line feed is no line.
-/

namespace ConsumerCheck.Text

/-- The pieces of `cs` between the characters that satisfy `p`. -/
def splitChars (p : Char → Bool) : List Char → List (List Char)
  | [] => [[]]
  | c :: cs =>
    if p c then [] :: splitChars p cs
    else
      match splitChars p cs with
      | [] => [[c]]
      | piece :: pieces => (c :: piece) :: pieces

/-- A line without the carriage return at its end, if it has one. -/
def dropCarriageReturn (line : List Char) : List Char :=
  if line.getLast? = some '\r' then line.dropLast else line

/-- The lines that remain after the pieces between line feeds are taken apart: all pieces but the
last end in a line feed, and the last is a line only if it is not empty. -/
def linesOfPieces : List (List Char) → List (List Char)
  | [] => []
  | [last] => if last.isEmpty then [] else [last]
  | line :: rest => dropCarriageReturn line :: linesOfPieces rest

/-- The lines of a text, without what ends them. -/
def lines (text : String) : List String :=
  (linesOfPieces (splitChars (· == '\n') text.toList)).map String.ofList

/-- A text with every occurrence of the character `c` written as `replacement`. -/
def replaceChar (c : Char) (replacement : String) (text : String) : String :=
  String.ofList (text.toList.flatMap fun x => if x = c then replacement.toList else [x])

end ConsumerCheck.Text
