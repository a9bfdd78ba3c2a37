import ConsumerCheck.Shell.Syntax
import ConsumerCheck.Text.Digits

/-!
# Words with alternatives

In the richer shell a word such as `a{b,c}` stands for several, one for each alternative, and `{1..3}` for the
numbers of a row. What is quoted does not count.

* `Braces.alternatives?` — the first alternatives in a word, with what stands before and after them;
* `braceWords` — the words that a word stands for.
-/

namespace ConsumerCheck.Shell

namespace Braces

/-- The pieces up to the brace that closes the one before them, cut at the commas between them, and what
follows. -/
def upToClose : (depth : Nat) → (quoted : Bool) → (current : Word) → (done : List Word) → Word →
    Option (List Word × Word)
  | _, _, _, _, [] => none
  | depth, quoted, current, done, p :: rest =>
    match p, quoted with
    | .quotes, _ => upToClose depth (!quoted) (p :: current) done rest
    | .char '\x7b', false => upToClose (depth + 1) quoted (p :: current) done rest
    | .char '\x7d', false =>
      if depth = 0 then some ((current.reverse :: done).reverse, rest)
      else upToClose (depth - 1) quoted (p :: current) done rest
    | .char ',', false =>
      if depth = 0 then upToClose depth quoted [] (current.reverse :: done) rest
      else upToClose depth quoted (p :: current) done rest
    | p, _ => upToClose depth quoted (p :: current) done rest

/-- The parts of a text between pairs of dots. -/
def splitDots : Chars → List Chars
  | [] => [[]]
  | '.' :: '.' :: rest => [] :: splitDots rest
  | c :: rest =>
    match splitDots rest with
    | first :: more => (c :: first) :: more
    | [] => [[c]]

/-- The whole number that a text is. -/
def integer? (text : Chars) : Option Int :=
  let (negative, digits) := match text with
    | '-' :: digits => (true, digits)
    | '+' :: digits => (false, digits)
    | digits => (false, digits)
  if digits = [] ∨ !digits.all Char.isDigit then none
  else
    let n : Int := Text.numeral 10 digits
    some (if negative then -n else n)

/-- The numbers from one to another. -/
def row (first last : Int) (step : Nat) : List Int :=
  let step := max 1 step
  (List.range ((last - first).natAbs / step + 1)).map fun (k : Nat) =>
    if first ≤ last then first + (k * step : Nat) else first - (k * step : Nat)

/-- A number in digits, filled up with zeros. -/
def digitsOf (width : Nat) (n : Int) : Chars :=
  let digits := Nat.toDigits 10 n.natAbs
  let sign := if n < 0 then ['-'] else []
  sign ++ List.replicate (width - digits.length - sign.length) '0' ++ digits

/-- Whether digits begin with a zero that says how wide the numbers are. -/
def isFilled (text : Chars) : Bool :=
  match text.dropWhile (· == '-') with
  | '0' :: _ :: _ => true
  | _ => false

/-- The texts of a row such as `1..3` or `a..c`. -/
def rowOf? (text : Chars) : Option (List Chars) :=
  match splitDots text with
  | first :: last :: more =>
    let step := match more with
      | [] => some 1
      | [step] => (integer? step).map Int.natAbs
      | _ => none
    match step, integer? first, integer? last, first, last with
    | some step, some m, some n, first, last =>
      let width := if isFilled first || isFilled last then max first.length last.length else 0
      some ((row m n step).map (digitsOf width))
    | some step, none, none, [a], [b] =>
      if a.isAlpha ∧ b.isAlpha then
        some ((row a.toNat b.toNat step).map fun n => [Char.ofNat n.toNat])
      else none
    | _, _, _, _, _ => none
  | _ => none

/-- The first alternatives in a word, with what stands before and after them. A word that is passed over stands in
`before`, its last piece first. -/
def alternatives? : (quoted : Bool) → (before : Word) → Word → Option (Word × List Word × Word)
  | _, _, [] => none
  | quoted, before, p :: rest =>
    let on (quoted : Bool) := alternatives? quoted (p :: before) rest
    match p, quoted with
    | .quotes, _ => on (!quoted)
    | .char '\x7b', false =>
      match upToClose 0 false [] [] rest with
      | some ([single], after) =>
        match (literal? single).bind rowOf? with
        | some texts => some (before.reverse, texts.map fun text => text.map .char, after)
        | none => on quoted
      | some (several, after) => some (before.reverse, several, after)
      | none => on quoted
    | _, _ => on quoted

/-- The words that a word stands for, of which so many may arise. -/
def expand : Nat → Word → List Word
  | 0, word => [word]
  | n + 1, word =>
    match alternatives? false [] word with
    | none => [word]
    | some (before, alternatives, after) =>
      alternatives.flatMap fun middle => expand n (before ++ middle ++ after)

end Braces

/-- The words that a word stands for. -/
def braceWords (word : Word) : List Word := Braces.expand (word.length + 1) word

end ConsumerCheck.Shell
