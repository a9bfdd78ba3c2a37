import ConsumerCheck.Shell.Syntax
import ConsumerCheck.Text.Digits

/-!
# Numbers in the texts of a shell

* `Number.leading` — the number that a text begins with, and what follows it;
* `Number.decimal?` — the number that a whole text stands for;
* `Number.argument?` — the same for an argument of a command.
-/

namespace ConsumerCheck.Shell.Number

/-- Whether a character may stand before or after a number. -/
def isGap (c : Char) : Bool := " \t\n\x0b\x0c\r".toList.contains c

/-- The base in which digits are written, and the digits without the sign of the base. -/
def written (cs : Chars) : Nat × Chars :=
  match cs with
  | '0' :: x :: c :: rest =>
    if (x = 'x' ∨ x = 'X') ∧ Text.isDigitOf 16 c then (16, c :: rest) else (8, cs)
  | '0' :: _ => (8, cs)
  | _ => (10, cs)

/-- The number that a text begins with, if it begins with one, and what follows it. With `marked` a number
may be hexadecimal or octal. -/
def leading (marked : Bool) (cs : Chars) : Option Int × Chars :=
  let (negative, after) := match cs.dropWhile isGap with
    | '-' :: rest => (true, rest)
    | '+' :: rest => (false, rest)
    | rest => (false, rest)
  let (base, body) := if marked then written after else (10, after)
  let digits := body.takeWhile (Text.isDigitOf base)
  if digits = [] then (none, cs)
  else
    let n : Int := Text.numeral base digits
    (some (if negative then -n else n), body.drop digits.length)

/-- The least number of 64 bits with a sign. -/
def least : Int := -9223372036854775808

/-- The greatest number of 64 bits with a sign. -/
def greatest : Int := 9223372036854775807

/-- Whether a number has 64 bits with a sign. -/
def fits (n : Int) : Bool := least ≤ n && n ≤ greatest

/-- The decimal number that a text stands for, if it is one of 64 bits. Blanks around it do not count. -/
def decimal? (cs : Chars) : Option Int :=
  match leading false cs with
  | (some n, rest) => if rest.all isGap && fits n then some n else none
  | (none, _) => none

/-- The number that an argument of a command stands for, if it is one that a command can use. -/
def argument? (cs : Chars) : Option Nat :=
  match decimal? cs with
  | some n => if 0 ≤ n ∧ n ≤ 2147483647 then some n.toNat else none
  | none => none

end ConsumerCheck.Shell.Number
