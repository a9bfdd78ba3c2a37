/-!
# Digits

* `digit?` — the value of a digit, up to that of hexadecimal numbers;
* `isDigitOf` — the digits of a base;
* `numeral` — the number that digits stand for, the first one counting most.
-/

namespace ConsumerCheck.Text

/-- The value of a digit, where letters of either case go on after the nine. -/
def digit? (c : Char) : Option Nat :=
  if '0' ≤ c ∧ c ≤ '9' then some (c.toNat - 0x30)
  else if 'a' ≤ c ∧ c ≤ 'f' then some (c.toNat - 0x57)
  else if 'A' ≤ c ∧ c ≤ 'F' then some (c.toNat - 0x37)
  else none

/-- Whether a character is a digit of a base, which is at most 16. -/
def isDigitOf (base : Nat) (c : Char) : Bool := (digit? c).any (· < base)

/-- The number that digits stand for. -/
def numeral (base : Nat) (digits : List Char) : Nat :=
  digits.foldl (fun n c => n * base + (digit? c).getD 0) 0

end ConsumerCheck.Text
