import ConsumerCheck.Shell.Number

/-!
# Numbers with a fraction

A number with a fraction is kept with 53 binary digits. What a script writes is rounded to the nearest of them,
and what is printed is rounded from there; in both cases a half goes to the even neighbour.

* `roundedQuotient` — the nearest integer to a quotient;
* `Floating` — a number with a fraction;
* `Floating.leading` — the number that a text begins with, and what follows it;
* `Floating.fixed`, `Floating.scientific`, `Floating.general`, `Floating.hexadecimal` — the digits of a number.
-/

namespace ConsumerCheck.Shell

/-- A number with a fraction. -/
inductive Floating where
  /-- The mantissa times a power of two. -/
  | finite (negative : Bool) (mantissa : Nat) (exponent : Int)
  | infinite (negative : Bool)
  | undefined (negative : Bool)
  deriving Repr

/-- The nearest integer to a quotient. A half goes to the even neighbour. -/
def roundedQuotient (n d : Nat) : Nat :=
  let up := d < 2 * (n % d) || (2 * (n % d) == d && n / d % 2 == 1)
  n / d + if up then 1 else 0

/-- A quotient times a power of a base. -/
def scaledQuotient (n d base : Nat) (exponent : Int) : Nat × Nat :=
  if 0 ≤ exponent then (n * Nat.pow base exponent.toNat, d)
  else (n, d * Nat.pow base (-exponent).toNat)

namespace Floating

/-- The least exponent of two. -/
def leastExponent : Int := -1074

/-- The number nearest to a quotient, and whether the quotient is too great or too small for one. -/
def nearest (negative : Bool) (n d : Nat) : Floating × Bool :=
  if n = 0 then (.finite negative 0 0, false)
  else
    let low : Int := (n.log2 : Int) - d.log2 - 53
    let (a, b) := scaledQuotient n d 2 (-low)
    let exponent := max leastExponent (if Nat.pow 2 53 ≤ a / b then low + 1 else low)
    let (a, b) := scaledQuotient n d 2 (-exponent)
    let mantissa := roundedQuotient a b
    if 1024 ≤ exponent + mantissa.log2 then (.infinite negative, true)
    else (.finite negative mantissa exponent, mantissa < Nat.pow 2 52 && a % b ≠ 0)

/-- The exponent behind a letter, and what follows. Without digits there is none. -/
def exponentPart (letter : Char) (cs : Chars) : Int × Chars :=
  match cs with
  | c :: rest =>
    if c.toLower = letter then
      let (negative, after) := match rest with
        | '-' :: after => (true, after)
        | '+' :: after => (false, after)
        | after => (false, after)
      let digits := after.takeWhile Char.isDigit
      let n : Int := Text.numeral 10 digits
      if digits = [] then (0, cs) else (if negative then -n else n, after.drop digits.length)
    else (0, cs)
  | [] => (0, [])

/-- How far an exponent may be from zero before the number is too great or too small in any case. -/
def exponentBound : Int := 2000

/-- The number of digits of a base with a power of another one, where the first exponent counts the digits
behind the point. -/
def ofDigits (negative : Bool) (digits : Chars) (base power : Nat) (exponent : Int) :
    Floating × Bool :=
  let n := Text.numeral base digits
  let reach := exponent + digits.length * 4
  if n = 0 then (.finite negative 0 0, false)
  else if exponentBound < exponent then (.infinite negative, true)
  else if reach < -exponentBound then (.finite negative 0 0, true)
  else
    let (a, b) := scaledQuotient n 1 power exponent
    nearest negative a b

/-- The digits of a number before and after the point, and what follows. -/
def digitsPart (base : Nat) (cs : Chars) : Chars × Chars × Chars :=
  let whole := cs.takeWhile (Text.isDigitOf base)
  match cs.drop whole.length with
  | '.' :: after =>
    let part := after.takeWhile (Text.isDigitOf base)
    if whole = [] ∧ part = [] then ([], [], cs) else (whole, part, after.drop part.length)
  | after => (whole, [], after)

/-- Whether a text begins with a word, in small or in capital letters. -/
def beginsWith (word : String) (cs : Chars) : Bool :=
  (cs.take word.length).map Char.toLower == word.toList

/-- What follows a mark in round brackets, if there is one. -/
def afterMark (cs : Chars) : Chars :=
  match cs with
  | '(' :: rest =>
    let mark := rest.takeWhile isNameChar
    match rest.drop mark.length with
    | ')' :: after => after
    | _ => cs
  | _ => cs

/-- The number that a text without a sign begins with, whether it is too great or too small, and what
follows it. -/
def unsigned (negative : Bool) (cs : Chars) : Option (Floating × Bool) × Chars :=
  let hexadecimal : Option (Option (Floating × Bool) × Chars) :=
    match cs with
    | '0' :: x :: rest =>
      let (whole, part, after) := digitsPart 16 rest
      if (x = 'x' ∨ x = 'X') ∧ (whole ≠ [] ∨ part ≠ []) then
        let (exponent, after) := exponentPart 'p' after
        let exponent := exponent - 4 * part.length
        some (some (ofDigits negative (whole ++ part) 16 2 exponent), after)
      else none
    | _ => none
  match hexadecimal with
  | some found => found
  | none =>
    let (whole, part, after) := digitsPart 10 cs
    if whole ≠ [] ∨ part ≠ [] then
      let (exponent, after) := exponentPart 'e' after
      (some (ofDigits negative (whole ++ part) 10 10 (exponent - part.length)), after)
    else if beginsWith "infinity" cs then (some (.infinite negative, false), cs.drop 8)
    else if beginsWith "inf" cs then (some (.infinite negative, false), cs.drop 3)
    else if beginsWith "nan" cs then (some (.undefined negative, false), afterMark (cs.drop 3))
    else (none, cs)

/-- The number that a text begins with, if it begins with one, whether it is too great or too small, and what
follows it. -/
def leading (cs : Chars) : Option (Floating × Bool) × Chars :=
  let (negative, body) := match cs.dropWhile Number.isGap with
    | '-' :: rest => (true, rest)
    | '+' :: rest => (false, rest)
    | rest => (false, rest)
  match unsigned negative body with
  | (none, _) => (none, cs)
  | found => found

/-- Whether a number has the sign of negative ones. -/
def isNegative : Floating → Bool
  | finite negative .. => negative
  | infinite negative => negative
  | undefined negative => negative

/-- Digits with a point before the last ones. With `pointed` there is a point even before none. -/
def pointBefore (pointed : Bool) (places : Nat) (digits : Chars) : Chars :=
  let digits := List.replicate (places + 1 - digits.length) '0' ++ digits
  let whole := digits.take (digits.length - places)
  whole ++ if places = 0 && !pointed then [] else '.' :: digits.drop whole.length

/-- A quotient with so many places. -/
def fixed (pointed : Bool) (places n d : Nat) : Chars :=
  pointBefore pointed places (Nat.toDigits 10 (roundedQuotient (n * Nat.pow 10 places) d))

/-- The exponent of ten of a quotient. -/
def decimalExponent (n d : Nat) : Int :=
  if n = 0 then 0
  else
    let guess : Int := ((Nat.toDigits 10 n).length : Int) - (Nat.toDigits 10 d).length
    let (a, b) := scaledQuotient n d 10 (-guess)
    if b ≤ a then guess else guess - 1

/-- The first digits of a quotient as one number, and the exponent of ten of the first one. -/
def firstDigits (places n d : Nat) : Nat × Int :=
  let exponent := decimalExponent n d
  let (a, b) := scaledQuotient n d 10 (places - exponent)
  let digits := roundedQuotient a b
  if digits = Nat.pow 10 (places + 1) then (digits / 10, exponent + 1) else (digits, exponent)

/-- An exponent as it is written, with so many digits at least. -/
def exponentText (letter : Char) (least : Nat) (exponent : Int) : Chars :=
  let digits := Nat.toDigits 10 exponent.natAbs
  letter :: (if exponent < 0 then '-' else '+') ::
    List.replicate (least - digits.length) '0' ++ digits

/-- A quotient with one digit before the point. -/
def scientific (pointed : Bool) (places n d : Nat) : Chars :=
  let (digits, exponent) := firstDigits places n d
  pointBefore pointed places (Nat.toDigits 10 digits) ++ exponentText 'e' 2 exponent

/-- Digits with a point, without the zeros at the end. -/
def withoutZeros (cs : Chars) : Chars :=
  if cs.contains '.' then
    match cs.reverse.dropWhile (· == '0') with
    | '.' :: rest => rest.reverse
    | rest => rest.reverse
  else cs

/-- A quotient with so many digits, in the shorter of the two ways. With `full` zeros at the end are kept. -/
def general (full : Bool) (precision n d : Nat) : Chars :=
  let precision := max 1 precision
  let (_, exponent) := firstDigits (precision - 1) n d
  let shortened (cs : Chars) : Chars := if full then cs else withoutZeros cs
  if -4 ≤ exponent ∧ exponent < precision then
    shortened (fixed full ((precision : Int) - 1 - exponent).toNat n d)
  else
    let text := scientific full (precision - 1) n d
    let mantissa := text.takeWhile (· != 'e')
    shortened mantissa ++ text.drop mantissa.length

/-- A number in digits of base sixteen, all of them or so many after the point. -/
def hexadecimal (pointed : Bool) (places : Option Nat) (mantissa : Nat) (exponent : Int) : Chars :=
  /- The mantissa has 52 digits after its first one, except next to zero. -/
  let shift : Int := 52 - (mantissa.log2 : Int)
  let shift := if mantissa = 0 then 0 else min shift (exponent - leastExponent)
  let mantissa := if 0 ≤ shift then mantissa * Nat.pow 2 shift.toNat
    else mantissa / Nat.pow 2 (-shift).toNat
  let exponent := if mantissa = 0 then 0 else exponent - shift + 52
  let kept := min 13 (places.getD 13)
  let digits := Nat.toDigits 16 (roundedQuotient mantissa (Nat.pow 2 (52 - 4 * kept)))
  let text := match places with
    | some n => pointBefore pointed n (digits ++ List.replicate (n - kept) '0')
    | none =>
      let text := withoutZeros (pointBefore pointed kept digits)
      if pointed && !text.contains '.' then text ++ ['.'] else text
  ['0', 'x'] ++ text ++ exponentText 'p' 1 exponent

end Floating

end ConsumerCheck.Shell
