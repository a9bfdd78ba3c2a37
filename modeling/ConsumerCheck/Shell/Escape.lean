import ConsumerCheck.Shell.Syntax
import ConsumerCheck.Text.Digits

/-!
# Escapes

A backslash and what follows it may stand for another character. What may follow depends on who reads it.

* `Escape.Reader` — who reads an escape;
* `Escape.one?` — the characters that an escape stands for;
* `Escape.decode` — a text between quotes in which escapes count.
-/

namespace ConsumerCheck.Shell.Escape

/-- Who reads an escape: a shell, the richer one, or a tool of the host. -/
inductive Reader where
  | plain
  | rich
  | tool
  deriving DecidableEq, Repr

/-- The characters that letters after a backslash stand for. -/
def letters : List (Char × Char) := [
  ('a', '\x07'), ('b', '\x08'), ('e', '\x1b'), ('f', '\x0c'), ('n', '\n'), ('r', '\r'),
  ('t', '\t'), ('v', '\x0b'), ('\\', '\\')]

/-- A number at the beginning, of so many digits at most, and what follows. -/
def number (base limit : Nat) (cs : Chars) : Nat × Chars :=
  let digits := (cs.take limit).takeWhile (Text.isDigitOf base)
  (Text.numeral base digits, cs.drop digits.length)

/-- The character of a number, as far as it is written without a table of characters. -/
def character (n : Nat) : Chars :=
  if n < 128 then [Char.ofNat n]
  else
    let digits := (Nat.toDigits 16 n).map Char.toUpper
    let wide := 4 < digits.length
    let fill := List.replicate ((if wide then 8 else 4) - digits.length) '0'
    '\\' :: (if wide then 'U' else 'u') :: fill ++ digits

/-- The characters that `c` and what follows it stand for after a backslash, with the rest; nothing if the
backslash stands for itself. `zeroed` says that an octal number begins with a zero of its own, and `needed`
that it must. -/
def one? (reader : Reader) (zeroed needed : Bool) (c : Char) (rest : Chars) : Option (Chars × Chars) :=
  let digits (base limit : Nat) : Option (Nat × Chars) :=
    if rest.head?.any (Text.isDigitOf base) then some (number base limit rest) else none
  if '0' ≤ c ∧ c ≤ '7' then
    if needed ∧ c ≠ '0' then none
    else
      let (n, rest) := if zeroed ∧ c = '0' then number 8 3 rest else number 8 3 (c :: rest)
      some ([Char.ofNat (n % 256)], rest)
  else
    match letters.lookup c, reader, c with
    | some d, _, _ => some ([d], rest)
    | none, .plain, _ => none
    | none, _, 'x' => (digits 16 2).map fun (n, rest) => ([Char.ofNat n], rest)
    | none, .rich, 'E' => some (['\x1b'], rest)
    | none, _, 'u' => (digits 16 4).map fun (n, rest) => (character n, rest)
    | none, _, 'U' => (digits 16 8).map fun (n, rest) => (character n, rest)
    | none, _, _ => none

/-- A text between quotes in which escapes count, of which so many characters are looked at. -/
def decode : Nat → Chars → Chars
  | 0, cs => cs
  | _, [] => []
  | fuel + 1, '\\' :: c :: rest =>
    if "'\"?".toList.contains c then c :: decode fuel rest
    else if c = 'c' then
      match rest with
      | d :: rest => Char.ofNat (d.toUpper.toNat % 32) :: decode fuel rest
      | [] => ['\\', 'c']
    else
      match one? .rich false false c rest with
      | some (here, rest) => here ++ decode fuel rest
      | none => '\\' :: c :: decode fuel rest
  | fuel + 1, c :: rest => c :: decode fuel rest

end ConsumerCheck.Shell.Escape
