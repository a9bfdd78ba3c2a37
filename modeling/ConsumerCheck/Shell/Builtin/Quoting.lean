import ConsumerCheck.Shell.Escape
import ConsumerCheck.Shell.Syntax

/-!
# Texts that a shell can read again

* `Builtin.quoted` — a text between quotes;
* `Builtin.singleQuoted` — the same, as the richer shell writes it;
* `Builtin.barelyQuoted` — a text in which backslashes stand where they must;
* `Builtin.shown` — a text with quotes where they must stand.
-/

namespace ConsumerCheck.Shell.Builtin

/-- A text between quotes, so that the shell can read it again. -/
def quoted (text : Chars) : Chars :=
  '\'' :: go false text
where
  /-- The rest of a text, where double quotes are open or single ones. -/
  go (doubled : Bool) : Chars → Chars
    | [] => [if doubled then '"' else '\'']
    | c :: rest =>
      if c = '\'' then
        if doubled then c :: go true rest else '\'' :: '"' :: c :: go true rest
      else if doubled then '"' :: '\'' :: c :: go false rest
      else c :: go false rest

/-- Whether a text holds characters that are written as escapes. -/
def needsEscapes (text : Chars) : Bool := text.any fun c => c < ' ' || '\x7e' < c

/-- A text between a dollar sign with a quote and another quote, with escapes in it. -/
def escaped (text : Chars) : Chars :=
  let one (c : Char) : Chars :=
    match (Escape.letters.find? fun (_, d) => d = c), c with
    | some (letter, _), _ => ['\\', if letter = 'e' then 'E' else letter]
    | none, '\'' => ['\\', '\'']
    | none, c =>
      if c < ' ' ∨ '\x7e' < c then
        let digits := Nat.toDigits 8 c.toNat
        '\\' :: List.replicate (3 - digits.length) '0' ++ digits
      else [c]
  ['$', '\''] ++ text.flatMap one ++ ['\'']

/-- A text between single quotes. A quote in it stands outside, behind a backslash. -/
def singleQuoted (text : Chars) : Chars :=
  if needsEscapes text then escaped text
  else '\'' :: (text.flatMap fun c => if c = '\'' then ['\'', '\\', '\'', '\''] else [c]) ++ ['\'']

/-- Characters before which a backslash must stand. -/
def isBareSign (c : Char) : Bool :=
  " !\"#$&'()*,;<>?[\\]^\x7b|\x7d".toList.contains c || c == '\x60'

/-- A text in which backslashes stand where they must. -/
def barelyQuoted (text : Chars) : Chars :=
  if text = [] then ['\'', '\'']
  else if needsEscapes text then escaped text
  else
    let marked := text.flatMap fun c => if isBareSign c then ['\\', c] else [c]
    if text.head? = some '~' ∨ text.head? = some '#' then
      if marked.head? = some '\\' then marked else '\\' :: marked
    else marked

/-- Whether a text needs quotes to be read again as one word. -/
def needsQuotes (text : Chars) : Bool :=
  let sign (before : Option Char) (c : Char) : Bool :=
    " \t\n'\"\\|&;()<>!\x7b\x7d*[?]^$\x60".toList.contains c ||
      (c == '~' && (before.isNone || before == some '=' || before == some ':')) ||
      (c == '#' && before.isNone)
  (text.zip (none :: text.map some)).any fun (c, before) => sign before c

/-- A text as it is shown, with quotes where they must stand. -/
def shown (text : Chars) : Chars :=
  if needsEscapes text then escaped text else if needsQuotes text then singleQuoted text else text

/-- The same for a word, which must not vanish. -/
def shownWord (word : Chars) : Chars := if word = [] then ['\'', '\''] else shown word

end ConsumerCheck.Shell.Builtin
