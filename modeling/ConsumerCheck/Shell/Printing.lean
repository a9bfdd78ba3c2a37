import ConsumerCheck.Shell.Builtin.Quoting
import ConsumerCheck.Shell.Floating

/-!
# Output of the shell's own commands

* `Printing.unescape` — the escapes of a text;
* `Printing.echo` — arguments on a line;
* `Printing.formatted` — arguments in the places of a format, with complaints about those that do not fit.
-/

namespace ConsumerCheck.Shell.Printing

/-- A text with its escapes replaced. The second part says that the text asks for the end of all output.
`needed` says that octal numbers must begin with a zero. -/
def unescape (reader : Escape.Reader) (needed : Bool) : Nat → Chars → Chars × Bool
  | 0, cs => (cs, false)
  | _, [] => ([], false)
  | fuel + 1, '\\' :: c :: rest =>
    if c = 'c' then ([], true)
    else
      let (here, rest) := (Escape.one? reader true needed c rest).getD (['\\'], c :: rest)
      let (tail, ends) := unescape reader needed fuel rest
      (here ++ tail, ends)
  | fuel + 1, c :: rest =>
    let (tail, ends) := unescape reader needed fuel rest
    (c :: tail, ends)

/-- The output of `echo`. -/
def echo (arguments : List Chars) : Chars :=
  let (bare, arguments) := match arguments with
    | ['-', 'n'] :: rest => (true, rest)
    | all => (false, all)
  let text := [' '].intercalate arguments
  let (text, ends) := unescape .plain false (text.length + 1) text
  if bare || ends then text else text ++ ['\n']

/-- The output of an `echo` that has options, which only count in front of the words. -/
def echoWithOptions (reader : Escape.Reader) (arguments : List Chars) : Chars :=
  let (options, rest) := arguments.span fun a =>
    match a with
    | '-' :: c :: cs => (c :: cs).all fun c => "neE".toList.contains c
    | _ => false
  let letters := options.flatMap (·.drop 1)
  let escapes := letters.reverse.find? (· != 'n') == some 'e'
  let text := [' '].intercalate rest
  let (text, ends) :=
    if escapes then unescape reader (reader == .rich) (text.length + 1) text else (text, false)
  if ends || letters.contains 'n' then text else text ++ ['\n']

/-- Why an argument does not fit into its place. -/
inductive Misfit where
  | notNumber (argument : Chars)
  /-- A number, and more after it. -/
  | partly (argument : Chars)
  | outside (argument : Chars)
  | directive (text : Chars) (kind : Char)
  | noDirective (text : Chars)
  /-- An escape that lacks its digits. -/
  | noDigits
  deriving DecidableEq, Repr

/-- The words for a misfit. -/
def Misfit.message (reader : Escape.Reader) (misfit : Misfit) : Chars :=
  let quoted (text : Chars) : Chars := '\'' :: text ++ ['\'']
  match misfit, reader with
  | notNumber a, .plain => a ++ chars ": expected numeric value"
  | notNumber a, .tool => quoted a ++ chars ": expected a numeric value"
  | notNumber a, .rich | partly a, .rich => a ++ chars ": invalid number"
  | partly a, .plain => a ++ chars ": not completely converted"
  | partly a, .tool => quoted a ++ chars ": value not completely converted"
  | outside a, .plain => a ++ chars ": Numerical result out of range"
  | outside a, .tool => quoted a ++ chars ": Numerical result out of range"
  | outside a, .rich => chars "warning: " ++ a ++ chars ": Numerical result out of range"
  | directive text _, .plain => text ++ chars ": invalid directive"
  | directive text _, .tool => text ++ chars ": invalid conversion specification"
  | directive _ kind, .rich => '\x60' :: kind :: chars "': invalid format character"
  | noDirective _, .plain => chars "missing format character"
  | noDirective text, .tool => text ++ chars ": invalid conversion specification"
  | noDirective text, .rich => '\x60' :: text ++ chars "': missing format character"
  | noDigits, .tool => chars "missing hexadecimal number in escape"
  | noDigits, _ => chars "missing hex digit for \\x"

/-- A text filled up to a width. -/
def padded (left : Bool) (fill : Char) (width : Nat) (cs : Chars) : Chars :=
  let more := List.replicate (width - cs.length) (if left then ' ' else fill)
  if left then cs ++ more else more ++ cs

/-- What a command prints, and what it complains about. -/
structure Printed where
  text : Chars
  complaints : List Misfit
  /-- Whether nothing more is printed. -/
  stopped : Bool
  /-- Whether that is so because the format has a fault. -/
  broken : Bool
  deriving Repr

namespace Printed

/-- Nothing at all. -/
def nothing : Printed := ⟨[], [], false, false⟩

/-- A text without complaints. -/
def ofText (text : Chars) : Printed := ⟨text, [], false, false⟩

/-- Nothing more, because of a fault. -/
def ofFault (complaints : List Misfit) : Printed := ⟨[], complaints, true, true⟩

/-- One output after the other, unless the first is the last. -/
def followedBy (first second : Printed) : Printed :=
  if first.stopped then first
  else
    { second with
      text := first.text ++ second.text
      complaints := first.complaints ++ second.complaints }

end Printed

/-- The number of an argument within bounds, with a complaint if the argument is not wholly one. A number below
them counts as `least`. -/
def numberOf (lower upper least : Int) (argument : Chars) : Int × List Misfit :=
  match argument with
  | [] => (0, [])
  | c :: rest =>
    if c = '\'' ∨ c = '"' then ((rest.headD '\x00').toNat, [])
    else
      match Number.leading true argument with
      | (none, _) => (0, [.notNumber argument])
      | (some n, after) =>
        let complaints :=
          if after ≠ [] then [.partly argument]
          else if n < lower ∨ upper < n then [.outside argument]
          else []
        (if n < lower then least else min upper n, complaints)

/-- The number with a fraction of an argument, with a complaint if the argument is not wholly one. -/
def floatingOf (argument : Chars) : Floating × List Misfit :=
  match argument with
  | [] => (.finite false 0 0, [])
  | c :: rest =>
    if c = '\'' ∨ c = '"' then (.finite false (rest.headD '\x00').toNat 0, [])
    else
      match Floating.leading argument with
      | (none, _) => (.finite false 0 0, [.notNumber argument])
      | (some (n, outside), after) =>
        (n,
          if after ≠ [] then [.partly argument]
          else if outside then [.outside argument]
          else [])

/-- The greatest number of 64 bits without a sign. -/
def greatestWord : Int := 18446744073709551615

/-- A number as a word of 64 bits. -/
def wordOf (n : Int) : Nat := (if n < 0 then n + greatestWord + 1 else n).toNat

/-- A place in a format. -/
structure Conversion where
  flags : Chars
  width : Nat
  precision : Option Nat
  kind : Char

namespace Conversion

/-- The digits of a number, at least as many as the precision says. -/
def digits (v : Conversion) (base n : Nat) : Chars :=
  let ds := if n = 0 ∧ v.precision = some 0 then [] else Nat.toDigits base n
  List.replicate (v.precision.getD 0 - ds.length) '0' ++ ds

/-- A number with what stands before its digits, filled up to the width. -/
def number (v : Conversion) (before digits : Chars) : Chars :=
  let left := v.flags.contains '-'
  if !left && v.flags.contains '0' && v.precision.isNone then
    before ++ padded false '0' (v.width - before.length) digits
  else padded left ' ' v.width (before ++ digits)

/-- A text, filled up to the width. -/
def text (v : Conversion) (cs : Chars) : Chars := padded (v.flags.contains '-') ' ' v.width cs

/-- The mark of the base before a number, if the format asks for one. -/
def marked (v : Conversion) (mark : String) (n : Nat) : Chars :=
  if v.flags.contains '#' ∧ n ≠ 0 then mark.toList else []

/-- The sign before a number. -/
def sign (v : Conversion) (negative : Bool) : Chars :=
  if negative then ['-']
  else if v.flags.contains '+' then ['+']
  else if v.flags.contains ' ' then [' ']
  else []

/-- A number with a fraction, filled up to the width. The kind is a small letter. -/
def floating (v : Conversion) (kind : Char) (n : Floating) : Chars :=
  let sign := v.sign n.isNegative
  let pointed := v.flags.contains '#'
  let precision := v.precision.getD 6
  match n with
  | .infinite _ => v.text (sign ++ chars "inf")
  | .undefined _ => v.text (sign ++ chars "nan")
  | .finite _ mantissa exponent =>
    let (n, d) := scaledQuotient mantissa 1 2 exponent
    let body := match kind with
      | 'f' => Floating.fixed pointed precision n d
      | 'e' => Floating.scientific pointed precision n d
      | 'g' => Floating.general pointed precision n d
      | _ => Floating.hexadecimal pointed v.precision mantissa exponent
    { v with precision := none }.number sign body

/-- An argument in the place. -/
def filled? (reader : Escape.Reader) (v : Conversion) (argument : Option Chars) : Option Printed :=
  let given := argument.getD []
  let word := numberOf (-greatestWord) greatestWord greatestWord given
  let n := wordOf word.1
  match v.kind with
  | 's' => some (.ofText (v.text (given.take (v.precision.getD given.length))))
  | 'b' =>
    let (cs, ends) := unescape reader false (given.length + 1) given
    some ⟨v.text (cs.take (v.precision.getD cs.length)), [], ends, false⟩
  | 'c' => some (.ofText (v.text [given.headD '\x00']))
  | 'q' | 'Q' =>
    if reader = .rich then some (.ofText (v.text (Builtin.barelyQuoted given))) else none
  | 'd' | 'i' =>
    let (n, complaints) := numberOf Number.least Number.greatest Number.least given
    some ⟨v.number (v.sign (n < 0)) (v.digits 10 n.natAbs), complaints, false, false⟩
  | 'u' => some ⟨v.number [] (v.digits 10 n), word.2, false, false⟩
  | 'o' =>
    let ds := v.digits 8 n
    let mark := if v.flags.contains '#' ∧ ds.head? ≠ some '0' then ['0'] else []
    some ⟨v.number [] (mark ++ ds), word.2, false, false⟩
  | 'x' => some ⟨v.number (v.marked "0x" n) (v.digits 16 n), word.2, false, false⟩
  | 'X' => some ⟨v.number (v.marked "0X" n) ((v.digits 16 n).map Char.toUpper), word.2, false, false⟩
  | kind =>
    if "aefgAEFG".toList.contains kind then
      let (n, complaints) := floatingOf given
      let text := v.floating kind.toLower n
      some ⟨if kind.isUpper then text.map Char.toUpper else text, complaints, false, false⟩
    else none

end Conversion

/-- The greatest width or precision of a place. -/
def maxWidth : Nat := 10000000

/-- A number in a format: digits, or a star, which takes an argument and keeps 32 bits of it. -/
def measure (cs : Chars) (arguments : List Chars) :
    Option Int × Chars × List Chars × List Misfit :=
  match cs with
  | '*' :: rest =>
    let (n, complaints) := numberOf Number.least Number.greatest Number.least (arguments.headD [])
    (some (n.bmod 4294967296), rest, arguments.tail, complaints)
  | cs =>
    let digits := cs.takeWhile Char.isDigit
    let n := if digits = [] then none else some (Text.numeral 10 digits : Int)
    (n, cs.drop digits.length, arguments, [])

/-- The characters that an escape in a format stands for, and what follows; or the fault. -/
def formatEscape (reader : Escape.Reader) (c : Char) (rest : Chars) : Except Misfit (Chars × Chars) :=
  let bare := match reader with
    | .plain => false
    | .rich => "'\"?".toList.contains c
    | .tool => c == '"'
  if bare then .ok ([c], rest)
  else
    match Escape.one? reader false false c rest with
    | some found => .ok found
    | none =>
      if reader = .tool ∧ "xuU".toList.contains c then .error .noDigits
      else .ok (['\\'], c :: rest)

/-- One pass over a format: what is printed, the arguments that are left, and whether the format has a
place for any. -/
def formatOnce (reader : Escape.Reader) : Nat → Chars → List Chars → Printed × List Chars × Bool
  | 0, _, arguments => (.nothing, arguments, false)
  | _, [], arguments => (.nothing, arguments, false)
  | fuel + 1, '\\' :: c :: rest, arguments =>
    match formatEscape reader c rest with
    | .error misfit => (.ofFault [misfit], arguments, false)
    | .ok (here, rest) =>
      let (more, left, used) := formatOnce reader fuel rest arguments
      (Printed.followedBy (.ofText here) more, left, used)
  | fuel + 1, '%' :: '%' :: rest, arguments =>
    let (more, left, used) := formatOnce reader fuel rest arguments
    (Printed.followedBy (.ofText ['%']) more, left, used)
  | fuel + 1, '%' :: whole, arguments =>
    let flags := whole.takeWhile fun c => "#-+ 0".toList.contains c
    let (width, rest, arguments, first) := measure (whole.drop flags.length) arguments
    let (precision, rest, arguments, second) := match rest with
      | '.' :: rest =>
        let (n, rest, arguments, complaints) := measure rest arguments
        (some (n.getD 0), rest, arguments, complaints)
      | rest => (none, rest, arguments, [])
    let flags := if width.any (· < 0) then '-' :: flags else flags
    let precision := precision.bind fun n => if n < 0 then none else some n.toNat
    match rest with
    | [] => (.ofFault (first ++ second ++ [.noDirective ('%' :: whole)]), arguments, false)
    | kind :: rest =>
      let v : Conversion := ⟨flags, min maxWidth (width.getD 0).natAbs, precision.map (min maxWidth), kind⟩
      match v.filled? reader arguments.head? with
      | none =>
        let complaint := Misfit.directive ('%' :: whole.take (whole.length - rest.length)) kind
        (.ofFault (first ++ second ++ [complaint]), arguments, false)
      | some here =>
        let here := { here with complaints := first ++ second ++ here.complaints }
        let (more, left, _) := formatOnce reader fuel rest arguments.tail
        (here.followedBy more, left, true)
  | fuel + 1, c :: rest, arguments =>
    let (more, left, used) := formatOnce reader fuel rest arguments
    (Printed.followedBy (.ofText [c]) more, left, used)

/-- Passes over a format until no argument is left. -/
def formatAll (reader : Escape.Reader) (format : Chars) : Nat → List Chars → Printed × List Chars
  | 0, arguments => (.nothing, arguments)
  | fuel + 1, arguments =>
    let (here, left, used) := formatOnce reader (format.length + 1) format arguments
    if used ∧ left ≠ [] then
      let (more, left) := formatAll reader format fuel left
      (here.followedBy more, left)
    else (here, left)

/-- The arguments in the places of a format. The format is used again as long as arguments are left and it has
a place for any; the second part is what is left then. -/
def formatted (reader : Escape.Reader) (format : Chars) (arguments : List Chars) : Printed × List Chars :=
  formatAll reader format (arguments.length + 1) arguments

end ConsumerCheck.Shell.Printing
