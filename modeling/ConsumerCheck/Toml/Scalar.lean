import ConsumerCheck.Text.Digits
import ConsumerCheck.Toml.Value

/-!
# Keys, texts, numbers and times of TOML

The scalars of `toml`. Each reader takes what it can from the beginning and answers with the rest, or with
nothing if what stands there is malformed.

* `readKey` — a key, with the dots in it;
* `readString` — a text in one of its four forms;
* `readNumber` — a date, a time, a floating-point number or an integer.
-/

namespace ConsumerCheck.Toml

/-- A blank inside a line. -/
def isSpace (c : Char) : Bool := c == ' ' || c == '\t'

/-- The rest after blanks. -/
def skipSpaces (cs : List Char) : List Char := cs.dropWhile isSpace

/-- The rest after the end of a line. -/
def newline? : List Char → Option (List Char)
  | '\n' :: rest => some rest
  | '\r' :: '\n' :: rest => some rest
  | _ => none

/-- A character that a comment may hold: no control character except the tabulator. -/
def isCommentChar (c : Char) : Bool := c == '\t' || (0x20 ≤ c.toNat && c.toNat != 0x7F)

/-- A character that stands for itself between double quotes. -/
def isBasicChar (c : Char) : Bool := isCommentChar c && c != '"' && c != '\\'

/-- A character that stands between single quotes. -/
def isLiteralChar (c : Char) : Bool := isCommentChar c && c != '\''

/-- The rest after a comment, if one stands here. -/
def skipComment : List Char → List Char
  | '#' :: rest => rest.dropWhile isCommentChar
  | cs => cs

/-! ## Texts -/

/-- The character whose number is written in so many hexadecimal digits. -/
def hexChar? (count : Nat) (cs : List Char) : Option Char :=
  let digits := cs.take count
  if digits.length = count ∧ digits.all (Text.isDigitOf 16) then
    let n := Text.numeral 16 digits
    if n.isValidChar then some (Char.ofNat n) else none
  else none

/-- The character that an escape stands for, and the length of the escape without its backslash. -/
def escape? : List Char → Option (Char × Nat)
  | 'b' :: _ => some ('\x08', 1)
  | 'f' :: _ => some ('\x0c', 1)
  | 'n' :: _ => some ('\n', 1)
  | 'r' :: _ => some ('\r', 1)
  | 't' :: _ => some ('\t', 1)
  | '\\' :: _ => some ('\\', 1)
  | '"' :: _ => some ('"', 1)
  | 'u' :: rest => (hexChar? 4 rest).map (·, 5)
  | 'U' :: rest => (hexChar? 8 rest).map (·, 9)
  | _ => none

/-- A text in double quotes, after the opening ones. -/
def basicString (cs : List Char) : Option (List Char × List Char) :=
  match cs with
  | '"' :: rest => some ([], rest)
  | '\\' :: rest =>
    match escape? rest with
    | some (c, n) => (basicString (rest.drop n)).map fun (text, r) => (c :: text, r)
    | none => none
  | c :: rest =>
    if isBasicChar c then (basicString rest).map fun (text, r) => (c :: text, r) else none
  | [] => none
termination_by cs.length

/-- A text in single quotes, after the opening ones. -/
def literalString : List Char → Option (List Char × List Char)
  | '\'' :: rest => some ([], rest)
  | c :: rest =>
    if isLiteralChar c then (literalString rest).map fun (text, r) => (c :: text, r) else none
  | [] => none

/-- The quotes at the beginning that belong to the text, and the rest after the three that close it; none
if the text goes on. -/
def closing? (quote : Char) (cs : List Char) : Option (List Char × List Char) :=
  let run := (cs.takeWhile (· == quote)).length
  if run < 3 then none
  else
    let inside := min (run - 3) 2
    some (List.replicate inside quote, cs.drop (inside + 3))

/-- Where a text goes on after a backslash at the end of a line: after all blanks and line ends. -/
def afterContinuation? (cs : List Char) : Option (List Char) :=
  match newline? (skipSpaces cs) with
  | none => none
  | some rest => some (skipBlank rest)
where
  /-- The rest after blanks and line ends. -/
  skipBlank : List Char → List Char
    | ' ' :: rest => skipBlank rest
    | '\t' :: rest => skipBlank rest
    | '\n' :: rest => skipBlank rest
    | '\r' :: '\n' :: rest => skipBlank rest
    | cs => cs

theorem length_skipSpaces_le (cs : List Char) : (skipSpaces cs).length ≤ cs.length :=
  (List.dropWhile_sublist _).length_le

theorem length_newline?_lt {cs rest : List Char} (h : newline? cs = some rest) :
    rest.length < cs.length := by
  unfold newline? at h
  split at h
  · simp_all
  · simp only [Option.some.injEq] at h
    subst h
    simp only [List.length_cons]
    omega
  · simp at h

theorem length_skipBlank_le (cs : List Char) :
    (afterContinuation?.skipBlank cs).length ≤ cs.length := by
  fun_induction afterContinuation?.skipBlank cs <;> simp_all <;> omega

theorem length_afterContinuation?_le {cs rest : List Char}
    (h : afterContinuation? cs = some rest) : rest.length ≤ cs.length := by
  unfold afterContinuation? at h
  split at h
  · simp at h
  · rename_i r hr
    have h1 := length_newline?_lt hr
    have h2 := length_skipSpaces_le cs
    have h3 := length_skipBlank_le r
    simp only [Option.some.injEq] at h
    subst h
    omega

/-- A text in three double quotes, after the opening ones. -/
def longBasicString (cs : List Char) : Option (List Char × List Char) :=
  match cs with
  | [] => none
  | '"' :: rest =>
    match closing? '"' ('"' :: rest) with
    | some closed => some closed
    | none => (longBasicString rest).map fun (text, r) => ('"' :: text, r)
  | '\\' :: rest =>
    match h : afterContinuation? rest with
    | some rest' =>
      have := length_afterContinuation?_le h
      longBasicString rest'
    | none =>
      match escape? rest with
      | some (c, n) => (longBasicString (rest.drop n)).map fun (text, r) => (c :: text, r)
      | none => none
  | '\n' :: rest => (longBasicString rest).map fun (text, r) => ('\n' :: text, r)
  | '\r' :: '\n' :: rest => (longBasicString rest).map fun (text, r) => ('\n' :: text, r)
  | c :: rest =>
    if isBasicChar c then (longBasicString rest).map fun (text, r) => (c :: text, r) else none
termination_by cs.length

/-- A text in three single quotes, after the opening ones. -/
def longLiteralString : List Char → Option (List Char × List Char)
  | [] => none
  | '\'' :: rest =>
    match closing? '\'' ('\'' :: rest) with
    | some closed => some closed
    | none => (longLiteralString rest).map fun (text, r) => ('\'' :: text, r)
  | '\n' :: rest => (longLiteralString rest).map fun (text, r) => ('\n' :: text, r)
  | '\r' :: '\n' :: rest => (longLiteralString rest).map fun (text, r) => ('\n' :: text, r)
  | c :: rest =>
    if isLiteralChar c then (longLiteralString rest).map fun (text, r) => (c :: text, r) else none

/-- The rest after a line end, which does not count at the beginning of a long text. -/
def skipNewline (cs : List Char) : List Char := (newline? cs).getD cs

/-- A text in one of its four forms. -/
def readString (cs : List Char) : Option (String × List Char) :=
  (match cs with
  | '"' :: '"' :: '"' :: rest => longBasicString (skipNewline rest)
  | '"' :: rest => basicString rest
  | '\'' :: '\'' :: '\'' :: rest => longLiteralString (skipNewline rest)
  | '\'' :: rest => literalString rest
  | _ => none).map fun (text, r) => (String.ofList text, r)

/-! ## Keys -/

/-- A character of a key without quotes. -/
def isBareChar (c : Char) : Bool := c.isAlphanum || c == '_' || c == '-'

/-- One part of a key. -/
def readKeyPart (cs : List Char) : Option (String × List Char) :=
  match cs with
  | '"' :: rest => (basicString rest).map fun (text, r) => (String.ofList text, r)
  | '\'' :: rest => (literalString rest).map fun (text, r) => (String.ofList text, r)
  | cs =>
    match cs.takeWhile isBareChar with
    | [] => none
    | bare => some (String.ofList bare, cs.drop bare.length)

/-- The parts of a key with the dots between them; blanks may stand around each part. -/
def readKeyParts : Nat → List Char → Option (List String × List Char)
  | 0, _ => none
  | fuel + 1, cs => do
    let (part, rest) ← readKeyPart (skipSpaces cs)
    match skipSpaces rest with
    | '.' :: rest =>
      let (parts, rest) ← readKeyParts fuel rest
      return (part :: parts, rest)
    | rest => return ([part], rest)

/-- From this depth on, keys and values are refused. -/
def depthLimit : Nat := 80

/-- A key: the parts before the last one, and the last one. -/
def readKey (cs : List Char) : Option ((List String × String) × List Char) := do
  let (parts, rest) ← readKeyParts (cs.length + 1) cs
  if depthLimit ≤ parts.length then none
  else
    let last ← parts.getLast?
    return ((parts.dropLast, last), rest)

/-! ## Dates and times -/

/-- A number of exactly so many digits. -/
def fixedDigits (count : Nat) (cs : List Char) : Option (Nat × List Char) :=
  let digits := cs.take count
  if digits.length = count ∧ digits.all Char.isDigit then
    some (Text.numeral 10 digits, cs.drop count)
  else none

/-- A number of exactly so many digits in a range. -/
def digitsIn (count low high : Nat) (cs : List Char) : Option (Nat × List Char) :=
  match fixedDigits count cs with
  | some (n, rest) => if low ≤ n ∧ n ≤ high then some (n, rest) else none
  | none => none

/-- The rest after a character. -/
def expectChar (c : Char) : List Char → Option (List Char)
  | [] => none
  | d :: rest => if d = c then some rest else none

/-- A number filled up with zeros to so many digits. -/
def padZeros (count n : Nat) : List Char :=
  let digits := Nat.toDigits 10 n
  List.replicate (count - digits.length) '0' ++ digits

/-- Whether a year has a leap day. -/
def isLeapYear (year : Nat) : Bool := year % 4 == 0 && (year % 100 != 0 || year % 400 == 0)

/-- The number of days of a month. -/
def daysOf (year month : Nat) : Nat :=
  if month = 2 then (if isLeapYear year then 29 else 28)
  else if [4, 6, 9, 11].contains month then 30
  else 31

/-- A date, in its normal form. -/
def readDate (cs : List Char) : Option (List Char × List Char) := do
  let (year, rest) ← fixedDigits 4 cs
  let rest ← expectChar '-' rest
  let (month, rest) ← digitsIn 2 1 12 rest
  let rest ← expectChar '-' rest
  let (day, rest) ← digitsIn 2 1 (daysOf year month) rest
  return (padZeros 4 year ++ '-' :: padZeros 2 month ++ '-' :: padZeros 2 day, rest)

/-- The fraction of a second, in its normal form: nine digits at most, without zeros at the end. -/
def readFraction (cs : List Char) : Option (List Char × List Char) :=
  match cs with
  | '.' :: rest =>
    match rest.takeWhile Char.isDigit with
    | [] => none
    | digits =>
      let kept := ((digits.take 9).reverse.dropWhile (· == '0')).reverse
      some (if kept = [] then [] else '.' :: kept, rest.drop digits.length)
  | cs => some ([], cs)

/-- A time, in its normal form. -/
def readTime (cs : List Char) : Option (List Char × List Char) := do
  let (hour, rest) ← digitsIn 2 0 23 cs
  let rest ← expectChar ':' rest
  let (minute, rest) ← digitsIn 2 0 59 rest
  let rest ← expectChar ':' rest
  let (second, rest) ← digitsIn 2 0 60 rest
  let (fraction, rest) ← readFraction rest
  return (padZeros 2 hour ++ ':' :: padZeros 2 minute ++ ':' :: padZeros 2 second ++ fraction,
    rest)

/-- The offset of a time, in its normal form; nothing if there is none. -/
def readOffset (cs : List Char) : Option (List Char × List Char) :=
  let signed (sign : Char) (rest : List Char) : Option (List Char × List Char) := do
    let (hour, rest) ← digitsIn 2 0 23 rest
    let rest ← expectChar ':' rest
    let (minute, rest) ← digitsIn 2 0 59 rest
    let sign := if hour = 0 ∧ minute = 0 then '+' else sign
    return (sign :: padZeros 2 hour ++ ':' :: padZeros 2 minute, rest)
  match cs with
  | 'Z' :: rest => some (['Z'], rest)
  | 'z' :: rest => some (['Z'], rest)
  | '+' :: rest => signed '+' rest
  | '-' :: rest => signed '-' rest
  | cs => some ([], cs)

/-- What follows a date: a time with or without an offset, or nothing. -/
def readTimeAfterDate (cs : List Char) : Option (List Char × List Char) :=
  match cs with
  | [] => some ([], [])
  | c :: rest =>
    if c = 'T' ∨ c = 't' ∨ c = ' ' then
      match readTime rest with
      | none => if c = ' ' then some ([], cs) else none
      | some (time, rest) =>
        (readOffset rest).map fun (offset, rest) => ('T' :: time ++ offset, rest)
    else some ([], cs)

/-- A date, a time, or both. -/
def readDateTime (cs : List Char) : Option (Value × List Char) :=
  match readDate cs with
  | some (date, rest) =>
    (readTimeAfterDate rest).map fun (time, rest) =>
      (.dateTime (String.ofList (date ++ time)), rest)
  | none => (readTime cs).map fun (time, rest) => (.dateTime (String.ofList time), rest)

/-! ## Numbers -/

/-- Digits, where an underscore may stand between two of them. Underscores are left out. -/
def readDigits (isDigit : Char → Bool) : List Char → Option (List Char × List Char)
  | [] => none
  | c :: rest =>
    if isDigit c then
      match rest with
      | '_' :: more => (readDigits isDigit more).map fun (ds, r) => (c :: ds, r)
      | d :: more =>
        if isDigit d then (readDigits isDigit (d :: more)).map fun (ds, r) => (c :: ds, r)
        else some ([c], d :: more)
      | [] => some ([c], [])
    else none

/-- A sign, if one stands here. -/
def readSign : List Char → Bool × List Char
  | '-' :: rest => (true, rest)
  | '+' :: rest => (false, rest)
  | cs => (false, cs)

/-- Decimal digits without a zero in front of others. -/
def readDecimal (cs : List Char) : Option (List Char × List Char) :=
  match cs with
  | '0' :: rest => some (['0'], rest)
  | cs => readDigits Char.isDigit cs

/-- The exponent of a floating-point number, if one stands here. -/
def readExponent (cs : List Char) : Option (Option Int × List Char) :=
  let digits (rest : List Char) : Option (Option Int × List Char) :=
    let (negative, rest) := readSign rest
    (readDigits Char.isDigit rest).map fun (ds, rest) =>
      let n : Int := Text.numeral 10 ds
      (some (if negative then -n else n), rest)
  match cs with
  | 'e' :: rest => digits rest
  | 'E' :: rest => digits rest
  | cs => some (none, cs)

/-- From this number on, a number is nearer to infinity than to the greatest double. -/
def overflowBound : Nat := Nat.pow 2 1024 - Nat.pow 2 970

/-- Whether `digits · 10 ^ exponent` is too great for a double. Few digits in front of the point settle it
without a power. -/
def overflows (digits : List Char) (exponent : Int) : Bool :=
  let significant := digits.dropWhile (· == '0')
  let size : Int := significant.length + exponent
  if significant = [] ∨ size < 300 then false
  else if 320 < size then true
  else if 0 ≤ exponent then overflowBound ≤ Text.numeral 10 significant * Nat.pow 10 exponent.toNat
  else overflowBound * Nat.pow 10 (-exponent).toNat ≤ Text.numeral 10 significant

/-- A floating-point number. -/
def readFloat (cs : List Char) : Option (Value × List Char) :=
  let (negative, unsigned) := readSign cs
  match unsigned with
  | 'i' :: 'n' :: 'f' :: rest => some (.float, rest)
  | 'n' :: 'a' :: 'n' :: rest => some (.float, rest)
  | _ => do
    let (whole, rest) ← readDecimal unsigned
    let (fraction, rest) ← match rest with
      | '.' :: rest => (readDigits Char.isDigit rest).map fun (ds, r) => (some ds, r)
      | rest => some (none, rest)
    let (exponent, rest) ← readExponent rest
    if fraction.isNone && exponent.isNone then none
    else
      let digits := whole ++ fraction.getD []
      let power := exponent.getD 0 - ((fraction.getD []).length : Int)
      if !negative && overflows digits power then none else some (.float, rest)

/-- The greatest integer. -/
def maxInteger : Nat := 9223372036854775807

/-- An integer in a base other than ten, after what says so. -/
def readBased (base : Nat) (cs : List Char) : Option (Value × List Char) :=
  match readDigits (Text.isDigitOf base) cs with
  | none => none
  | some (ds, rest) =>
    let n := Text.numeral base ds
    if n ≤ maxInteger then some (.integer n, rest) else none

/-- An integer. -/
def readInteger (cs : List Char) : Option (Value × List Char) :=
  match cs with
  | '0' :: 'x' :: rest => readBased 16 rest
  | '0' :: 'o' :: rest => readBased 8 rest
  | '0' :: 'b' :: rest => readBased 2 rest
  | cs =>
    let (negative, unsigned) := readSign cs
    match readDecimal unsigned with
    | none => none
    | some (ds, rest) =>
      let n := Text.numeral 10 ds
      if negative then (if n ≤ maxInteger + 1 then some (.integer (-n), rest) else none)
      else (if n ≤ maxInteger then some (.integer n, rest) else none)

/-- A date, a time, a floating-point number or an integer: the first of these that can be read. -/
def readNumber (cs : List Char) : Option (Value × List Char) :=
  readDateTime cs <|> readFloat cs <|> readInteger cs

end ConsumerCheck.Toml
