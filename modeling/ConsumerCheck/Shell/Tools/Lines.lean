import ConsumerCheck.Shell.Number
import ConsumerCheck.Shell.Tools.Arguments

/-!
# Tools for lines

* `Tools.head`, `Tools.tail` — the first and the last lines;
* `Tools.count` — how much there is (`wc`);
* `Tools.sort`, `Tools.unique` — lines in order, and without repetitions (`uniq`);
* `Tools.translate`, `Tools.cut` — characters replaced (`tr`), and parts of lines;
* `Tools.tee`, `Tools.sequence`, `Tools.repeat_` — output that goes to files too, numbers (`seq`), and the same
  line without end (`yes`).
-/

namespace ConsumerCheck.Shell.Tools

/-- Arguments of which the first may be a count without the option that it belongs to. -/
def withCount (arguments : List Chars) : List Chars :=
  match arguments with
  | ('-' :: c :: cs) :: rest =>
    (if (c :: cs).all Char.isDigit then ['-', 'n'] ++ c :: cs else '-' :: c :: cs) :: rest
  | arguments => arguments

/-- The contents of files, each behind its name if there are several. -/
def eachFile (name : Chars) (operands : List Chars) (headed : Bool) (part : Chars → Chars) :
    Action Nat := do
  let operands := if operands.isEmpty then [['-']] else operands
  let mut status := 0
  let mut later := false
  for operand in operands do
    let complain (e : OsError) : Action Nat := do
      report name (chars "cannot open " ++ named operand ++ chars (" for reading: " ++ e.text))
      return 1
    match ← contents operand with
    | .ok text =>
      if headed then
        let title := if operand = ['-'] then chars "standard input" else operand
        let gap := if later then ['\n'] else []
        Action.say (gap ++ chars "==> " ++ title ++ chars " <==\n")
      later := true
      Action.say (part text)
    | .error .isDirectory =>
      if headed then
        Action.say ((if later then ['\n'] else []) ++ chars "==> " ++ operand ++ chars " <==\n")
      later := true
      report name (chars "error reading " ++ named operand ++ chars ": Is a directory")
      status := 1
    | .error e => status ← complain e
  return status

/-- What the tools for the ends of a file have in common. The part is given the sign before the count. -/
def endOf (name : Chars) (arguments : List Chars) (part : Bool → Char → Nat → List Chars → List Chars) :
    Action Nat :=
  withOptions ⟨"n:c:qv", [("lines", 'n'), ("bytes", 'c'), ("quiet", 'q'), ("verbose", 'v')]⟩ 1 name
    (withCount arguments) fun found operands => do
      let (octets, given) := match found.reverse.find? fun (c, _) => c == 'n' || c == 'c' with
        | some (c, value) => (c == 'c', value)
        | none => (false, ['1', '0'])
      let sign := given.headD ' '
      let digits := if sign = '-' || sign = '+' then given.drop 1 else given
      if digits = [] || !digits.all Char.isDigit then
        report name (chars ("invalid number of " ++ (if octets then "bytes" else "lines") ++ ": ") ++
          named given)
        return 1
      else
        let count := Text.numeral 10 digits
        let pieces (text : Chars) : List Chars := if octets then text.map ([·]) else lines text
        let headed := has found 'v' || (1 < operands.length && !has found 'q')
        eachFile name operands headed fun text => (part octets sign count (pieces text)).flatten

/-- The tool `head`. -/
def head (name : Chars) (arguments : List Chars) : Action Nat :=
  endOf name arguments fun _ sign count pieces =>
    if sign = '-' then pieces.take (pieces.length - count) else pieces.take count

/-- The tool `tail`. -/
def tail (name : Chars) (arguments : List Chars) : Action Nat :=
  endOf name arguments fun _ sign count pieces =>
    if sign = '+' then pieces.drop (count - 1) else pieces.drop (pieces.length - count)

/-- The number of words in a text. -/
def wordCount (text : Chars) : Nat :=
  (text.foldl (fun (n, inWord) c =>
    if Number.isGap c then (n, false) else (if inWord then n else n + 1, true)) (0, false)).1

/-- The tool `wc`. Numbers stand in columns that are as wide as the greatest can be. -/
def count (name : Chars) (arguments : List Chars) : Action Nat :=
  withOptions ⟨"lwcm", [("lines", 'l'), ("words", 'w'), ("bytes", 'c'), ("chars", 'm')]⟩ 1 name
    arguments fun found operands => do
      let every := found.isEmpty
      let numbers (text : Chars) : List Nat :=
        (if every || has found 'l' then [text.count '\n'] else []) ++
        (if every || has found 'w' then [wordCount text] else []) ++
        (if has found 'm' then [text.length] else []) ++
        (if every || has found 'c' then [text.length] else [])
      let s ← get
      let fromPipe := match s.channel? 0 with
        | some (.file _) => false
        | _ => true
      let inputs := if operands.isEmpty then [['-']] else operands
      let read ← inputs.mapM fun operand => do
        match ← contents operand with
        | .ok text => return some (operand, text)
        | .error e => do
          report name (operand ++ chars (": " ++ e.text))
          return if e = .isDirectory then some (operand, []) else none
      let known := read.filterMap id
      let size := (known.flatMap (·.2)).length
      let odd := inputs.any fun operand => (operand = ['-'] && fromPipe) ||
        s.files.isDirectory s.directory (Session.path operand)
      let width :=
        if inputs.length = 1 && (numbers []).length = 1 then 1
        else max (toString size).length (if odd then 7 else 1)
      let line (ns : List Nat) (title : Chars) : Chars :=
        let columns := ns.map fun n =>
          let text := chars (toString n)
          List.replicate (width - text.length) ' ' ++ text
        [' '].intercalate columns ++ (if title = [] then [] else ' ' :: title) ++ ['\n']
      known.forM fun (operand, text) =>
        Action.say (line (numbers text) (if operands.isEmpty then [] else operand))
      if 1 < inputs.length then
        let sums := known.foldl (fun sums (_, text) => List.zipWith (· + ·) sums (numbers text))
          ((numbers []).map fun _ => 0)
        Action.say (line sums (chars "total"))
      return if read.all (·.isSome) && !(inputs.any fun operand =>
        s.files.isDirectory s.directory (Session.path operand)) then 0 else 1

/-- Lines without their ends. -/
def bareLines (text : Chars) : List Chars :=
  (lines text).map (withoutSign '\n')

/-- The number at the start of a line, with its fraction scaled up. -/
def numberAt (line : Chars) : Int :=
  let body := line.dropWhile fun c => c == ' ' || c == '\t'
  let (negative, digits) := match body with
    | '-' :: rest => (true, rest)
    | rest => (false, rest)
  let whole := digits.takeWhile Char.isDigit
  let part := match digits.drop whole.length with
    | '.' :: rest => rest.takeWhile Char.isDigit
    | _ => []
  let places := 20
  let scaled : Int := Text.numeral 10
    (whole ++ part.take places ++ List.replicate (places - part.length) '0')
  if negative then -scaled else scaled

/-- The tool `sort`. -/
def sort (name : Chars) (arguments : List Chars) : Action Nat :=
  withOptions ⟨"nrufbs", [("numeric-sort", 'n'), ("reverse", 'r'), ("unique", 'u'),
    ("ignore-case", 'f'), ("stable", 's')]⟩ 2 name arguments fun found operands => do
      let read ← (if operands.isEmpty then [['-']] else operands).mapM fun operand => do
        match ← contents operand with
        | .ok text => return some (bareLines text)
        | .error e => do
          let what := if e = .isDirectory then "read failed: " else "cannot read: "
          report name (chars what ++ operand ++ chars (": " ++ e.text))
          return none
      if !read.all (·.isSome) then return 2
      else
        let key (line : Chars) : Chars :=
          let line := if has found 'b' then line.dropWhile (fun c => c == ' ' || c == '\t') else line
          if has found 'f' then line.map Char.toUpper else line
        let less (a b : Chars) : Bool :=
          if has found 'n' then decide (numberAt a < numberAt b) else precedes (key a) (key b)
        let compared (a b : Chars) : Ordering :=
          let byKey : Ordering := if less a b then .lt else if less b a then .gt else .eq
          if has found 'r' then byKey.swap else byKey
        let whole (a b : Chars) : Bool := if has found 'r' then !precedes a b else !precedes b a
        let before (a b : Chars) : Bool :=
          match compared a b with
          | .lt => true
          | .gt => false
          | .eq => has found 'u' || has found 's' || whole a b
        let sorted := ((read.filterMap id).flatten).mergeSort before
        let kept := if has found 'u' then
            sorted.foldr (fun line kept =>
              match kept with
              | next :: more => if compared line next = .eq then line :: more else line :: kept
              | [] => [line]) []
          else sorted
        Action.say (kept.flatMap (· ++ ['\n']))
        return 0

/-- Lines that are the same one after the other, each once with how often it stands there. -/
def runs : List Chars → List (Chars × Nat)
  | [] => []
  | line :: rest =>
    match runs rest with
    | (next, n) :: more => if next = line then (line, n + 1) :: more else (line, 1) :: (next, n) :: more
    | [] => [(line, 1)]

/-- The tool `uniq`. -/
def unique (name : Chars) (arguments : List Chars) : Action Nat :=
  withOptions ⟨"cdu", [("count", 'c'), ("repeated", 'd'), ("unique", 'u')]⟩ 1 name arguments
    fun found operands => do
      match ← contents (operands.headD ['-']) with
      | .error e => do
        report name (operands.headD [] ++ chars (": " ++ e.text))
        return 1
      | .ok text => do
        let kept := (runs (bareLines text)).filter fun (_, n) =>
          if has found 'd' then decide (1 < n) && !has found 'u'
          else if has found 'u' then n == 1 else true
        let shown := kept.flatMap fun (line, n) =>
          let number := chars (toString n)
          let counted := if has found 'c' then
              List.replicate (7 - number.length) ' ' ++ number ++ [' '] else []
          counted ++ line ++ ['\n']
        Action.say shown
        return 0

/-- The characters that a set describes. -/
def setOf : Nat → Chars → List Char
  | 0, _ => []
  | _, [] => []
  | n + 1, '[' :: ':' :: rest =>
    let name := rest.takeWhile (· != ':')
    match rest.drop name.length with
    | ':' :: ']' :: more =>
      let belongs (c : Char) : Bool := match String.ofList name with
        | "lower" => c.isLower
        | "upper" => c.isUpper
        | "digit" => c.isDigit
        | "alpha" => c.isAlpha
        | "alnum" => c.isAlphanum
        | "space" => Number.isGap c
        | "blank" => c == ' ' || c == '\t'
        | "punct" => ' ' < c && c < '\x7f' && !c.isAlphanum
        | _ => false
      ((List.range 256).map Char.ofNat).filter belongs ++ setOf n more
    | _ => '[' :: setOf n (':' :: rest)
  | n + 1, text =>
    let one (text : Chars) : Option (Char × Chars) := match text with
      | [] => none
      | '\\' :: c :: rest =>
        let octal := ((c :: rest).take 3).takeWhile (Text.isDigitOf 8)
        if octal = [] then
          let letters := [('n', '\n'), ('t', '\t'), ('r', '\r'), ('\\', '\\'), ('a', '\x07'),
            ('b', '\x08'), ('f', '\x0c'), ('v', '\x0b')]
          some ((letters.lookup c).getD c, rest)
        else some (Char.ofNat (Text.numeral 8 octal % 256), (c :: rest).drop octal.length)
      | c :: rest => some (c, rest)
    match one text with
    | none => []
    | some (c, '-' :: rest) =>
      match one rest with
      | some (last, more) =>
        ((List.range (last.toNat + 1 - c.toNat)).map fun i => Char.ofNat (c.toNat + i)) ++ setOf n more
      | none => [c, '-']
    | some (c, rest) => c :: setOf n rest

/-- Characters without repetitions of those in a set. -/
def squeezed (set : List Char) : Chars → Chars
  | c :: d :: rest =>
    if c = d ∧ set.contains c then squeezed set (d :: rest) else c :: squeezed set (d :: rest)
  | rest => rest

/-- The tool `tr`. -/
def translate (name : Chars) (arguments : List Chars) : Action Nat :=
  withOptions ⟨"dscCt", [("delete", 'd'), ("squeeze-repeats", 's'), ("complement", 'c')]⟩ 1 name
    arguments fun found operands => do
      let complement := has found 'c' || has found 'C'
      let set (text : Chars) : List Char := setOf (text.length + 1) text
      let firstSet (text : Chars) : List Char :=
        if complement then ((List.range 256).map Char.ofNat).filter fun c => !(set text).contains c
        else set text
      let refuse (text more : Chars) : Action Nat := do
        report name text
        if more ≠ [] then Action.write 2 (more ++ ['\n'])
        tryHelp name
        return 1
      let through (change : Chars → Chars) : Action Nat := do
        let text := (← input).toOption.getD []
        Action.say (change text)
        return 0
      let squeeze (given : Chars) (text : Chars) : Chars :=
        if has found 's' then squeezed (set given) text else text
      match operands, has found 'd' with
      | [], _ => missingOperand name
      | [first], true => through fun text => text.filter fun c => !(firstSet first).contains c
      | [first], false =>
        if has found 's' then through (squeezed (firstSet first))
        else
          refuse (chars "missing operand after " ++ named first)
            (chars "Two strings must be given when translating.")
      | [first, second], true =>
        if has found 's' then
          through fun text => squeezed (set second) (text.filter fun c => !(firstSet first).contains c)
        else
          refuse (chars "extra operand " ++ named second)
            (chars "Only one string may be given when deleting without squeezing repeats.")
      | [first, second], false =>
        let froms := firstSet first
        let tos := set second
        let last := tos.getLastD ' '
        let pairs := froms.zip (tos ++ List.replicate (froms.length - tos.length) last)
        through fun text =>
          squeeze second (text.map fun c => ((pairs.reverse.lookup c)).getD c)
      | _ :: _ :: extra :: _, _ => refuse (chars "extra operand " ++ named extra) []

/-- Whether a list of numbers and of spans between numbers has a number. -/
def listed? (text : Chars) : Option (Nat → Bool) :=
  let parts := (Path.splitAt 0x2C (toOctets text)).map ofOctets
  let spans := parts.mapM fun part =>
    let low := part.takeWhile Char.isDigit
    match part.drop low.length with
    | [] => if low = [] then none else some (Text.numeral 10 low, some (Text.numeral 10 low))
    | '-' :: high =>
      if !high.all Char.isDigit || (low = [] && high = []) then none
      else
        some (if low = [] then 1 else Text.numeral 10 low,
          if high = [] then none else some (Text.numeral 10 high))
    | _ => none
  spans.map fun spans n => spans.any fun (low, high) => low ≤ n && (high.all (n ≤ ·))

/-- The items of a list whose numbers, counted from one, are asked for. -/
def chosen (wanted : Nat → Bool) (items : List α) : List α :=
  (items.zipIdx.filter fun (_, i) => wanted (i + 1)).map (·.1)

/-- The tool `cut`. -/
def cut (name : Chars) (arguments : List Chars) : Action Nat :=
  withOptions ⟨"d:f:c:b:s", [("delimiter", 'd'), ("fields", 'f'), ("characters", 'c'), ("bytes", 'b'),
    ("only-delimited", 's')]⟩ 1 name arguments fun found operands => do
      let refuse (text : Chars) : Action Nat := do
        report name text
        tryHelp name
        return 1
      match found.find? fun (c, _) => "fcb".toList.contains c with
      | none => refuse (chars "you must specify a list of bytes, characters, or fields")
      | some (kind, ranges) =>
        match listed? ranges with
        | none =>
          let what := if kind = 'f' then "field value " else "byte or character position "
          refuse (chars ("invalid " ++ what) ++ named ranges)
        | some wanted => do
          let delimiter := ((found.lookup 'd').getD ['\t']).headD '\x00'
          let part (line : Chars) : Option Chars :=
            if kind = 'f' then
              if line.contains delimiter then
                let fields := (Path.splitAt (UInt8.ofNat delimiter.toNat) (toOctets line)).map ofOctets
                some ([delimiter].intercalate (chosen wanted fields))
              else if has found 's' then none else some line
            else some (chosen wanted line)
          let (text, status) ← allContents name id operands
          Action.say (((bareLines text).filterMap part).flatMap (· ++ ['\n']))
          return status

/-- The tool `tee`. -/
def tee (name : Chars) (arguments : List Chars) : Action Nat :=
  withOptions ⟨"aip", [("append", 'a')]⟩ 1 name arguments fun found operands => do
    let text := (← input).toOption.getD []
    let opened ← operands.mapM fun operand => do
      match openFile (← get) (if has found 'a' then .append else .write) operand with
      | .error e => do
        report name (operand ++ chars (": " ++ e.text))
        return (none, 1)
      | .ok (s, channel) => do
        set s
        return (some (operand, channel), 0)
    Action.say text
    let written ← opened.filterMapM fun (target, _) => do
      match target with
      | none => return none
      | some (operand, channel) =>
        let s ← get
        match s.machine.write channel text with
        | .ok machine => do
          set { s with machine }
          return none
        | .error e => do
          report name (operand ++ chars (": " ++ e.text))
          return some 1
    return (opened.map (·.2) ++ written).foldl max 0

/-- The greatest count of numbers in a row. -/
def maxSequence : Nat := 1000000

/-- The tool `seq`. Its numbers are integers. -/
def sequence (name : Chars) (arguments : List Chars) : Action Nat := do
  /- A number below zero looks like an option. -/
  let (options, numbers) := arguments.span fun a =>
    a.head? = some '-' && (a.drop 1).head?.any fun c => !c.isDigit
  let options := match options, numbers with
    | [['-', 's']], value :: _ => [['-', 's'] ++ value]
    | options, _ => options
  let numbers := if arguments.head? = some ['-', 's'] then numbers.drop 1 else numbers
  withOptions ⟨"s:w", [("separator", 's'), ("equal-width", 'w')]⟩ 1 name options fun found _ => do
    let refuse (text : Chars) : Action Nat := do
      report name text
      tryHelp name
      return 1
    let run (first step last : Int) : Action Nat := do
      if step = 0 then refuse (chars "invalid Zero increment value: '0'")
      else
        let steps := ((last - first) / step).toNat
        let values := if (0 < step && last < first) || (step < 0 && first < last) then []
          else (List.range (min steps maxSequence + 1)).map fun (i : Nat) =>
            chars (toString (first + step * (i : Int)))
        let width := if has found 'w' then (values.map List.length).foldl max 0 else 0
        let padded := values.map fun v =>
          match v with
          | '-' :: digits => '-' :: List.replicate (width - v.length) '0' ++ digits
          | digits => List.replicate (width - v.length) '0' ++ digits
        let separator := (found.lookup 's').getD ['\n']
        if padded ≠ [] then Action.say (separator.intercalate padded ++ ['\n'])
        return 0
    match numbers.find? fun a => (Number.decimal? a).isNone with
    | some bad => refuse (chars "invalid floating point argument: " ++ named bad)
    | none =>
      match numbers.filterMap Number.decimal? with
      | [] => missingOperand name
      | [last] => run 1 1 last
      | [first, last] => run first 1 last
      | [first, step, last] => run first step last
      | _ => refuse (chars "extra operand " ++ named ((numbers.drop 3).headD []))

/-- The tool `yes`. It goes on until nothing takes its lines any more. -/
def repeat_ (_ : Chars) (arguments : List Chars) : Action Nat := do
  let line := (if arguments.isEmpty then ['y'] else [' '].intercalate arguments) ++ ['\n']
  let many := (List.replicate 1024 line).flatten
  (List.replicate (pipeRoom / many.length + 1) many).forM Action.say
  return 0

end ConsumerCheck.Shell.Tools
