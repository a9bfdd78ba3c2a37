import ConsumerCheck.Shell.Regex.Reading
import ConsumerCheck.Shell.Tools.Placing

/-!
# Lines that match

The tool `grep` selects lines in which something matches, and shows them or what is asked about them.

* `Search` — what is looked for, and how;
* `Search.found?` — the first part of a line that matches;
* `Search.shown` — what is shown of a text;
* `Tools.grep` — the tool.
-/

namespace ConsumerCheck.Shell.Tools

/-- What is looked for, and how it is shown. -/
structure Search where
  patterns : List Regex
  folded : Bool
  /-- Whether lines are selected in which nothing matches. -/
  inverted : Bool
  /-- Whether what matches must be a word, or a line. -/
  words : Bool
  whole : Bool
  /-- How many lines are selected at most. -/
  limit : Option Nat
  /-- What ends a line. -/
  terminator : Char
  /-- How many lines are shown before and after one that is selected. -/
  before : Nat
  after : Nat
  /-- Whether groups of lines are kept apart. -/
  apart : Bool
  /-- Whether only what matches is shown. -/
  onlyParts : Bool
  numbered : Bool
  counted : Bool
  aligned : Bool

/-- A line, with where it stands. -/
structure NumberedLine where
  number : Nat
  offset : Nat
  text : Chars
  deriving Repr

namespace Search

/-- The first part of a line from a place on that matches. -/
def found? (q : Search) (line : Chars) (start : Nat) : Option (Nat × Nat) :=
  let s : Regex.Subject := ⟨line.toArray, q.folded, false⟩
  let fits (m : Regex.Match) : Bool :=
    (!q.whole || (m.start == 0 && m.finish == s.text.size)) &&
    (!q.words || (!s.wordBefore m.start && !s.wordAfter m.finish))
  (List.range (s.text.size + 1 - start)).findSome? fun n =>
    let ends := (q.patterns.flatMap fun r => r.matchesAt s (start + n)).filter fits
    ends.foldl (fun best m =>
      match best with
      | some (first, last) => if last < m.finish then some (m.start, m.finish) else some (first, last)
      | none => some (m.start, m.finish)) none

/-- Whether a line is selected. -/
def selects (q : Search) (line : Chars) : Bool := (q.found? line 0).isSome != q.inverted

/-- The parts of a line that match and are not empty, with where they begin. -/
def parts (q : Search) (line : Chars) : Nat → (start : Nat) → List (Nat × Chars)
  | 0, _ => []
  | n + 1, start =>
    match q.found? line start with
    | none => []
    | some (first, last) =>
      if first < last then (first, (line.drop first).take (last - first)) :: parts q line n last
      else parts q line n (first + 1)

/-- The lines of a text, numbered. -/
def linesOf (q : Search) (text : Chars) : List NumberedLine :=
  let (lines, _) := ((linesBy q.terminator text).map (withoutSign q.terminator)).zipIdx.foldl
    (fun (lines, offset) (text, i) => (⟨i + 1, offset, text⟩ :: lines, offset + text.length + 1))
    (([] : List NumberedLine), 0)
  lines.reverse

/-- The lines that are selected. -/
def selected (q : Search) (lines : List NumberedLine) : List NumberedLine :=
  let all := lines.filter fun line => q.selects line.text
  match q.limit with
  | some n => all.take n
  | none => all

/-- What stands in front of a line. -/
def labelled (q : Search) (label : Option Chars) (sign : Char) (number offset : Nat) : Chars :=
  let wide (n width : Nat) : Chars :=
    let digits := chars (toString n)
    if q.aligned then List.replicate (width - digits.length) ' ' ++ digits else digits
  let front :=
    (label.map (· ++ [sign])).getD [] ++
    (if q.numbered then wide number (if label.isSome then 4 else 2) ++ [sign] else []) ++
    (if q.counted then wide offset 6 ++ [sign] else [])
  if q.aligned ∧ front ≠ [] then front ++ ['\t'] else front

/-- What is shown of a text. The first result says whether something was shown. Groups of lines are kept apart
also from those of another text. -/
def shown (q : Search) (label : Option Chars) (earlier : Bool) (lines : List NumberedLine) : Bool × Chars :=
  let chosen := (q.selected lines).map (·.number)
  let isChosen (n : Nat) : Bool := chosen.contains n
  let near := lines.filter fun line =>
    chosen.any fun n => n ≤ line.number + q.before && line.number ≤ n + q.after
  let (_, used, text) := near.foldl (fun (last, used, text) line =>
    let gap := if q.apart && used && last + 1 ≠ line.number then chars "--\n" else []
    let own :=
      if isChosen line.number then
        if q.onlyParts then
          if q.inverted then []
          else (q.parts line.text (line.text.length + 1) 0).flatMap fun (first, part) =>
            q.labelled label ':' line.number (line.offset + first) ++ part ++ ['\n']
        else q.labelled label ':' line.number line.offset ++ line.text ++ [q.terminator]
      else if q.onlyParts then []
      else q.labelled label '-' line.number line.offset ++ line.text ++ [q.terminator]
    (line.number, true, own.reverse ++ gap.reverse ++ text)) (0, earlier, [])
  (used, text.reverse)

end Search

/-- The options of `grep`. -/
def searchOptions : Options :=
  ⟨"EFGPe:f:iyvwxcm:bnHhoqsarRIzZLlTUuA:B:C:d:D:0123456789κ::λ:ι:ε:δ:β:γ:ν", [
  ("extended-regexp", 'E'), ("fixed-strings", 'F'), ("basic-regexp", 'G'), ("perl-regexp", 'P'),
  ("regexp", 'e'), ("file", 'f'), ("ignore-case", 'i'), ("no-ignore-case", 'ν'), ("invert-match", 'v'),
  ("word-regexp", 'w'), ("line-regexp", 'x'), ("count", 'c'), ("max-count", 'm'), ("byte-offset", 'b'),
  ("line-number", 'n'), ("with-filename", 'H'), ("no-filename", 'h'), ("only-matching", 'o'),
  ("quiet", 'q'), ("silent", 'q'), ("no-messages", 's'), ("text", 'a'), ("recursive", 'r'),
  ("dereference-recursive", 'R'), ("null-data", 'z'), ("null", 'Z'), ("files-without-match", 'L'),
  ("files-with-matches", 'l'), ("initial-tab", 'T'), ("binary", 'U'), ("line-buffered", 'u'),
  ("after-context", 'A'), ("before-context", 'B'), ("context", 'C'), ("directories", 'd'),
  ("devices", 'D'), ("color", 'κ'), ("colour", 'κ'), ("label", 'λ'), ("include", 'ι'),
  ("exclude", 'ε'), ("exclude-dir", 'δ'), ("binary-files", 'β'), ("group-separator", 'γ')]⟩

/-- The patterns in a text, one on each line. -/
def patternsIn (text : Chars) : List Chars := (linesBy '\n' (text ++ ['\n'])).map List.dropLast

/-- A fault in the arguments. -/
structure SearchFault where
  text : Chars
  /-- Whether the form of the arguments is shown too. -/
  needsHelp : Bool

/-- A number of lines in an option. -/
def lineCount (found : List (Char × Chars)) (c : Char) (wording : String) :
    Except SearchFault (Option Nat) :=
  match lastValue? found c with
  | none => .ok none
  | some digits =>
    if digits ≠ [] && digits.all Char.isDigit then .ok (some (Text.numeral 10 digits))
    else .error ⟨(if c = 'm' then [] else digits ++ chars ": ") ++ chars wording, false⟩

/-- What options and patterns ask for, with remarks on the patterns. -/
def Search.of (found : List (Char × Chars)) (texts : List Chars) : Except SearchFault (Search × List Chars) := do
  let kinds := (found.map (·.1)).filter fun c => "EFGP".toList.contains c
  if kinds.any (· ≠ kinds.headD 'G') then throw ⟨chars "conflicting matchers specified", false⟩
  let kind := kinds.headD 'G'
  let form : RegexForm := ⟨kind == 'E' || kind == 'P', false⟩
  let read ← texts.mapM fun text =>
    if kind = 'F' then .ok (Regex.ofText text, [])
    else
      match Regex.read form text with
      | .ok r => .ok r
      | .error fault => .error ⟨chars fault.message, false⟩
  let wording := "invalid context length argument"
  let digits := (found.map (·.1)).filter Char.isDigit
  let around := (← lineCount found 'C' wording).orElse fun _ =>
    if digits = [] then none else some (Text.numeral 10 digits)
  let before ← lineCount found 'B' wording
  let after ← lineCount found 'A' wording
  let limit ← lineCount found 'm' "invalid max count"
  let search : Search := {
    patterns := read.map (·.1)
    folded := ((found.map (·.1)).reverse.find? fun c => "iyν".toList.contains c).any (· ≠ 'ν')
    inverted := has found 'v'
    words := has found 'w'
    whole := has found 'x'
    limit
    terminator := if has found 'z' then '\x00' else '\n'
    before := (before.orElse fun _ => around).getD 0
    after := (after.orElse fun _ => around).getD 0
    apart := before.isSome || after.isSome || around.isSome
    onlyParts := has found 'o'
    numbered := has found 'n'
    counted := has found 'b'
    aligned := has found 'T' }
  return (search, read.flatMap (·.2))

/-- A file that is searched: how it is named, and how it is opened. -/
structure Searched where
  label : Chars
  operand : Chars
  /-- Whether it was found in a directory. -/
  inside : Bool

/-- The files below a directory. A link is passed over unless it is to be followed. -/
def filesBelow (fs : FileSystem) (followed : Bool) (enters : Chars → Bool) (takes : Chars → Bool) :
    Nat → Chars → Location → List Chars
  | 0, _, _ => []
  | n + 1, path, place =>
    (namesAt fs place).flatMap fun name =>
      let next := place ++ [toOctets name]
      let shown := inside path name
      let reached := if followed then (fs.locate [] ⟨toOctets (placePath next)⟩).toOption.getD next else next
      match fs.get? reached with
      | some (.directory _) =>
        if enters name then filesBelow fs followed enters takes n shown reached else []
      | some (.file ..) => if takes name then [shown] else []
      | _ => []

/-- The files that operands name. -/
def searchedFiles (s : Session) (found : List (Char × Chars)) (operands : List Chars) : List Searched :=
  let followed := has found 'R'
  let deep := has found 'r' || followed || lastValue? found 'd' = some (chars "recurse")
  let globs (c : Char) : List Glob := (found.filter (·.1 = c)).map fun (_, text) => Glob.ofText text
  let meets (c : Char) (name : Chars) : Bool := (globs c).any (·.matchesText name)
  let takes (name : Chars) : Bool := (globs 'ι' = [] || meets 'ι' name) && !meets 'ε' name
  let enters (name : Chars) : Bool := !meets 'δ' name
  let all := if operands = [] then [if deep then ['.'] else ['-']] else operands
  all.flatMap fun operand =>
    if operand = ['-'] then [⟨(lastValue? found 'λ').getD (chars "(standard input)"), operand, false⟩]
    else
      match s.files.locate s.directory (Session.path operand) with
      | .ok place =>
        if s.files.isDirectoryAt place then
          if deep then
            (filesBelow s.files followed enters takes (s.files.entries.length + 1) operand place).map fun path =>
              let label := if operands = [] then path.drop 2 else path
              ⟨label, label, true⟩
          else if lastValue? found 'd' = some (chars "skip") then []
          else [⟨operand, operand, false⟩]
        else if takes (lastName operand) then [⟨operand, operand, false⟩]
        else []
      | .error _ => [⟨operand, operand, false⟩]

/-- The number of the file that a descriptor leads to, as its place. -/
def placeBehind? (s : Session) (descriptor : Nat) : Option Location :=
  (s.channel? descriptor).bind s.machine.placeOf?

/-- Searches one file. The results say whether a line was selected, whether something went wrong, and whether
lines have been shown. -/
def searchFile (name : Chars) (found : List (Char × Chars)) (q : Search) (named_ earlier : Bool)
    (file : Searched) : Action (Bool × Bool × Bool) := do
  let s ← get
  let quiet := has found 'q' || s.channel? 1 = some (.device .null)
  let listing := !quiet && (has found 'l' || has found 'L')
  let complain (text : Chars) : Action (Bool × Bool × Bool) := do
    if !has found 's' then report name (file.label ++ chars ": " ++ text)
    return (false, true, earlier)
  let place? := if file.operand = ['-'] then placeBehind? s 0
    else (s.files.locate s.directory (Session.path file.operand)).toOption
  let loops := !quiet && !listing && place?.isSome && place? = placeBehind? s 1
  if loops then
    report name (file.label ++ chars ": input file is also the output")
    return (false, true, earlier)
  else
    match ← contents file.operand with
    | .error e => complain (chars e.text)
    | .ok text =>
      let binary := !has found 'a' && q.terminator = '\n' && text.contains '\x00' &&
        lastValue? found 'β' ≠ some (chars "text")
      let skipped := binary && (has found 'I' || lastValue? found 'β' = some (chars "without-match"))
      let lines := if skipped then [] else q.linesOf text
      let chosen := q.selected lines
      let matched := !chosen.isEmpty
      let ending := if has found 'Z' then '\x00' else '\n'
      let label := if named_ then some file.label else none
      if quiet then return (matched, false, earlier)
      else if listing then
        if matched = has found 'l' then Action.say (file.label ++ [ending])
        return (matched, false, earlier)
      else if has found 'c' then
        let front := (label.map (· ++ [if has found 'Z' then '\x00' else ':'])).getD []
        Action.say (front ++ chars (toString chosen.length) ++ ['\n'])
        return (matched, false, earlier)
      else if binary then
        if matched then report name (file.label ++ chars ": binary file matches")
        return (matched, false, earlier)
      else
        let (used, shown) := q.shown label earlier lines
        Action.say shown
        return (matched, false, used)

/-- How `grep` is to be used. -/
def searchUsage (name : Chars) : Action Nat := do
  Action.write 2 (chars "Usage: " ++ name ++ chars " [OPTION]... PATTERNS [FILE]...\n")
  tryHelp name
  return 2

/-- The tool `grep`. -/
def grep (name : Chars) (arguments : List Chars) : Action Nat := do
  match searchOptions.readAll arguments.length arguments with
  | .error text => do
    report name text
    searchUsage name
  | .ok (found, operands) => do
    let given ← (found.filter fun (c, _) => c == 'e' || c == 'f').mapM fun (c, value) => do
      if c = 'e' then return some (patternsIn value)
      else
        match ← contents value with
        | .ok text => return some ((linesBy '\n' text).map (withoutSign '\n'))
        | .error e => do
          report name (value ++ chars (": " ++ e.text))
          return none
    let (texts?, operands) := match given, operands with
      | [], [] => (none, [])
      | [], first :: rest => (some (patternsIn first), rest)
      | _, operands => (some (given.filterMap id).flatten, operands)
    match texts? with
    | none => searchUsage name
    | some texts =>
      if given.any (·.isNone) then return 2
      else
        match Search.of found texts with
        | .error fault => do
          report name fault.text
          if fault.needsHelp then searchUsage name else return 2
        | .ok (q, idle) => do
          idle.forM fun sign => report name (chars "warning: " ++ sign ++ chars " at start of expression")
          if q.limit = some 0 then return 1
          else
            let files := searchedFiles (← get) found operands
            let several := 1 < operands.length
            let naming (file : Searched) : Bool :=
              match (found.map (·.1)).reverse.find? fun c => c == 'H' || c == 'h' with
              | some c => c == 'H'
              | none => several || file.inside
            let mut matched := false
            let mut failed := false
            let mut earlier := false
            for file in files do
              let (found_, wrong, used) ← searchFile name found q (naming file) earlier file
              matched := matched || found_
              failed := failed || wrong
              earlier := used
            return if failed && !(has found 'q' && matched) then 2 else if matched then 0 else 1

end ConsumerCheck.Shell.Tools
