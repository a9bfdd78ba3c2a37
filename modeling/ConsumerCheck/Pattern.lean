/-!
# File-name patterns

A pattern of `glob` is matched against a whole file name. `?` stands for one character, `*` for any number of
them, `[…]` for one of the listed characters and ranges, `[!…]` for one that is not listed. Two stars
must make up a whole component of the pattern; they stand for any number of components.

* `Pattern.parse` — a pattern from its text, or the place and the kind of its fault (`Pattern::new`);
* `Pattern.matchesName` — whether a name matches. The tokens are taken from the back, each with one
  pass over the name, so the time grows with the product of both lengths.
-/

namespace ConsumerCheck

/-- One alternative between brackets. -/
inductive CharClass where
  | single (c : Char)
  | range (first last : Char)
  deriving DecidableEq, Repr

/-- Whether an alternative covers a character. -/
def CharClass.covers : CharClass → Char → Bool
  | single c, x => x == c
  | range first last, x => first ≤ x && x ≤ last

/-- One token of a pattern. -/
inductive PatternToken where
  | char (c : Char)
  | anyChar
  | anySequence
  | anyComponents
  | within (classes : List CharClass)
  | except (classes : List CharClass)
  deriving DecidableEq, Repr

/-- Whether a token that stands for one character stands for this one. -/
def PatternToken.accepts : PatternToken → Char → Bool
  | char c, x => x == c
  | anyChar, _ => true
  | within cs, x => cs.any (·.covers x)
  | except cs, x => !cs.any (·.covers x)
  | anySequence, _ => false
  | anyComponents, _ => false

/-- The faults of a pattern. -/
inductive PatternFault where
  /-- Three stars or more. -/
  | wildcards
  /-- Two stars next to something else than a slash. -/
  | recursiveWildcards
  /-- A bracket that is not closed, or has nothing in it. -/
  | invalidRange
  deriving DecidableEq, Repr

/-- A fault and its place, in characters from the beginning. -/
structure PatternError where
  position : Nat
  fault : PatternFault
  deriving DecidableEq, Repr

/-- The wording of a fault. -/
def PatternFault.message : PatternFault → String
  | wildcards => "wildcards are either regular `*` or recursive `**`"
  | recursiveWildcards => "recursive wildcards must form a single path component"
  | invalidRange => "invalid range pattern"

/-- The wording of a fault with its place. -/
def PatternError.message (e : PatternError) : String :=
  "Pattern syntax error near position " ++ toString e.position ++ ": " ++ e.fault.message

/-- A file-name pattern. -/
structure Pattern where
  tokens : List PatternToken
  deriving DecidableEq, Repr

namespace Pattern

/-- The alternatives between brackets. A hyphen between two characters makes a range. -/
def classes : List Char → List CharClass
  | a :: '-' :: b :: rest => .range a b :: classes rest
  | a :: rest => .single a :: classes rest
  | [] => []

/-- The characters before the first closing bracket and those after it; the first character is never
taken as the closing one. -/
def bracketed : List Char → Option (List Char × List Char)
  | [] => none
  | first :: rest =>
    if rest.contains ']' then
      some (first :: rest.takeWhile (· != ']'), (rest.dropWhile (· != ']')).drop 1)
    else none

theorem bracketed_length {cs inner rest : List Char} (h : bracketed cs = some (inner, rest)) :
    rest.length < cs.length := by
  cases cs with
  | nil => simp [bracketed] at h
  | cons first tail =>
    simp only [bracketed] at h
    split at h
    · simp only [Option.some.injEq, Prod.mk.injEq] at h
      obtain ⟨-, rfl⟩ := h
      have := (List.dropWhile_sublist (· != ']') (l := tail)).length_le
      simp only [List.length_drop, List.length_cons]
      omega
    · simp at h

/-- The tokens of `cs`, which begins at `position` after the character `before`. `tokens` holds those
before it, the last first. -/
def tokenize (position : Nat) (before : Option Char) (tokens : List PatternToken) (cs : List Char) :
    Except PatternError (List PatternToken) :=
  match cs with
  | [] => .ok tokens.reverse
  | '?' :: rest => tokenize (position + 1) (some '?') (.anyChar :: tokens) rest
  | '*' :: '*' :: '*' :: _ => .error ⟨position + 2, .wildcards⟩
  | '*' :: '*' :: rest =>
    let opens := before == none || before == some '/'
    let tokens' :=
      if tokens.length > 1 && tokens.head? == some .anyComponents then tokens
      else .anyComponents :: tokens
    match opens, rest with
    | false, _ => .error ⟨position - 1, .recursiveWildcards⟩
    | true, [] => .ok tokens'.reverse
    | true, '/' :: rest => tokenize (position + 3) (some '/') tokens' rest
    | true, _ => .error ⟨position + 2, .recursiveWildcards⟩
  | '*' :: rest => tokenize (position + 1) (some '*') (.anySequence :: tokens) rest
  | '[' :: '!' :: rest =>
    match h : bracketed rest with
    | some (inner, rest') =>
      have := bracketed_length h
      tokenize (position + inner.length + 3) (some ']') (.except (classes inner) :: tokens) rest'
    | none => .error ⟨position, .invalidRange⟩
  | '[' :: rest =>
    match h : bracketed rest with
    | some (inner, rest') =>
      have := bracketed_length h
      tokenize (position + inner.length + 2) (some ']') (.within (classes inner) :: tokens) rest'
    | none => .error ⟨position, .invalidRange⟩
  | c :: rest => tokenize (position + 1) (some c) (.char c :: tokens) rest
termination_by cs.length

/-- A pattern from its text. -/
def parse (text : String) : Except PatternError Pattern :=
  (tokenize 0 none [] text.toList).map Pattern.mk

/-- For each tail of `cs`, whether the token and then the tokens after it match the tail; `after` says it
of the tokens after it alone. -/
def pull (token : PatternToken) : List Char → List Bool → List Bool
  | [], after =>
    match token with
    | .anySequence => [after.headD false]
    | _ => [false]
  | c :: cs, after =>
    let later := pull token cs after.tail
    match token with
    | .anySequence => (after.headD false || later.headD false) :: later
    | _ => (token.accepts c && after.tail.headD false) :: later

/-- For each tail of `cs`, whether the tokens match what follows some slash in it or its end. -/
def pullComponents : List Char → List Bool → List Bool
  | [], after => [after.headD false]
  | c :: cs, after =>
    let later := pullComponents cs after.tail
    ((c == '/' && after.tail.headD false) || later.headD false) :: later

/-- For each tail of `cs`, whether the tokens match it. -/
def tails (cs : List Char) : List PatternToken → List Bool
  | [] => cs.map (fun _ => false) ++ [true]
  | .anyComponents :: tokens =>
    let after := tails cs tokens
    List.zipWith (· || ·) after (pullComponents cs after)
  | token :: tokens => pull token cs (tails cs tokens)

/-- Whether a name matches. -/
def matchesName (p : Pattern) (name : String) : Bool :=
  (tails name.toList p.tokens).headD false

end Pattern

end ConsumerCheck
