import ConsumerCheck.Text.LowerCase.Table

/-!
# Lower case of a text

`Text.toLower` is `str::to_lowercase`, which maps each character by the tables of Unicode. Two characters are
not mapped one to one: `İ` becomes `i` and a combining dot above, and the capital sigma becomes `ς` at the end
of a word and `σ` elsewhere. It stands at the end of a word if a letter with case comes before it and none
after it, where the characters that case ignores, such as the apostrophe, are skipped on both sides.
-/

namespace ConsumerCheck

namespace LowerCase

/-- Whether one of the closed ranges holds a code point. -/
def inRanges (ranges : List (Nat × Nat)) (n : Nat) : Bool :=
  ranges.any fun (first, last) => first ≤ n && n ≤ last

/-- Whether a run maps a code point. -/
def Run.covers (r : Run) (n : Nat) : Bool :=
  r.first ≤ n && n ≤ r.last && (n - r.first) % r.stride == 0

/-- The lower case of one character where it is one character. -/
def simple (c : Char) : Char :=
  let n := c.toNat
  if n < 0x80 then
    if 0x41 ≤ n ∧ n ≤ 0x5A then Char.ofNat (n + 0x20) else c
  else
    match lowerRuns.find? (·.covers n) with
    | some r => Char.ofNat (r.target + (n - r.first))
    | none => c

/-- Whether the first character that case does not ignore is a letter with case. -/
def nextIsCased (cs : List Char) : Bool :=
  match cs.dropWhile fun c => inRanges caseIgnorable c.toNat with
  | [] => false
  | c :: _ => inRanges cased c.toNat

/-- The lower case of `cs`, where `before` holds the characters before it, the nearest first. -/
def lower (before : List Char) : List Char → List Char
  | [] => []
  | c :: rest =>
    let here :=
      if c = 'Σ' then [if nextIsCased before && !nextIsCased rest then 'ς' else 'σ']
      else if c = 'İ' then ['i', '\u0307']
      else [simple c]
    here ++ lower (c :: before) rest

end LowerCase

/-- The lower case of a text. -/
def Text.toLower (text : String) : String := String.ofList (LowerCase.lower [] text.toList)

end ConsumerCheck
