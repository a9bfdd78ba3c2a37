/-!
# Octets and the text they stand for

File contents, file names, arguments and captured output are octets; messages are text.

* `Bytes` — a sequence of octets;
* `Utf8.encode` — the octets of a text;
* `Utf8.decode?` — the text of octets that are UTF-8;
* `Utf8.decodeLossy` — the same, with U+FFFD for every part that is not (`String::from_utf8_lossy`).

Both readings come from one machine, `Utf8.items`, which takes the octets one at a time. A part that
cannot be continued to a character is as long as possible and counts once, so `E2 82` followed by
`41` is one replacement character and the letter A.
-/

namespace ConsumerCheck

/-- A sequence of octets. -/
abbrev Bytes := List UInt8

namespace Utf8

/-- The octets of a text. -/
def encode (text : String) : Bytes := text.toList.flatMap String.utf8EncodeChar

/-- Where the machine stands between two octets. -/
inductive State where
  /-- Between characters. -/
  | start
  /-- Inside a character with the bits `bits` so far: the next octet must lie between `low` and
  `high`, and `more` continuation octets follow it. -/
  | inside (more : Nat) (low high : UInt8) (bits : Nat)
  deriving DecidableEq, Repr

/-- The first octet of a character: what is complete after it, and the new state. An octet that
begins no character is complete at once, as a part that is not UTF-8. -/
def begin (b : UInt8) : List (Option Char) × State :=
  if b < 0x80 then ([some (Char.ofNat b.toNat)], .start)
  else if b < 0xC2 then ([none], .start)
  else if b < 0xE0 then ([], .inside 0 0x80 0xBF (b.toNat - 0xC0))
  else if b = 0xE0 then ([], .inside 1 0xA0 0xBF 0)
  else if b = 0xED then ([], .inside 1 0x80 0x9F 0xD)
  else if b < 0xF0 then ([], .inside 1 0x80 0xBF (b.toNat - 0xE0))
  else if b = 0xF0 then ([], .inside 2 0x90 0xBF 0)
  else if b < 0xF4 then ([], .inside 2 0x80 0xBF (b.toNat - 0xF0))
  else if b = 0xF4 then ([], .inside 2 0x80 0x8F 4)
  else ([none], .start)

/-- One octet. Where a character cannot be continued, the part so far is not UTF-8 and the octet
begins anew. -/
def step : State → UInt8 → List (Option Char) × State
  | .start, b => begin b
  | .inside more low high bits, b =>
    if low ≤ b ∧ b ≤ high then
      let bits := bits * 64 + (b.toNat - 0x80)
      match more with
      | 0 => ([some (Char.ofNat bits)], .start)
      | more + 1 => ([], .inside more 0x80 0xBF bits)
    else
      let (out, state) := begin b
      (none :: out, state)

/-- The characters of a sequence of octets, with `none` for each longest part that is not UTF-8. -/
def items : State → Bytes → List (Option Char)
  | .start, [] => []
  | .inside .., [] => [none]
  | state, b :: rest =>
    let (out, state) := step state b
    out ++ items state rest

/-- The text of octets that are UTF-8 throughout. -/
def decode? (bytes : Bytes) : Option String :=
  ((items .start bytes).mapM id).map String.ofList

/-- The text of octets, with U+FFFD for each longest part that is not UTF-8. -/
def decodeLossy (bytes : Bytes) : String :=
  String.ofList ((items .start bytes).map (·.getD '\uFFFD'))

end Utf8

end ConsumerCheck
