/-!
# Durations as text

A duration is shown in the largest of the units seconds, milliseconds, microseconds and nanoseconds
that it reaches, with two places. What lies halfway between two texts goes to the even one.

* `roundHalfEven` — a quotient rounded to a whole number;
* `Duration.text` — a duration for a reader;
* `Duration.milliseconds` — a duration for a machine (`serialize_duration_ms`).
-/

namespace ConsumerCheck

/-- A span of time. -/
structure Duration where
  seconds : Nat
  nanos : Nat
  nanos_lt : nanos < 1000000000
  deriving DecidableEq, Repr

namespace Duration

/-- No time. -/
def zero : Duration := ⟨0, 0, by decide⟩

instance : Inhabited Duration := ⟨zero⟩

/-- The span of so many seconds and nanoseconds. -/
def ofParts (seconds nanos : Nat) : Duration :=
  ⟨seconds + nanos / 1000000000, nanos % 1000000000, Nat.mod_lt _ (by decide)⟩

/-- The whole span in nanoseconds. -/
def total (d : Duration) : Nat := d.seconds * 1000000000 + d.nanos

/-- `n / d` rounded to a whole number, halves to the even one. -/
def roundHalfEven (n d : Nat) : Nat :=
  let q := n / d
  let twice := 2 * (n % d)
  if twice < d ∨ (twice = d ∧ q % 2 = 0) then q else q + 1

/-- Two decimal digits. -/
def twoDigits (n : Nat) : String := if n < 10 then "0" ++ toString n else toString n

/-- A number of hundredths, with two places. -/
def hundredths (n : Nat) : String := toString (n / 100) ++ "." ++ twoDigits (n % 100)

/-- The length of the unit in nanoseconds that a span is shown in, and its name. -/
def unit (d : Duration) : Nat × String :=
  if 0 < d.seconds then (1000000000, "s")
  else if 1000000 ≤ d.nanos then (1000000, "ms")
  else if 1000 ≤ d.nanos then (1000, "µs")
  else (1, "ns")

/-- A span for a reader. -/
def text (d : Duration) : String :=
  let (length, name) := d.unit
  hundredths (roundHalfEven (d.total * 100) length) ++ name

/-- A span in whole milliseconds, rounded down, as a number of 64 bits. -/
def milliseconds (d : Duration) : Nat := (d.total / 1000000) % 18446744073709551616

end Duration

end ConsumerCheck
