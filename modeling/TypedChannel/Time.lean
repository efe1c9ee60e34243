/-!
# TypedChannel.Time

Durations and points in time, counted in nanoseconds.

1. The text of a duration uses the largest of the units `s`, `ms`, `µs` and
   `ns` that fits once, and a fraction without trailing zeros.
2. Points in time end with the largest signed 64-bit number of seconds; a
   point beyond that cannot be told, so a deadline there does not exist.
-/

namespace TypedChannel

/-! ## Durations -/

/-- A length of time. -/
structure Duration where
  nanos : Nat
  deriving DecidableEq, Repr

namespace Duration

/-- No time at all. -/
def zero : Duration := ⟨0⟩

def ofSeconds (n : Nat) : Duration := ⟨n * 1000000000⟩

def ofMillis (n : Nat) : Duration := ⟨n * 1000000⟩

/-- The longest duration: a 64-bit number of seconds and all but one nanosecond of the next. -/
def longest : Duration := ⟨18446744073709551615999999999⟩

/-- The shorter of two durations. -/
def min (a b : Duration) : Duration := ⟨Nat.min a.nanos b.nanos⟩

/-- The whole milliseconds of a duration. -/
def millis (d : Duration) : Nat := d.nanos / 1000000

/-- `count` of `unit` nanoseconds each as a decimal of that unit: the whole part, then up to
`places` digits of fraction without trailing zeros. -/
def inUnit (nanos unit places : Nat) : String :=
  let digits := (toString (nanos % unit)).toList
  let padded := List.replicate (places - digits.length) '0' ++ digits
  let fraction := (padded.reverse.dropWhile (· == '0')).reverse
  let whole := toString (nanos / unit)
  if fraction.isEmpty then whole else whole ++ "." ++ String.ofList fraction

/-- The text of a duration. -/
def text (d : Duration) : String :=
  if 1000000000 ≤ d.nanos then inUnit d.nanos 1000000000 9 ++ "s"
  else if 1000000 ≤ d.nanos then inUnit d.nanos 1000000 6 ++ "ms"
  else if 1000 ≤ d.nanos then inUnit d.nanos 1000 3 ++ "µs"
  else toString d.nanos ++ "ns"

end Duration

/-- The timeout that a number of milliseconds asks for: a negative one asks to wait without end. -/
def timeoutOfMillis : Int → Option Duration
  | .ofNat n => some (.ofMillis n)
  | .negSucc _ => none

/-! ## Points in time -/

/-- A point in time, counted from the start of the clock. -/
structure Instant where
  nanos : Nat
  deriving DecidableEq, Repr

namespace Instant

/-- Every point in time lies before this many nanoseconds. -/
def limit : Nat := 9223372036854775808000000000

/-- The point `d` after `t`, unless it is too far away to be told. -/
def after? (t : Instant) (d : Duration) : Option Instant :=
  if t.nanos + d.nanos < limit then some ⟨t.nanos + d.nanos⟩ else none

/-- The time from `earlier` to `t`, none when `t` does not come later. -/
def since (t earlier : Instant) : Duration := ⟨t.nanos - earlier.nanos⟩

end Instant

/-! ## Deadlines -/

/-- A point in time that an operation of several steps ends by; without one it may take for
ever. -/
structure Deadline where
  at? : Option Instant
  deriving DecidableEq, Repr

namespace Deadline

/-- The deadline of an operation that starts at `now` and may take `timeout`. -/
def starting (now : Instant) (timeout : Option Duration) : Deadline :=
  ⟨timeout.bind now.after?⟩

/-- The time left at `now`: none beyond the deadline. -/
def remaining (deadline : Deadline) (now : Instant) : Option Duration :=
  deadline.at?.map (·.since now)

/-- Whether the deadline never comes. -/
def isUnbounded (deadline : Deadline) : Bool := deadline.at?.isNone

end Deadline

end TypedChannel
