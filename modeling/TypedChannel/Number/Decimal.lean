/-!
# TypedChannel.Number.Decimal

Decimal numbers `digits · 10 ^ exponent`, their positional text, and the
shortest decimal of a binary one.

1. The positional text has no exponent: zeros fill the places up to the
   point, and a number below one starts with `0.`.
2. `shortest` takes the real numbers that round to a binary number `m · 2 ^ q`
   and picks, among the decimals in that interval, one on the coarsest grid of
   powers of ten; of two candidates on that grid the nearer wins, and an exact
   tie goes up.
-/

namespace TypedChannel

/-- The number `digits · 10 ^ exponent`. -/
structure Decimal where
  digits : Nat
  exponent : Int
  deriving DecidableEq, Repr

namespace Decimal

/-- The positional text: every digit is written out, and a whole number has no point. -/
def positional (d : Decimal) : String :=
  match d.exponent with
  | .ofNat zeros => toString d.digits ++ String.ofList (List.replicate zeros '0')
  | .negSucc n =>
    let places := n + 1
    let digits := (toString d.digits).toList
    let padded := List.replicate (places + 1 - digits.length) '0' ++ digits
    let whole := padded.length - places
    String.ofList (padded.take whole ++ '.' :: padded.drop whole)

/-! ## Shortest decimals -/

/-- The reals `low / scale … high / scale` around `value / scale` that round to one binary number;
the ends belong to them when `closed` holds. -/
structure Interval where
  low : Nat
  value : Nat
  high : Nat
  scale : Nat
  closed : Bool

namespace Interval

/-- The interval of `m · 2 ^ q`. Its ends lie half a step away, or a quarter of a step below when
the next smaller binary number is only half as far (`narrow`). -/
def around (m : Nat) (q : Int) (narrow : Bool) : Interval :=
  let factor := 1 <<< (q - 2).toNat
  { low := (4 * m - if narrow then 1 else 2) * factor
    value := 4 * m * factor
    high := (4 * m + 2) * factor
    scale := 1 <<< (2 - q).toNat
    closed := m % 2 == 0 }

/-- Whether the real `n / scale` lies in the interval. -/
def contains (i : Interval) (n : Nat) : Bool :=
  if i.closed then i.low ≤ n && n ≤ i.high else i.low < n && n < i.high

/-- The same reals counted in steps of `10 ^ exponent`. -/
def inSteps (i : Interval) (exponent : Int) : Interval :=
  let up := Nat.pow 10 (-exponent).toNat
  { i with
    low := i.low * up
    value := i.value * up
    high := i.high * up
    scale := i.scale * Nat.pow 10 exponent.toNat }

/-- The whole number of steps in the interval that is nearest to the value, the larger one when
two are equally near. -/
def wholeSteps? (i : Interval) : Option Nat :=
  let below := i.value / i.scale
  match i.contains (below * i.scale), i.contains ((below + 1) * i.scale) with
  | false, false => none
  | true, false => some below
  | false, true => some (below + 1)
  | true, true =>
    if 2 * (i.value - below * i.scale) < i.scale then some below else some (below + 1)

/-- A power of ten that no real of the interval reaches. -/
def reach (i : Interval) : Int :=
  if i.scale ≤ i.high then (toString (i.high / i.scale)).length
  else 1 - ((toString (i.scale / i.high)).length : Int)

/-- Look for a decimal on the grid of `10 ^ exponent`, then on finer and finer ones. -/
def search (i : Interval) : Nat → Int → Decimal
  | 0, exponent => ⟨(i.inSteps exponent).value / (i.inSteps exponent).scale, exponent⟩
  | rounds + 1, exponent =>
    match (i.inSteps exponent).wholeSteps? with
    | some digits => ⟨digits, exponent⟩
    | none => search i rounds (exponent - 1)

end Interval

/-- The shortest decimal that rounds to `m · 2 ^ q`, for a positive `m` below `2 ^ 53`. Twenty
grids below the leading digit are enough for every such number. -/
def shortest (m : Nat) (q : Int) (narrow : Bool) : Decimal :=
  let interval := Interval.around m q narrow
  interval.search 20 interval.reach

end Decimal

end TypedChannel
