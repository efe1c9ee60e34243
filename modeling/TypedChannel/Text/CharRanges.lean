/-!
# TypedChannel.Text.CharRanges

Sets of characters given as a table of code point ranges, as the Unicode
property files list them.
-/

namespace TypedChannel.Text

/-- A set of code points: the union of closed ranges. -/
abbrev CharRanges := Array (Nat × Nat)

/-- Whether a character lies in one of the ranges. -/
def CharRanges.contains (ranges : CharRanges) (c : Char) : Bool :=
  ranges.any fun (first, last) => first ≤ c.toNat && c.toNat ≤ last

end TypedChannel.Text
