import TypedChannel.Number.Decimal
/-!
# TypedChannel.Number.FloatBits

The binary interchange formats of floating point, read from the bit pattern:
one sign bit, then the biased exponent, then the fraction.

1. An exponent field of all ones is an infinity, or a not-a-number when the
   fraction is not zero; an exponent field of zero has no hidden bit.
2. The text of a finite number is its shortest decimal in positional form,
   with a sign also on negative zero. A not-a-number has no sign.
-/

namespace TypedChannel

/-- A binary interchange format, by the widths of its two fields. -/
structure FloatBits where
  exponentBits : Nat
  fractionBits : Nat
  deriving DecidableEq, Repr

namespace FloatBits

/-- Single precision: 32 bits. -/
def binary32 : FloatBits := ⟨8, 23⟩

/-- Double precision: 64 bits. -/
def binary64 : FloatBits := ⟨11, 52⟩

/-- What the bits of a pattern stand for, the sign apart. -/
inductive Magnitude where
  | zero
  /-- The number `mantissa · 2 ^ exponent`; `narrow` when the next smaller number is only half as
  far away as the next larger one. -/
  | finite (mantissa : Nat) (exponent : Int) (narrow : Bool)
  | infinite
  | notANumber
  deriving DecidableEq, Repr

/-- Whether the sign bit is set. -/
def isNegative (format : FloatBits) (bits : Nat) : Bool :=
  bits.testBit (format.exponentBits + format.fractionBits)

/-- Read the exponent and fraction fields. -/
def magnitude (format : FloatBits) (bits : Nat) : Magnitude :=
  let hidden := 1 <<< format.fractionBits
  let fraction := bits % hidden
  let biased := bits / hidden % (1 <<< format.exponentBits)
  let bias : Int := (1 <<< (format.exponentBits - 1) - 1 : Nat) + format.fractionBits
  if biased = 1 <<< format.exponentBits - 1 then
    if fraction = 0 then .infinite else .notANumber
  else if biased = 0 then
    if fraction = 0 then .zero else .finite fraction (1 - bias) false
  else
    .finite (hidden + fraction) (biased - bias) (fraction = 0 && 1 < biased)

/-- The text of a bit pattern. -/
def text (format : FloatBits) (bits : Nat) : String :=
  let sign := if format.isNegative bits then "-" else ""
  match format.magnitude bits with
  | .zero => sign ++ "0"
  | .finite mantissa exponent narrow =>
    sign ++ (Decimal.shortest mantissa exponent narrow).positional
  | .infinite => sign ++ "inf"
  | .notANumber => "NaN"

end FloatBits

end TypedChannel
