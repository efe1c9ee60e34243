import TypedChannel.Bytes
import TypedChannel.Number.FloatBits
/-!
# TypedChannel.Primitive

The ten kinds of primitive value a channel carries and the values themselves.

1. Every kind has one fixed width in bytes, the same on every host.
2. A value is its bit pattern: two values are equal exactly when all their
   bits agree, so a not-a-number keeps its payload and its signalling bit.
3. The numeric reading of the bits is two's complement for the signed kinds
   and unsigned otherwise; the text of a float is the shortest decimal that
   reads back.
-/

namespace TypedChannel

/-! ## Kinds -/

/-- What kind of primitive value a slot on the wire holds. -/
inductive PrimitiveKind where
  | int8
  | uint8
  | int16
  | uint16
  | int32
  | uint32
  | int64
  | float32
  | float64
  /-- A pointer-sized handle. -/
  | handle
  deriving DecidableEq, Repr

namespace PrimitiveKind

/-- Every kind, in the order they are numbered. -/
def all : List PrimitiveKind :=
  [int8, uint8, int16, uint16, int32, uint32, int64, float32, float64, handle]

/-- Bytes a value of this kind occupies. -/
def width : PrimitiveKind → Nat
  | int8 | uint8 => 1
  | int16 | uint16 => 2
  | int32 | uint32 | float32 => 4
  | int64 | float64 | handle => 8

/-- The name a kind is reported by. -/
def name : PrimitiveKind → String
  | int8 => "int8"
  | uint8 => "uint8"
  | int16 => "int16"
  | uint16 => "uint16"
  | int32 => "int32"
  | uint32 => "uint32"
  | int64 => "int64"
  | float32 => "float32"
  | float64 => "float64"
  | handle => "handle"

end PrimitiveKind

/-! ## Values -/

/-- A value of a primitive kind, as its bit pattern. -/
structure Primitive (kind : PrimitiveKind) where
  bits : BitVec (8 * kind.width)
  deriving DecidableEq

namespace Primitive

variable {kind : PrimitiveKind}

/-- The value with the low bits of `n`. -/
def ofNat (kind : PrimitiveKind) (n : Nat) : Primitive kind := ⟨BitVec.ofNat _ n⟩

/-- The value whose bits are the two's complement of `n`, reduced to the width of the kind. -/
def ofInt (kind : PrimitiveKind) (n : Int) : Primitive kind := ⟨BitVec.ofInt _ n⟩

/-- The bit pattern as an unsigned number. -/
def toNat (value : Primitive kind) : Nat := value.bits.toNat

/-- The number an integer kind stands for: two's complement for the signed kinds, unsigned for
the others. -/
def toInt (value : Primitive kind) : Int :=
  match kind with
  | .int8 | .int16 | .int32 | .int64 => value.bits.toInt
  | .uint8 | .uint16 | .uint32 | .float32 | .float64 | .handle => value.bits.toNat

/-- The text a value is shown by. -/
def text (value : Primitive kind) : String :=
  match kind with
  | .float32 => FloatBits.binary32.text value.toNat
  | .float64 => FloatBits.binary64.text value.toNat
  | .int8 | .uint8 | .int16 | .uint16 | .int32 | .uint32 | .int64 | .handle =>
    toString value.toInt

end Primitive

end TypedChannel
