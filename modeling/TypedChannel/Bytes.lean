/-!
# TypedChannel.Bytes

Runs of bytes and the few operations on them that the wire formats need: the
place where a pattern first occurs, and unsigned numbers written in a fixed
number of bytes.

1. A number is written in `width` bytes, least significant byte first
   (`littleEndian`) or most significant byte first (`bigEndian`); digits above
   `valueCount width` are dropped.
2. `ofLittleEndian` and `ofBigEndian` read any run of bytes back.

This module depends only on the Lean 4 core library.
-/

namespace TypedChannel

/-- A finite run of bytes, in the order they travel. -/
abbrev Bytes := List UInt8

namespace Bytes

/-! ## Searching -/

/-- How many bytes stand before the leftmost occurrence of `pattern`, if there is one. -/
def indexOf? (pattern : Bytes) : Bytes → Option Nat
  | [] => if pattern.isEmpty then some 0 else none
  | b :: bs =>
    if pattern.isPrefixOf (b :: bs) then some 0 else (indexOf? pattern bs).map (· + 1)

/-! ## Numbers as bytes -/

/-- How many numbers fit in `width` bytes. -/
def valueCount : Nat → Nat
  | 0 => 1
  | width + 1 => 256 * valueCount width

/-- The low `width` bytes of `n`, least significant first. -/
def littleEndian : Nat → Nat → Bytes
  | 0, _ => []
  | width + 1, n => UInt8.ofNat n :: littleEndian width (n / 256)

/-- The low `width` bytes of `n`, most significant first. -/
def bigEndian (width n : Nat) : Bytes := (littleEndian width n).reverse

/-- The number whose bytes are given least significant first. -/
def ofLittleEndian : Bytes → Nat
  | [] => 0
  | b :: bs => b.toNat + 256 * ofLittleEndian bs

/-- The number whose bytes are given most significant first. -/
def ofBigEndian (bytes : Bytes) : Nat := ofLittleEndian bytes.reverse

@[simp]
theorem length_littleEndian (width n : Nat) : (littleEndian width n).length = width := by
  induction width generalizing n with
  | zero => rfl
  | succ width ih => simp [littleEndian, ih]

@[simp]
theorem length_bigEndian (width n : Nat) : (bigEndian width n).length = width := by
  simp [bigEndian]

/-- Reading back gives the number reduced to the width it was written in. -/
theorem ofLittleEndian_littleEndian (width n : Nat) :
    ofLittleEndian (littleEndian width n) = n % valueCount width := by
  induction width generalizing n with
  | zero => simp [littleEndian, ofLittleEndian, valueCount, Nat.mod_one]
  | succ width ih =>
    have low : (UInt8.ofNat n).toNat = n % 256 := UInt8.toNat_ofNat'
    rw [valueCount, Nat.mod_mul, littleEndian, ofLittleEndian, ih, low]

theorem ofBigEndian_bigEndian (width n : Nat) :
    ofBigEndian (bigEndian width n) = n % valueCount width := by
  simp [ofBigEndian, bigEndian, ofLittleEndian_littleEndian]

/-- Any run of bytes is the written form of the number it stands for. -/
theorem littleEndian_ofLittleEndian (bytes : Bytes) :
    littleEndian bytes.length (ofLittleEndian bytes) = bytes := by
  induction bytes with
  | nil => rfl
  | cons b bs ih =>
    have hb : b.toNat < 256 := b.toNat_lt
    have hdiv : (b.toNat + 256 * ofLittleEndian bs) / 256 = ofLittleEndian bs := by omega
    have hlow : UInt8.ofNat (b.toNat + 256 * ofLittleEndian bs) = b := by
      apply UInt8.toNat_inj.mp
      rw [UInt8.toNat_ofNat']
      omega
    simp [littleEndian, ofLittleEndian, hdiv, hlow, ih]

end Bytes

end TypedChannel
