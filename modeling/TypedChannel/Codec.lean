import TypedChannel.Primitive
/-!
# TypedChannel.Codec

The canonical wire form of primitive values.

1. A canonical slot holds its value most significant byte first, whatever the
   byte order of the host.
2. Encoding fills the whole slot: a value narrower than the slot is extended
   with zeros in front, and a value wider than the slot is refused.
3. Decoding takes the low-order bytes of the slot; a slot narrower than the
   value is refused.
-/

namespace TypedChannel

/-- The byte order in which a host lays out a number in memory. -/
inductive ByteOrder where
  | little
  | big
  deriving DecidableEq, Repr

/-- The byte order of the host this library describes. -/
def ByteOrder.host : ByteOrder := .little

/-- Why a primitive could not be moved between native and canonical form; both cases carry the
two widths in bytes. -/
inductive CodecError where
  /-- The native value is wider than its canonical slot. -/
  | narrowing (source target : Nat)
  /-- The canonical value is narrower than the native slot. -/
  | widening (source target : Nat)
  deriving DecidableEq, Repr

/-- The text of a codec error. -/
def CodecError.message : CodecError → String
  | .narrowing source target =>
    s!"cannot narrow a {source}-byte value into a {target}-byte canonical slot"
  | .widening source target =>
    s!"cannot widen a {source}-byte canonical value into a {target}-byte native slot"

namespace Codec

/-! ## Raw bytes -/

/-- The content of a slot of `width` bytes that receives the host's bytes `bytes`. -/
def canonicalize (order : ByteOrder) (bytes : Bytes) (width : Nat) : Except CodecError Bytes :=
  if bytes.length > width then
    .error (.narrowing bytes.length width)
  else
    let zeros := List.replicate (width - bytes.length) 0
    match order with
    | .little => .ok (bytes ++ zeros).reverse
    | .big => .ok (zeros ++ bytes)

/-- The `width` native bytes of a canonical slot. -/
def decanonicalize (order : ByteOrder) (canonical : Bytes) (width : Nat) :
    Except CodecError Bytes :=
  if canonical.length < width then
    .error (.widening canonical.length width)
  else
    let low := canonical.drop (canonical.length - width)
    match order with
    | .little => .ok low.reverse
    | .big => .ok low

/-- Store the canonical form of `bytes` in a slot. A refused value leaves the slot as it was. -/
def store (order : ByteOrder) (bytes slot : Bytes) : Option CodecError × Bytes :=
  match canonicalize order bytes slot.length with
  | .ok filled => (none, filled)
  | .error e => (some e, slot)

/-! ## Primitive values -/

variable {kind : PrimitiveKind}

/-- The bytes of a value as a host of byte order `order` holds them. -/
def nativeBytes (order : ByteOrder) (value : Primitive kind) : Bytes :=
  match order with
  | .little => Bytes.littleEndian kind.width value.toNat
  | .big => Bytes.bigEndian kind.width value.toNat

/-- The value that a host of byte order `order` reads from its own bytes. -/
def ofNativeBytes (kind : PrimitiveKind) (order : ByteOrder) (bytes : Bytes) : Primitive kind :=
  match order with
  | .little => .ofNat kind (Bytes.ofLittleEndian bytes)
  | .big => .ofNat kind (Bytes.ofBigEndian bytes)

/-- Encode a value into a canonical slot of `width` bytes, as a host of byte order `order`. -/
def encodeWith (order : ByteOrder) (value : Primitive kind) (width : Nat) :
    Except CodecError Bytes :=
  canonicalize order (nativeBytes order value) width

/-- Store the canonical form of a value in a slot, as a host of byte order `order`. -/
def encodeInto (order : ByteOrder) (value : Primitive kind) (slot : Bytes) :
    Option CodecError × Bytes :=
  store order (nativeBytes order value) slot

/-- Decode a value from a canonical slot, as a host of byte order `order`. -/
def decodeWith (kind : PrimitiveKind) (order : ByteOrder) (canonical : Bytes) :
    Except CodecError (Primitive kind) :=
  (decanonicalize order canonical kind.width).map (ofNativeBytes kind order)

/-- Encode a value into the slot of its own kind. -/
def encode (value : Primitive kind) : Except CodecError Bytes :=
  encodeWith .host value kind.width

/-- Decode a value of the given kind from a canonical slot. -/
def decode (kind : PrimitiveKind) (canonical : Bytes) : Except CodecError (Primitive kind) :=
  decodeWith kind .host canonical

/-- `wire` followed by the canonical form of `value`. -/
def append (wire : Bytes) (value : Primitive kind) : Except CodecError Bytes :=
  (encode value).map (wire ++ ·)

end Codec

end TypedChannel
