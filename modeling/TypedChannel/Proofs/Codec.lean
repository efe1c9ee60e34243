import Mathlib.Algebra.Group.Nat.Defs
import TypedChannel.Codec
/-!
# TypedChannel.Proofs.Codec

The canonical form of a primitive as plain bytes: its bits, most significant
byte first, in the width of its kind.

1. A host's bytes are put into the order of the wire and back by the same
   rearrangement (`ByteOrder.arrange`).
2. A slot holds them behind zeros (`padded`), and what is read of a slot are
   the low-order bytes behind whatever stands in front (`lowOrder`).
3. So no byte order is left in what is written of a value, nor in what is read
   of a slot.

* `encode_eq_wire`: encoding never refuses a value for the slot of its own kind.
* `decode_wire`: decoding that slot gives the value back, bit for bit.
* `hostIndependent`: both in slots of every width, between any two hosts.
-/

namespace TypedChannel

namespace Bytes

/-- As many numbers fit in `width` bytes as in their bits. -/
theorem valueCount_eq (width : Nat) : valueCount width = 2 ^ (8 * width) := by
  induction width with
  | zero => rfl
  | succ width ih =>
      rw [valueCount, ih, Nat.mul_succ, Nat.pow_add, Nat.mul_comm]

/-- Any run of bytes is the written form of the number it stands for. -/
theorem bigEndian_ofBigEndian (bytes : Bytes) :
    bigEndian bytes.length (ofBigEndian bytes) = bytes := by
  have hreverse := littleEndian_ofLittleEndian bytes.reverse
  rw [List.length_reverse] at hreverse
  rw [bigEndian, ofBigEndian, hreverse, List.reverse_reverse]

end Bytes

/-- The bytes of a host, put into the order of the wire; and the bytes of the wire, put into the
order of a host. -/
def ByteOrder.arrange (order : ByteOrder) (bytes : Bytes) : Bytes :=
  match order with
  | .little => bytes.reverse
  | .big => bytes

@[simp] theorem ByteOrder.length_arrange (order : ByteOrder) (bytes : Bytes) :
    (order.arrange bytes).length = bytes.length := by
  cases order <;> simp [arrange]

@[simp] theorem ByteOrder.arrange_arrange (order : ByteOrder) (bytes : Bytes) :
    order.arrange (order.arrange bytes) = bytes := by
  cases order <;> simp [arrange]

namespace Codec

/-! ## Slots -/

/-- `bytes` behind as many zeros as a slot of `width` bytes has room for. -/
def padded (width : Nat) (bytes : Bytes) : Bytes :=
  List.replicate (width - bytes.length) 0 ++ bytes

/-- The last `width` bytes of a slot. -/
def lowOrder (width : Nat) (canonical : Bytes) : Bytes :=
  canonical.drop (canonical.length - width)

theorem length_padded {width : Nat} {bytes : Bytes} (h : bytes.length ≤ width) :
    (padded width bytes).length = width := by
  rw [padded, List.length_append, List.length_replicate]
  omega

theorem length_lowOrder {width : Nat} {canonical : Bytes} (h : width ≤ canonical.length) :
    (lowOrder width canonical).length = width := by
  rw [lowOrder, List.length_drop]
  omega

/-- Bytes that need the whole slot. -/
theorem padded_eq_self {width : Nat} {bytes : Bytes} (h : bytes.length = width) :
    padded width bytes = bytes := by
  simp [padded, h]

theorem lowOrder_eq_self {width : Nat} {canonical : Bytes} (h : canonical.length = width) :
    lowOrder width canonical = canonical := by
  simp [lowOrder, h]

/-- What is put behind zeros is found there. -/
theorem lowOrder_padded {width : Nat} {bytes : Bytes} (h : bytes.length ≤ width) :
    lowOrder bytes.length (padded width bytes) = bytes := by
  rw [lowOrder, length_padded h, padded]
  exact List.drop_left' List.length_replicate

/-! ## Raw bytes -/

variable {order order' : ByteOrder}

theorem canonicalize_eq {bytes : Bytes} {width : Nat} (h : bytes.length ≤ width) :
    canonicalize order bytes width = .ok (padded width (order.arrange bytes)) := by
  rw [canonicalize, if_neg (by omega)]
  cases order <;> simp [padded, ByteOrder.arrange]

theorem canonicalize_narrowing {bytes : Bytes} {width : Nat} (h : width < bytes.length) :
    canonicalize order bytes width = .error (.narrowing bytes.length width) := by
  rw [canonicalize, if_pos h]

theorem decanonicalize_eq {canonical : Bytes} {width : Nat} (h : width ≤ canonical.length) :
    decanonicalize order canonical width = .ok (order.arrange (lowOrder width canonical)) := by
  rw [decanonicalize, if_neg (by omega)]
  cases order <;> rfl

theorem decanonicalize_widening {canonical : Bytes} {width : Nat} (h : canonical.length < width) :
    decanonicalize order canonical width = .error (.widening canonical.length width) := by
  rw [decanonicalize, if_pos h]

/-- A slot that is wide enough is filled, and nothing of what it held is left. -/
theorem store_eq {bytes slot : Bytes} (h : bytes.length ≤ slot.length) :
    store order bytes slot = (none, padded slot.length (order.arrange bytes)) := by
  rw [store, canonicalize_eq h]

theorem store_narrowing {bytes slot : Bytes} (h : slot.length < bytes.length) :
    store order bytes slot = (some (.narrowing bytes.length slot.length), slot) := by
  rw [store, canonicalize_narrowing h]

/-- A stored run of bytes is what another host reads, in its own order. -/
theorem decanonicalize_padded {bytes : Bytes} {width : Nat} (h : bytes.length ≤ width) :
    decanonicalize order' (padded width (order.arrange bytes)) bytes.length =
      .ok (order'.arrange (order.arrange bytes)) := by
  have hlength : (order.arrange bytes).length = bytes.length := order.length_arrange bytes
  rw [decanonicalize_eq (by rw [length_padded (by omega)]; exact h), ← hlength,
    lowOrder_padded (by omega)]

/-- What was read of a slot is stored again as the bytes that it was read from. -/
theorem store_arrange {canonical slot : Bytes} {width : Nat} (h : width ≤ canonical.length)
    (hslot : slot.length = width) :
    store order (order.arrange (lowOrder width canonical)) slot =
      (none, lowOrder width canonical) := by
  have hlow : (lowOrder width canonical).length = slot.length := by rw [length_lowOrder h, hslot]
  rw [store_eq (by simp [hlow]), order.arrange_arrange, padded_eq_self hlow]

/-! ## Values -/

variable {kind : PrimitiveKind}

/-- The canonical form of a value. -/
def wire (value : Primitive kind) : Bytes := Bytes.bigEndian kind.width value.toNat

/-- The value that a canonical form stands for. -/
def ofWire (kind : PrimitiveKind) (bytes : Bytes) : Primitive kind :=
  .ofNat kind (Bytes.ofBigEndian bytes)

@[simp] theorem length_wire (value : Primitive kind) : (wire value).length = kind.width :=
  Bytes.length_bigEndian _ _

@[simp] theorem ofWire_wire (value : Primitive kind) : ofWire kind (wire value) = value := by
  rw [ofWire, wire, Bytes.ofBigEndian_bigEndian, Bytes.valueCount_eq]
  cases value with
  | mk bits => simp [Primitive.ofNat, Primitive.toNat]

theorem wire_ofWire {bytes : Bytes} (h : bytes.length = kind.width) :
    wire (ofWire kind bytes) = bytes := by
  have hvalue : (ofWire kind bytes).toNat =
      Bytes.ofBigEndian bytes % Bytes.valueCount kind.width := by
    rw [Bytes.valueCount_eq]
    simp [ofWire, Primitive.ofNat, Primitive.toNat]
  -- The bytes of a number are fewer than those that could stand for more than it.
  have hsmall : Bytes.ofBigEndian bytes % Bytes.valueCount kind.width =
      Bytes.ofBigEndian bytes := by
    rw [← h, ← Bytes.ofBigEndian_bigEndian, Bytes.bigEndian_ofBigEndian]
  rw [wire, hvalue, hsmall, ← h, Bytes.bigEndian_ofBigEndian]

/-- A host holds the canonical form of a value in its own order. -/
theorem nativeBytes_eq (value : Primitive kind) :
    nativeBytes order value = order.arrange (wire value) := by
  cases order <;> simp [nativeBytes, wire, ByteOrder.arrange, Bytes.bigEndian]

theorem ofNativeBytes_arrange (bytes : Bytes) :
    ofNativeBytes kind order (order.arrange bytes) = ofWire kind bytes := by
  cases order <;> rfl

theorem length_nativeBytes (value : Primitive kind) :
    (nativeBytes order value).length = kind.width := by
  rw [nativeBytes_eq, order.length_arrange, length_wire]

theorem encodeWith_eq {value : Primitive kind} {width : Nat} (h : kind.width ≤ width) :
    encodeWith order value width = .ok (padded width (wire value)) := by
  rw [encodeWith, canonicalize_eq (by rwa [length_nativeBytes]), nativeBytes_eq,
    order.arrange_arrange]

/-- What a value fills a slot with does not depend on the host. -/
theorem encodeInto_eq {value : Primitive kind} {slot : Bytes} (h : kind.width ≤ slot.length) :
    encodeInto order value slot = (none, padded slot.length (wire value)) := by
  rw [encodeInto, store_eq (by rwa [length_nativeBytes]), nativeBytes_eq, order.arrange_arrange]

theorem encodeInto_narrowing {value : Primitive kind} {slot : Bytes}
    (h : slot.length < kind.width) :
    encodeInto order value slot = (some (.narrowing kind.width slot.length), slot) := by
  rw [encodeInto, store_narrowing (by rwa [length_nativeBytes]), length_nativeBytes]

/-- What is read of a slot depends on its low-order bytes alone. -/
theorem decodeWith_eq {canonical : Bytes} (h : kind.width ≤ canonical.length) :
    decodeWith kind order canonical = .ok (ofWire kind (lowOrder kind.width canonical)) := by
  rw [decodeWith, decanonicalize_eq h, Except.map, ofNativeBytes_arrange]

theorem decodeWith_widening {canonical : Bytes} (h : canonical.length < kind.width) :
    decodeWith kind order canonical = .error (.widening canonical.length kind.width) := by
  rw [decodeWith, decanonicalize_widening h, Except.map]

theorem decodeWith_padded {value : Primitive kind} {width : Nat} (h : kind.width ≤ width) :
    decodeWith kind order (padded width (wire value)) = .ok value := by
  have hlength : (wire value).length = kind.width := length_wire value
  rw [decodeWith_eq (by rw [length_padded (by omega)]; exact h), ← hlength,
    lowOrder_padded (by omega), ofWire_wire]

/-- Encoding a value into the slot of its own kind gives its canonical form. -/
theorem encode_eq_wire (value : Primitive kind) : encode value = .ok (wire value) := by
  rw [encode, encodeWith_eq (Nat.le_refl _), padded_eq_self (length_wire value)]

/-- Decoding the canonical form gives the value back. -/
theorem decode_wire (value : Primitive kind) : decode kind (wire value) = .ok value := by
  rw [decode, decodeWith_eq (Nat.le_of_eq (length_wire value).symm),
    lowOrder_eq_self (length_wire value), ofWire_wire]

/-- Values are encoded back to back. -/
theorem foldlM_append_eq (values : List (Primitive kind)) (before : Bytes) :
    values.foldlM append before = .ok (before ++ values.flatMap wire) := by
  induction values generalizing before with
  | nil => simp [pure, Except.pure]
  | cons value values ih =>
      have hvalue : append before value = .ok (before ++ wire value) := by
        rw [append, encode_eq_wire, Except.map]
      rw [List.foldlM_cons, hvalue]
      show values.foldlM append (before ++ wire value) = _
      rw [ih, List.flatMap_cons, List.append_assoc]

/-! ## From host to host -/

/-- What a host makes of a value, and another one of what it has made, in a slot of any width. -/
structure Crosses (order order' : ByteOrder) (value : Primitive kind) (slot : Bytes) : Prop where
  /-- A slot that is too narrow is left as it was. -/
  narrow : slot.length < kind.width →
    encodeWith order value slot.length = .error (.narrowing kind.width slot.length) ∧
      encodeInto order value slot = (some (.narrowing kind.width slot.length), slot)
  /-- Any other one is filled, with nothing in it that tells the host or what it held. -/
  filled : kind.width ≤ slot.length →
    encodeWith order value slot.length = .ok (padded slot.length (wire value)) ∧
      encodeInto order value slot = (none, padded slot.length (wire value)) ∧
      decodeWith kind order' (padded slot.length (wire value)) = .ok value

/-- What a host makes of the canonical bytes that it is given, and another one of what that was. -/
structure Reads (kind : PrimitiveKind) (order order' : ByteOrder) (canonical : Bytes) : Prop where
  short : canonical.length < kind.width →
    decodeWith kind order canonical = .error (.widening canonical.length kind.width)
  /-- The low-order bytes alone make the value, and the value makes them again. -/
  value : kind.width ≤ canonical.length → ∃ value,
    decodeWith kind order canonical = .ok value ∧
      (∀ other : Bytes, kind.width ≤ other.length →
        lowOrder kind.width other = lowOrder kind.width canonical →
        decodeWith kind order' other = .ok value) ∧
      ∀ slot : Bytes, slot.length = kind.width →
        encodeInto order' value slot = (none, lowOrder kind.width canonical)

/-- The same for a run of bytes that a host has stored. -/
structure CrossesRaw (order order' : ByteOrder) (bytes slot : Bytes) : Prop where
  narrow : slot.length < bytes.length →
    store order bytes slot = (some (.narrowing bytes.length slot.length), slot)
  filled : bytes.length ≤ slot.length →
    store order bytes slot = (none, padded slot.length (order.arrange bytes)) ∧
      decanonicalize order (padded slot.length (order.arrange bytes)) bytes.length = .ok bytes ∧
      decanonicalize order' (padded slot.length (order.arrange bytes)) bytes.length =
        .ok (order'.arrange (order.arrange bytes))

/-- The same for a run of bytes that a host takes from a slot. -/
structure ReadsRaw (order : ByteOrder) (canonical : Bytes) (width : Nat) : Prop where
  short : canonical.length < width →
    decanonicalize order canonical width = .error (.widening canonical.length width)
  bytes : width ≤ canonical.length → ∃ bytes,
    decanonicalize order canonical width = .ok bytes ∧ bytes.length = width ∧
      (∀ other : Bytes, width ≤ other.length → lowOrder width other = lowOrder width canonical →
        decanonicalize order other width = .ok bytes) ∧
      ∀ slot : Bytes, slot.length = width →
        store order bytes slot = (none, lowOrder width canonical)

theorem crosses (value : Primitive kind) (slot : Bytes) : Crosses order order' value slot where
  narrow h := by
    refine ⟨?_, encodeInto_narrowing h⟩
    rw [encodeWith, canonicalize_narrowing (by rwa [length_nativeBytes]), length_nativeBytes]
  filled h := ⟨encodeWith_eq h, encodeInto_eq h, decodeWith_padded h⟩

theorem reads (canonical : Bytes) : Reads kind order order' canonical where
  short h := decodeWith_widening h
  value h := by
    refine ⟨ofWire kind (lowOrder kind.width canonical), decodeWith_eq h, ?_, ?_⟩
    · intro other hother hsame
      rw [decodeWith_eq hother, hsame]
    · intro slot hslot
      have hlow := length_lowOrder h
      rw [encodeInto_eq (by omega), wire_ofWire hlow, padded_eq_self (by rw [hlow, hslot])]

theorem crossesRaw (bytes slot : Bytes) : CrossesRaw order order' bytes slot where
  narrow h := store_narrowing h
  filled h := by
    refine ⟨store_eq h, ?_, decanonicalize_padded h⟩
    rw [decanonicalize_padded h, order.arrange_arrange]

theorem readsRaw (canonical : Bytes) (width : Nat) : ReadsRaw order canonical width where
  short h := decanonicalize_widening h
  bytes h := by
    refine ⟨order.arrange (lowOrder width canonical), decanonicalize_eq h, ?_, ?_, ?_⟩
    · rw [order.length_arrange, length_lowOrder h]
    · intro other hother hsame
      rw [decanonicalize_eq hother, hsame]
    · exact fun slot hslot => store_arrange h hslot

/-- The wire form is the same for all hosts and loses nothing, for values of every kind and for
raw bytes, in slots of every width. -/
theorem hostIndependent (order order' : ByteOrder) :
    (∀ (kind : PrimitiveKind) (value : Primitive kind) (slot : Bytes),
      Crosses order order' value slot) ∧
    (∀ (kind : PrimitiveKind) (canonical : Bytes), Reads kind order order' canonical) ∧
    (∀ bytes slot : Bytes, CrossesRaw order order' bytes slot) ∧
    ∀ (canonical : Bytes) (width : Nat), ReadsRaw order canonical width :=
  ⟨fun _ => crosses, fun _ => reads, crossesRaw, readsRaw⟩

/-- A number of two bytes from a little-endian host to a big-endian one, in a slot of three, and
the refusal of a slot of one. -/
theorem hostIndependent_int16 :
    encodeInto .little (.ofInt .int16 (-2)) [9, 9, 9] = (none, [0, 255, 254]) ∧
      decodeWith .int16 .big [0, 255, 254] = .ok (.ofInt .int16 (-2)) ∧
      encodeInto .little (.ofInt .int16 (-2)) [9] = (some (.narrowing 2 1), [9]) := by
  have hcrosses := (hostIndependent .little .big).1 .int16 (.ofInt .int16 (-2))
  obtain ⟨-, hfilled, hread⟩ := (hcrosses [9, 9, 9]).filled (by decide)
  exact ⟨hfilled, hread, ((hcrosses [9]).narrow (by decide)).2⟩

end Codec

/-! ## Announced numbers -/

/-- A number that an `int32` can announce is read back from it. -/
theorem Primitive.toInt_ofInt_int32 {n : Int} (hlow : -2147483648 ≤ n) (hhigh : n ≤ 2147483647) :
    (Primitive.ofInt .int32 n).toInt = n := by
  show (BitVec.ofInt 32 n).toInt = n
  rw [BitVec.toInt_ofInt, Int.bmod_eq_of_le]
  · simpa using hlow
  · omega

/-- Its four bytes hold no more than the number that they stand for. -/
theorem Primitive.ofInt_toInt_int32 (value : Primitive .int32) :
    Primitive.ofInt .int32 value.toInt = value :=
  congrArg Primitive.mk BitVec.ofInt_toInt

end TypedChannel
