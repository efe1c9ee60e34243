import TypedChannel.Channel.Message
import TypedChannel.Proofs.Codec
/-!
# TypedChannel.Proofs.Wire

The bytes that stand for a message.

1. A primitive is its canonical form; an array is all of its elements.
2. A string is its length and its bytes; no string at all is the length `-1`.
3. An array of strings is its count and each of them.
4. A terminated message is its payload and its terminator.
-/

namespace TypedChannel

/-- A text is read back from its UTF-8 bytes. -/
theorem Text.Utf8.decode_encode (s : String) : decode (encode s) = .ok s := by
  have hbytes : (⟨(encode s).toArray⟩ : ByteArray) = s.toUTF8 := by
    simp [encode]
  have hvalid : s.toUTF8.IsValidUTF8 := s.isValidUTF8
  unfold decode
  rw [hbytes, String.fromUTF8?, dif_pos hvalid]
  rfl

/-- Text that was read from bytes has these as its UTF-8 form. -/
theorem Text.Utf8.encode_of_decode {bytes : Bytes} {text : String} (h : decode bytes = .ok text) :
    encode text = bytes := by
  unfold decode at h
  cases htext : String.fromUTF8? ⟨bytes.toArray⟩ with
  | none => rw [htext] at h; contradiction
  | some found =>
      rw [htext] at h
      cases h
      rw [String.fromUTF8?] at htext
      split at htext
      · cases htext
        rfl
      · contradiction

theorem Text.Utf8.encode_eq_nil {s : String} : encode s = [] ↔ s = "" := by
  constructor
  · intro h
    have hempty : decode (encode s) = decode (encode "") := by rw [h]; rfl
    rwa [decode_encode, decode_encode, Except.ok.injEq] at hempty
  · rintro rfl
    rfl

/-- A number as an `int32`. -/
def int32Wire (n : Int) : Bytes := Codec.wire (.ofInt .int32 n)

@[simp] theorem length_int32Wire (n : Int) : (int32Wire n).length = 4 := Codec.length_wire _

/-- A string, given by its bytes, or the mark for none. -/
def stringWire : Option Bytes → Bytes
  | none => int32Wire nullLength
  | some bytes => int32Wire bytes.length ++ bytes

/-- Strings one after another. -/
def stringsWire (values : List (Option String)) : Bytes :=
  values.flatMap fun value => stringWire (value.map Text.Utf8.encode)

@[simp] theorem stringsWire_nil : stringsWire [] = [] := rfl

@[simp] theorem stringsWire_cons (value : Option String) (values : List (Option String)) :
    stringsWire (value :: values) =
      stringWire (value.map Text.Utf8.encode) ++ stringsWire values := List.flatMap_cons

/-- The bytes that stand for a message. -/
def Message.wire : Message → Bytes
  | primitive _ value => Codec.wire value
  | array _ values => values.flatMap Codec.wire
  | bytes content => content
  | string value => stringWire (value.map Text.Utf8.encode)
  | stringBytes value => stringWire value
  | strings values => int32Wire values.length ++ stringsWire values
  | terminated payload terminator => Text.Utf8.encode payload ++ Text.Utf8.encode terminator
  | terminatedBytes payload terminator => payload ++ terminator

/-! ## In pieces -/

/-- A string as it is handed to the transport: its length, and its bytes apart from that. -/
def stringPieces : Option Bytes → List Bytes
  | none => [int32Wire nullLength]
  | some bytes => [int32Wire bytes.length, bytes]

/-- Strings one after another. -/
def stringsPieces (values : List (Option String)) : List Bytes :=
  values.flatMap fun value => stringPieces (value.map Text.Utf8.encode)

@[simp] theorem stringsPieces_nil : stringsPieces [] = [] := rfl

@[simp] theorem stringsPieces_cons (value : Option String) (values : List (Option String)) :
    stringsPieces (value :: values) =
      stringPieces (value.map Text.Utf8.encode) ++ stringsPieces values := List.flatMap_cons

/-- The pieces that a message is handed to the transport in. -/
def Message.pieces : Message → List Bytes
  | primitive _ value => [Codec.wire value]
  | array _ values => [values.flatMap Codec.wire]
  | bytes content => [content]
  | string value => stringPieces (value.map Text.Utf8.encode)
  | stringBytes value => stringPieces value
  | strings values => int32Wire values.length :: stringsPieces values
  | terminated payload terminator => [Text.Utf8.encode payload ++ Text.Utf8.encode terminator]
  | terminatedBytes payload terminator => [payload ++ terminator]

@[simp] theorem flatten_stringPieces (value : Option Bytes) :
    (stringPieces value).flatten = stringWire value := by
  cases value <;> simp [stringPieces, stringWire]

@[simp] theorem flatten_stringsPieces (values : List (Option String)) :
    (stringsPieces values).flatten = stringsWire values := by
  induction values with
  | nil => rfl
  | cons value values ih => simp [ih]

/-- Together they are the bytes that stand for it. -/
@[simp] theorem Message.flatten_pieces (message : Message) :
    message.pieces.flatten = message.wire := by
  cases message <;> simp [pieces, wire]

/-- Whether a string fits what its length can announce and what a channel accepts. -/
def FitsString (maxStringLength : Nat) (value : Option Bytes) : Prop :=
  ∀ bytes, value = some bytes → bytes.length ≤ maxStringLength ∧ bytes.length ≤ maxAnnounced

end TypedChannel
