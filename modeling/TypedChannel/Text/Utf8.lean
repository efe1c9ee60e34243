import TypedChannel.Bytes
/-!
# TypedChannel.Text.Utf8

Text as UTF-8 bytes, and where bytes stop being text.

1. A sequence starts with a lead byte that says how many bytes follow; each of
   them lies in `80 … BF`, and after some leads the first one lies in a
   narrower range (no overlong form, no surrogate, nothing above `10FFFF`).
2. A fault is told by the index of the lead byte of the first bad sequence,
   with the number of bytes that were still good, or by the remark that the
   bytes end inside the sequence.
-/

namespace TypedChannel.Text.Utf8

/-- The UTF-8 bytes of a text. -/
def encode (s : String) : Bytes := s.toUTF8.data.toList

/-- Why bytes are not UTF-8. -/
inductive Fault where
  /-- A sequence at `index` breaks off after `length` bytes because the next one does not fit. -/
  | invalid (length index : Nat)
  /-- The bytes end inside the sequence at `index`. -/
  | incomplete (index : Nat)
  deriving DecidableEq, Repr

/-- The text of a fault. -/
def Fault.message : Fault → String
  | .invalid length index => s!"invalid utf-8 sequence of {length} bytes from index {index}"
  | .incomplete index => s!"incomplete utf-8 byte sequence from index {index}"

/-- How many bytes follow a lead byte, and the range that the first of them lies in. -/
def following? (lead : UInt8) : Option (Nat × UInt8 × UInt8) :=
  if lead < 0x80 then some (0, 0x80, 0xbf)
  else if lead < 0xc2 then none
  else if lead < 0xe0 then some (1, 0x80, 0xbf)
  else if lead = 0xe0 then some (2, 0xa0, 0xbf)
  else if lead = 0xed then some (2, 0x80, 0x9f)
  else if lead < 0xf0 then some (2, 0x80, 0xbf)
  else if lead = 0xf0 then some (3, 0x90, 0xbf)
  else if lead < 0xf4 then some (3, 0x80, 0xbf)
  else if lead = 0xf4 then some (3, 0x80, 0x8f)
  else none

/-- Read the rest of the sequence at `index`, of which `read` bytes are good and `owed` are still
to come, the next one between `low` and `high`. Gives what stands after the sequence. -/
def continueSequence (index read : Nat) : Nat → UInt8 → UInt8 → Bytes → Except Fault Bytes
  | 0, _, _, rest => .ok rest
  | _ + 1, _, _, [] => .error (.incomplete index)
  | owed + 1, low, high, b :: rest =>
    if low ≤ b && b ≤ high then continueSequence index (read + 1) owed 0x80 0xbf rest
    else .error (.invalid read index)

/-- The first fault of `bytes`, of which at most `limit` sequences are read; `index` counts the
bytes before them. -/
def faultFrom? (index : Nat) : Nat → Bytes → Option Fault
  | 0, _ => none
  | _, [] => none
  | limit + 1, lead :: rest =>
    match following? lead with
    | none => some (.invalid 1 index)
    | some (owed, low, high) =>
      match continueSequence index 1 owed low high rest with
      | .error fault => some fault
      | .ok after => faultFrom? (index + 1 + owed) limit after

/-- The first fault of `bytes`. -/
def fault? (bytes : Bytes) : Option Fault := faultFrom? 0 bytes.length bytes

/-- The text of `bytes`, or their first fault. -/
def decode (bytes : Bytes) : Except Fault String :=
  match String.fromUTF8? ⟨bytes.toArray⟩ with
  | some s => .ok s
  | none => .error ((fault? bytes).getD (.incomplete bytes.length))

end TypedChannel.Text.Utf8
