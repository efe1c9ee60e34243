import TypedChannel.Transport.Basic
/-!
# TypedChannel.Transport.Buffered

A transport with a buffer of `capacity` bytes in each direction around another
transport.

1. Writes collect in `pending`. They go on when the buffer would overflow, on
   a flush, and when the handle is closed; a write as large as the buffer goes
   straight through once nothing is pending.
2. Reads are served from `unread` while it lasts. Otherwise a read as large as
   the buffer goes straight through, and a smaller one first fills the buffer
   with one read from within.
3. While bytes are unread the transport is ready for any timeout.
4. A drain that fails keeps exactly the bytes that were not accepted.
-/

namespace TypedChannel

/-- The capacity that is used when none is asked for. -/
def defaultBufferCapacity : Nat := 8 * 1024

/-- A transport `σ` with buffers around it. -/
structure Buffered (σ : Type) where
  inner : σ
  /-- Bytes taken from within and not yet handed out. -/
  unread : Bytes
  /-- Bytes accepted and not yet handed on. -/
  pending : Bytes
  /-- The size of each buffer. -/
  capacity : Nat
  /-- Whether closing the handle drains it; set by the first write that is held back. -/
  drainsOnClose : Bool

namespace Buffered

variable {ω σ α ε : Type}

/-- Empty buffers of `capacity` bytes, at least one, around a transport. -/
def wrap (capacity : Nat) (inner : σ) : Buffered σ :=
  { inner, unread := [], pending := [], capacity := max capacity 1, drainsOnClose := false }

/-- Run an operation of the transport within. -/
@[inline] def within (x : Action (σ × ω) ε α) : Action (Buffered σ × ω) ε α :=
  x.on (fun (b, w) => (b.inner, w)) (fun (inner, w) (b, _) => ({ b with inner }, w))

/-- Change the buffers. -/
@[inline] def changeBuffers (f : Buffered σ → Buffered σ) : Action (Buffered σ × ω) ε Unit :=
  Action.change fun (b, w) => (f b, w)

variable [Transport ω σ]

/-! ## Reading -/

/-- Hand out at most `room` unread bytes. -/
def serve (room : Nat) : Action (Buffered σ × ω) ε Bytes :=
  Action.step fun (b, w) =>
    (b.unread.take room, ({ b with unread := b.unread.drop room }, w))

/-- What stands in a slot once `front` was written over its start. -/
def overwrite (front slot : Bytes) : Bytes := front ++ slot.drop front.length

/-- Fill the buffer with one read from within, which finds zeros there: a buffer is laid out before
the read and cut to what came after it. -/
def refill : Action (Buffered σ × ω) TransportError Unit := do
  let b ← Transport.handle
  changeBuffers ({ · with unread := List.replicate b.capacity 0 })
  match ← Action.attempt (within (Transport.readRaw b.capacity)) with
  | .ok chunk =>
    changeBuffers fun b => { b with unread := (overwrite chunk b.unread).take chunk.length }
  | .error e =>
    changeBuffers ({ · with unread := [] })
    Action.fail e

/-- Take at most `room` bytes. -/
def readRaw (room : Nat) : Action (Buffered σ × ω) TransportError Bytes := do
  let b ← Transport.handle
  if room = 0 then
    return []
  else if !b.unread.isEmpty then
    serve room
  else if b.capacity ≤ room then
    within (Transport.readRaw room)
  else
    refill
    serve room

/-- Whether a read would find something. -/
def pollReadable (timeout : Option Duration) : Action (Buffered σ × ω) TransportError Bool := do
  let b ← Transport.handle
  if !b.unread.isEmpty then return true else within (Transport.pollReadable timeout)

/-! ## Writing -/

/-- One round of a drain: offer the pending bytes and drop those that were accepted. -/
def drainRound (_ : Unit) : Action (Buffered σ × ω) TransportError (Round Unit Unit) := do
  let b ← Transport.handle
  if b.pending.isEmpty then
    return .done ()
  match ← Action.attempt (within (Transport.writeRaw b.pending)) with
  | .error e => if e.isInterrupted then return .again () else Action.fail e
  | .ok accepted =>
    if accepted = 0 then
      Action.fail .closed
    else
      changeBuffers fun b => { b with pending := b.pending.drop accepted }
      return .again ()

/-- Hand the pending bytes on until none is left. -/
def drain : Action (Buffered σ × ω) TransportError Unit :=
  Action.iterate drainRound ()

/-- Accept bytes. -/
def writeRaw (bytes : Bytes) : Action (Buffered σ × ω) TransportError Nat := do
  let b ← Transport.handle
  if b.capacity < b.pending.length + bytes.length then
    drain
  if b.capacity ≤ bytes.length then
    within (Transport.writeRaw bytes)
  else
    changeBuffers fun b => { b with pending := b.pending ++ bytes, drainsOnClose := true }
    return bytes.length

/-- Hand on what is pending, here and within. -/
def flushRaw : Action (Buffered σ × ω) TransportError Unit := do
  drain
  within Transport.flushRaw

/-- Try to hand on what is pending before the handle goes. What is not accepted is lost, and the
log is told. -/
def settle [World ω] : Action (Buffered σ × ω) Empty Unit := do
  let b ← Transport.handle
  if b.pending.isEmpty || !b.drainsOnClose then
    return ()
  match ← Action.attempt drain with
  | .ok () => return ()
  | .error e =>
    let b ← Transport.handle
    Transport.note
      { level := .warn, origin := .buffering, message := "unflushed bytes lost on drop",
        fields := [("error", .shown e.message), ("pending", .number b.pending.length)] }

/-- Try to hand on what is pending, then close the transport within. -/
def close [World ω] : Action (Buffered σ × ω) Empty Unit := do
  settle
  within Transport.close

instance [World ω] : Transport ω (Buffered σ) where
  kind b := Transport.kind ω b.inner
  readRaw := readRaw
  pollReadable := pollReadable
  writeRaw := writeRaw
  flushRaw := flushRaw
  close := close

end Buffered

/-! ## Layers -/

/-- A transport `σ` under `n` layers of buffers. -/
def Layered (σ : Type) : Nat → Type
  | 0 => σ
  | n + 1 => Buffered (Layered σ n)

/-- A transport under any number of buffers is a transport. -/
instance Layered.transport {ω σ : Type} [World ω] [Transport ω σ] :
    (n : Nat) → Transport ω (Layered σ n)
  | 0 => inferInstanceAs (Transport ω σ)
  | n + 1 =>
    have := Layered.transport (ω := ω) (σ := σ) n
    inferInstanceAs (Transport ω (Buffered (Layered σ n)))

end TypedChannel
