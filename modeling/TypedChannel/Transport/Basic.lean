import TypedChannel.Bytes
import TypedChannel.Transport.Error
import TypedChannel.Transport.Kind
import TypedChannel.World
/-!
# TypedChannel.Transport.Basic

A transport moves bytes between two ends, a few at a time. The two loops here
turn it into one that moves a whole request:

1. `receive` asks for readiness before every single read and never offers more
   room than is still empty. An interrupted read is tried again; any other
   failure ends the request, and so does a readiness check that runs out.
2. `transmit` writes until nothing is left. An interrupted write is tried
   again from the same place; a write that accepts nothing means that the peer
   has gone.
-/

namespace TypedChannel

/-- A handle `σ` through which bytes move in a world `ω`. -/
class Transport (ω σ : Type) where
  kind : σ → TransportKind
  /-- Take at most `room` bytes. Streams and pipes report the end as `closed`; on datagrams one
  read takes one datagram and drops what does not fit. -/
  readRaw : (room : Nat) → Action (σ × ω) TransportError Bytes
  /-- Whether a read would find something within the timeout. Without one the answer is always
  yes, and the caller goes on to a read that blocks. -/
  pollReadable : (timeout : Option Duration) → Action (σ × ω) TransportError Bool
  /-- Offer bytes, and learn how many of them were accepted. -/
  writeRaw : (bytes : Bytes) → Action (σ × ω) TransportError Nat
  /-- Push out bytes that are held back. -/
  flushRaw : Action (σ × ω) TransportError Unit
  /-- Give the handle up. -/
  close : Action (σ × ω) Empty Unit

namespace Transport

variable {ω σ : Type}

/-- The handle of a running operation. -/
def handle : Action (σ × ω) ε σ := Action.see (·.1)

/-- Change the world of a running operation. -/
def inWorld (f : ω → α × ω) : Action (σ × ω) ε α :=
  Action.step fun (h, w) => let (a, w) := f w; (a, (h, w))

/-- Tell the log of an event. -/
def note [World ω] (event : Log.Event) : Action (σ × ω) ε Unit :=
  inWorld fun w => ((), World.note event w)

variable [World ω] [Transport ω σ]

/-- One round of a receive: with `got` already there, wait for more and take it. -/
def receiveRound (wanted : Nat) (timeout : Option Duration) (everything : Bool)
    (deadline : Deadline) (got : Bytes) : Action (σ × ω) TransportError (Round Bytes Bytes) := do
  if wanted ≤ got.length then
    return .done got
  let ready ← pollReadable (← inWorld deadline.remainingNow)
  if !ready then
    Action.fail (.timeout (timeout.getD .zero) wanted got.length)
  else
    match ← Action.attempt (readRaw (wanted - got.length)) with
    | .error e => if e.isInterrupted then return .again got else Action.fail e
    | .ok chunk =>
      if !everything && !chunk.isEmpty then return .done (got ++ chunk)
      else return .again (got ++ chunk)

/-- Receive `wanted` bytes within the timeout, or without `everything` whatever the first read
that finds something gives. -/
def receive (wanted : Nat) (timeout : Option Duration) (everything : Bool) :
    Action (σ × ω) TransportError Bytes := do
  let deadline ← inWorld (Deadline.startNow timeout)
  Action.iterate (receiveRound wanted timeout everything deadline) []

omit [World ω] in
/-- One round of a transmit: offer what is left. -/
def transmitRound (left : Bytes) : Action (σ × ω) TransportError (Round Bytes Unit) := do
  if left.isEmpty then
    return .done ()
  match ← Action.attempt (writeRaw left) with
  | .error e => if e.isInterrupted then return .again left else Action.fail e
  | .ok accepted => if accepted = 0 then Action.fail .closed else return .again (left.drop accepted)

omit [World ω] in
/-- Send all of `bytes`. -/
def transmit (bytes : Bytes) : Action (σ × ω) TransportError Unit :=
  Action.iterate transmitRound bytes

end Transport

end TypedChannel
