import TypedChannel.Channel.Send
/-!
# TypedChannel.Channel.Receive

The receiving half of a channel: each operation here takes what the one of the
same name in the sending half put on the wire.

1. An operation made of several receives has one deadline for all of them.
2. A string announces its length. A length below the mark for no string is
   refused, and so is one beyond the limit; neither takes more than the length
   itself from the wire.
3. A terminated message on datagrams is one datagram, cut at the leftmost
   terminator.
4. On a stream or a pipe its bytes are taken one at a time, so nothing behind
   the terminator is touched. A message that does not fit in the buffer is
   read through its terminator and dropped, so the next one is aligned.
-/

namespace TypedChannel

namespace Channel

variable {σ ω : Type} [World ω] [Transport ω σ]

/-! ## Bytes -/

/-- Receive at most `wanted` bytes and count them. -/
def acceptBytes (wanted : Nat) (options : ReceiveOptions) : ChannelAction σ ω Bytes := do
  let bytes ← orFail
    (← onTransport (Transport.receive wanted options.timeout options.everything))
  countReceived bytes.length
  note { level := .trace, origin := .receiving, message := "received",
         fields := [("bytes", .number bytes.length)] }
  return bytes

/-- Receive exactly `wanted` bytes. -/
def acceptExactly (wanted : Nat) (options : ReceiveOptions) : ChannelAction σ ω Bytes := do
  let bytes ← acceptBytes wanted options.complete
  if bytes.length < wanted then
    fail (.shortRead wanted bytes.length)
  else
    return bytes

/-- The options for what is left of a deadline. -/
def optionsWithin (options : ReceiveOptions) (deadline : Deadline) :
    ChannelAction σ ω ReceiveOptions := do
  let timeout ← inWorld deadline.remainingNow
  return { options with timeout }

/-- Whether a receive would find something within the timeout. -/
def messageReady (timeout : Option Duration) : ChannelAction σ ω Bool := do
  orFail (← onTransport (Transport.pollReadable timeout))

/-! ## Primitives -/

/-- The value in a canonical slot; a slot that cannot be decoded is a failure of the channel. -/
def decodeSlot (kind : PrimitiveKind) (wire : Bytes) : ChannelAction σ ω (Primitive kind) :=
  match Codec.decode kind wire with
  | .ok value => pure value
  | .error e => fail (.codec e)

/-- Receive one primitive. -/
def accept (kind : PrimitiveKind) (options : ReceiveOptions) :
    ChannelAction σ ω (Primitive kind) := do
  decodeSlot kind (← acceptExactly kind.width options)

/-- An operation on a channel together with slots of its caller that it fills. -/
abbrev FillAction (σ ω : Type) (kind : PrimitiveKind) (α : Type) : Type :=
  Action ((Channel σ × Surroundings ω) × List (Primitive kind)) ChannelError α

/-- Run an operation that does not touch the slots. -/
@[inline] def besideSlots {kind : PrimitiveKind} {α : Type} (x : ChannelAction σ ω α) :
    FillAction σ ω kind α :=
  x.on Prod.fst (fun state (_, slots) => (state, slots))

/-- Decode `count` values from `wire` into the slots from number `index` on. -/
def fillSlots {kind : PrimitiveKind} (index : Nat) : Nat → Bytes → FillAction σ ω kind Unit
  | 0, _ => pure ()
  | count + 1, wire => do
    let value ← besideSlots (decodeSlot kind (wire.take kind.width))
    Action.change fun (state, slots) => (state, slots.set index value)
    fillSlots (index + 1) count (wire.drop kind.width)

/-- Fill all slots with primitives that were sent as one array. -/
def acceptInto {kind : PrimitiveKind} (options : ReceiveOptions) : FillAction σ ω kind Unit := do
  let count := (← Action.see (·.2)).length
  let wire ← besideSlots (acceptExactly (count * kind.width) options)
  fillSlots 0 count wire

/-- Receive `count` primitives that were sent as one array. -/
def acceptArray (kind : PrimitiveKind) (count : Nat) (options : ReceiveOptions) :
    ChannelAction σ ω (List (Primitive kind)) :=
  (do acceptInto options; Action.see (·.2) : FillAction σ ω kind _).on
    (fun state => (state, List.replicate count (.ofNat kind 0))) (fun (state, _) _ => state)

/-! ## Strings -/

/-- The text of received bytes. -/
def decodeText (bytes : Bytes) : ChannelAction σ ω String :=
  match Text.Utf8.decode bytes with
  | .ok text => pure text
  | .error fault => fail (.invalidUtf8 fault)

/-- Receive the bytes of a string, or the mark for none. -/
def acceptStringBytes (options : ReceiveOptions) : ChannelAction σ ω (Option Bytes) := do
  let deadline ← inWorld (Deadline.startNow options.timeout)
  let length := (← accept .int32 options).toInt
  if length = nullLength then
    return none
  else if length < nullLength then
    fail (.invalidLength length)
  else
    let max := (← settings).maxStringLength
    if max < length.toNat then
      fail (.stringTooLong length.toNat max)
    else
      return some (← acceptExactly length.toNat (← optionsWithin options deadline))

/-- Receive a string, or the mark for none. -/
def acceptString (options : ReceiveOptions) : ChannelAction σ ω (Option String) := do
  match ← acceptStringBytes options with
  | none => return none
  | some bytes => return some (← decodeText bytes)

/-- Receive `count` strings; `received` are there already, the last one first. -/
def acceptStrings (options : ReceiveOptions) (deadline : Deadline) :
    Nat → List (Option String) → ChannelAction σ ω (List (Option String))
  | 0, received => pure received.reverse
  | count + 1, received => do
    let value ← acceptString (← optionsWithin options deadline)
    acceptStrings options deadline count (value :: received)

/-- Receive a count and then that many strings. -/
def acceptStringArray (options : ReceiveOptions) : ChannelAction σ ω (List (Option String)) := do
  let deadline ← inWorld (Deadline.startNow options.timeout)
  let count := (← accept .int32 options).toInt
  if count < 0 then
    fail (.invalidLength count)
  else
    acceptStrings options deadline count.toNat []

/-! ## Terminated messages -/

/-- Receive one byte before the deadline. -/
def acceptByte (options : ReceiveOptions) (deadline : Deadline) : ChannelAction σ ω UInt8 := do
  let bytes ← acceptExactly 1 (← optionsWithin options deadline)
  return bytes.headD 0

/-- One datagram as a message. -/
def acceptTerminatedDatagram (terminator : Bytes) (options : ReceiveOptions) :
    ChannelAction σ ω Bytes := do
  let datagram ← acceptBytes (← settings).terminatedBufferSize options.partial
  match Bytes.indexOf? terminator datagram with
  | some length => return datagram.take length
  | none => fail (.terminatorNotFound datagram.length)

/-- One round of filling the buffer: `room` bytes still fit, and `seen` are there, the last one
first. Ends with the payload once the terminator is there, or with the full buffer. -/
def terminatedRound (terminator : Bytes) (options : ReceiveOptions) (deadline : Deadline) :
    Nat × Bytes → ChannelAction σ ω (Round (Nat × Bytes) (Bytes ⊕ Bytes))
  | (0, seen) => return .done (.inr seen)
  | (room + 1, seen) => do
    let seen := (← acceptByte options deadline) :: seen
    if terminator.reverse.isPrefixOf seen then
      return .done (.inl (seen.drop terminator.length).reverse)
    else
      return .again (room, seen)

/-- One round of skipping: take a byte, and look at the last ones for the terminator. `window`
holds them, the last one first, and `consumed` counts all bytes taken. -/
def resyncRound (terminator : Bytes) (options : ReceiveOptions) (deadline : Deadline) :
    Nat × Bytes → ChannelAction σ ω (Round (Nat × Bytes) Nat)
  | (consumed, window) => do
    let window := ((← acceptByte options deadline) :: window).take terminator.length
    if window = terminator.reverse then
      return .done (consumed + 1)
    else
      return .again (consumed + 1, window)

/-- A message that ends with the terminator in a stream. -/
def acceptTerminatedStream (terminator : Bytes) (options : ReceiveOptions) :
    ChannelAction σ ω Bytes := do
  let capacity := (← settings).terminatedBufferSize
  let deadline ← inWorld (Deadline.startNow options.timeout)
  match ← Action.iterate (terminatedRound terminator options deadline) (capacity, []) with
  | .inl payload => return payload
  | .inr full =>
    let consumed ← Action.iterate (resyncRound terminator options deadline)
      (capacity, full.take (terminator.length - 1))
    fail (.terminatorOverflow capacity (consumed - terminator.length))

/-- Receive the bytes before a terminator, which is taken but not returned. -/
def acceptTerminatedBytes (terminator : Bytes) (options : ReceiveOptions) :
    ChannelAction σ ω Bytes := do
  if terminator.isEmpty then
    fail .emptyTerminator
  else
    match Transport.kind ω (← Action.see (·.1.transport)) with
    | .datagram => acceptTerminatedDatagram terminator options
    | .stream | .pipe => acceptTerminatedStream terminator options

/-- Receive the text before a terminator. -/
def acceptTerminated (terminator : String) (options : ReceiveOptions) :
    ChannelAction σ ω String := do
  decodeText (← acceptTerminatedBytes (Text.Utf8.encode terminator) options)

end Channel

end TypedChannel
