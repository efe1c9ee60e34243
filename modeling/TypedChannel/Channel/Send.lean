import TypedChannel.Channel.Basic
/-!
# TypedChannel.Channel.Send

The sending half of a channel.

1. A primitive is one transmit of its canonical form; an array is one transmit
   of all its elements back to back, without a count.
2. A string is an `int32` length and then its bytes, as two transmits, so that
   a peer on datagrams reads them with matching sizes. The length `-1` alone
   stands for no string at all.
3. An array of strings is an `int32` count and then each string.
4. A terminated message is its payload and its terminator in one transmit.
-/

namespace TypedChannel

/-- The length that stands for no string. -/
def nullLength : Int := -1

/-- The largest length that an `int32` can announce. -/
def maxAnnounced : Nat := 2147483647

namespace Channel

variable {σ ω : Type} [World ω] [Transport ω σ]

/-- Transmit `bytes` and count them. -/
def sendBytes (bytes : Bytes) : ChannelAction σ ω Unit := do
  orFail (← onTransport (Transport.transmit bytes))
  countSent bytes.length
  note { level := .trace, origin := .sending, message := "sent",
         fields := [("bytes", .number bytes.length)] }

/-- Send one primitive. -/
def send {kind : PrimitiveKind} (value : Primitive kind) : ChannelAction σ ω Unit := do
  match Codec.encode value with
  | .ok wire => sendBytes wire
  | .error e => fail (.codec e)

/-- Send primitives back to back. -/
def sendArray {kind : PrimitiveKind} (values : List (Primitive kind)) :
    ChannelAction σ ω Unit := do
  match values.foldlM Codec.append [] with
  | .ok wire => sendBytes wire
  | .error e => fail (.codec e)

/-- Send the bytes of a string, or the mark for none. -/
def sendStringBytes (value : Option Bytes) : ChannelAction σ ω Unit := do
  match value with
  | none => send (.ofInt .int32 nullLength)
  | some bytes =>
    let max := (← settings).maxStringLength
    if max < bytes.length || maxAnnounced < bytes.length then
      fail (.stringTooLong bytes.length max)
    else
      send (.ofInt .int32 bytes.length)
      sendBytes bytes

/-- Send a string, or the mark for none. -/
def sendString (value : Option String) : ChannelAction σ ω Unit :=
  sendStringBytes (value.map Text.Utf8.encode)

/-- Send strings one after another. -/
def sendStrings : List (Option String) → ChannelAction σ ω Unit
  | [] => pure ()
  | value :: values => do
    sendString value
    sendStrings values

/-- Send a count and then that many strings. -/
def sendStringArray (values : List (Option String)) : ChannelAction σ ω Unit := do
  if maxAnnounced < values.length then
    fail (.stringTooLong values.length maxAnnounced)
  else
    send (.ofInt .int32 values.length)
    sendStrings values

/-- Send a payload and its terminator. -/
def sendTerminatedBytes (payload terminator : Bytes) : ChannelAction σ ω Unit :=
  if terminator.isEmpty then fail .emptyTerminator else sendBytes (payload ++ terminator)

/-- Send a text and its terminator. -/
def sendTerminated (payload terminator : String) : ChannelAction σ ω Unit :=
  sendTerminatedBytes (Text.Utf8.encode payload) (Text.Utf8.encode terminator)

/-- Push out bytes that a buffer holds back. -/
def flush : ChannelAction σ ω Unit := do
  orFail (← onTransport Transport.flushRaw)

end Channel

end TypedChannel
