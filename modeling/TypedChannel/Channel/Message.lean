import TypedChannel.Channel.Traced
/-!
# TypedChannel.Channel.Message

Messages as data: what one send puts on the wire, and what the accept that
takes it asks for.

1. `Message.request` names the accept that belongs to a message; a peer that
   makes it gets an equal message, with the exceptions that the wire itself
   makes: a string is the same as its bytes, and a terminator is not returned.
-/

namespace TypedChannel

/-- What one send operation carries. -/
inductive Message where
  | primitive (kind : PrimitiveKind) (value : Primitive kind)
  | array (kind : PrimitiveKind) (values : List (Primitive kind))
  | bytes (content : Bytes)
  | string (value : Option String)
  | stringBytes (value : Option Bytes)
  | strings (values : List (Option String))
  | terminated (payload terminator : String)
  | terminatedBytes (payload terminator : Bytes)

/-- What one accept operation asks for. -/
inductive Request where
  | primitive (kind : PrimitiveKind)
  | array (kind : PrimitiveKind) (count : Nat)
  /-- An array whose elements go into slots of the caller. -/
  | slots (kind : PrimitiveKind) (count : Nat)
  | bytes (count : Nat)
  | string
  | stringBytes
  | strings
  | terminated (terminator : String)
  | terminatedBytes (terminator : Bytes)

/-- The request that takes a message. -/
def Message.request : Message → Request
  | primitive kind _ => .primitive kind
  | array kind values => .array kind values.length
  | bytes content => .bytes content.length
  | string _ => .string
  | stringBytes _ => .stringBytes
  | strings _ => .strings
  | terminated _ terminator => .terminated terminator
  | terminatedBytes _ terminator => .terminatedBytes terminator

namespace Channel

variable {σ ω : Type} [World ω] [Transport ω σ]

/-- Send a message. -/
def sendMessage : Message → ChannelAction σ ω Unit
  | .primitive _ value => send value
  | .array _ values => sendArray values
  | .bytes content => sendBytes content
  | .string value => sendString value
  | .stringBytes value => sendStringBytes value
  | .strings values => sendStringArray values
  | .terminated payload terminator => sendTerminated payload terminator
  | .terminatedBytes payload terminator => sendTerminatedBytes payload terminator

/-- Send a message and trace it, if its kind can be traced. -/
def sendMessageTraced (depth : Nat) (description : String) : Message → ChannelAction σ ω Unit
  | .primitive _ value => sendTraced depth description value
  | .array _ values => sendArrayTraced depth description values
  | .bytes content => sendBytesTraced depth description content
  | .string value => sendStringTraced depth description value
  | .strings values => sendStringArrayTraced depth description values
  | .terminated payload terminator => sendTerminatedTraced depth description payload terminator
  | message => sendMessage message

/-- Accept what a request asks for. -/
def acceptMessage (options : ReceiveOptions) : Request → ChannelAction σ ω Message
  | .primitive kind => return .primitive kind (← accept kind options)
  | .array kind count => return .array kind (← acceptArray kind count options)
  | .slots kind count =>
    (do acceptInto options; return .array kind (← Action.see (·.2)) : FillAction σ ω kind _).on
      (fun state => (state, List.replicate count (.ofNat kind 0))) (fun (state, _) _ => state)
  | .bytes count => return .bytes (← acceptBytes count options)
  | .string => return .string (← acceptString options)
  | .stringBytes => return .stringBytes (← acceptStringBytes options)
  | .strings => return .strings (← acceptStringArray options)
  | .terminated terminator => return .terminated (← acceptTerminated terminator options) terminator
  | .terminatedBytes terminator =>
    return .terminatedBytes (← acceptTerminatedBytes terminator options) terminator

/-- Accept what a request asks for and trace it, if its kind can be traced. -/
def acceptMessageTraced (depth : Nat) (description : String) (options : ReceiveOptions) :
    Request → ChannelAction σ ω Message
  | .primitive kind => return .primitive kind (← acceptTraced depth description kind options)
  | .array kind count =>
    return .array kind (← acceptArrayTraced depth description kind count options)
  | .bytes count => return .bytes (← acceptBytesTraced depth description count options)
  | .string => return .string (← acceptStringTraced depth description options)
  | .strings => return .strings (← acceptStringArrayTraced depth description options)
  | .terminated terminator =>
    return .terminated (← acceptTerminatedTraced depth description terminator options) terminator
  | request => acceptMessage options request

end Channel

end TypedChannel
