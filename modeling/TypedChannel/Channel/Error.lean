import TypedChannel.Codec
import TypedChannel.Text.Utf8
import TypedChannel.Transport.Error
/-!
# TypedChannel.Channel.Error

What can go wrong in sending and receiving messages.

1. A channel may be told to treat its failures as fatal; a fatal error wraps
   the error that caused it.
2. The category of an error, its peer-gone and timeout tests look at the root
   only, so wrapping changes none of them.
-/

namespace TypedChannel

/-- The coarse class of an error. -/
inductive ErrorCategory where
  /-- The other end closed or reset the connection. -/
  | peerGone
  /-- A deadline elapsed. -/
  | timeout
  /-- The bytes on the wire do not follow the message rules. -/
  | protocol
  /-- A host, a port or a socket could not be set up. -/
  | configuration
  /-- A process resource ran out. -/
  | resource
  /-- Any other failure of the operating system. -/
  | io
  deriving DecidableEq, Repr

/-- The category of a transport error. -/
def TransportError.category (e : TransportError) : ErrorCategory :=
  if e.isPeerGone then .peerGone
  else match e with
    | .timeout .. | .connectTimeout .. | .acceptTimeout .. => .timeout
    | .resolve .. | .connect .. | .bind .. | .noPeer => .configuration
    | .descriptorLimit .. => .resource
    | .accept .. | .closed | .io .. => .io

/-- A failed channel operation. -/
inductive ChannelError where
  | transport (source : TransportError)
  | codec (source : CodecError)
  /-- A length or count below what a message may announce. -/
  | invalidLength (length : Int)
  | stringTooLong (length max : Nat)
  | emptyTerminator
  /-- A datagram without the terminator in it. -/
  | terminatorNotFound (received : Nat)
  /-- A message longer than the receive buffer; its bytes were consumed through the next
  terminator. -/
  | terminatorOverflow (capacity discarded : Nat)
  /-- Fewer bytes arrived than a value of fixed size needs. -/
  | shortRead (wanted got : Nat)
  | invalidUtf8 (fault : Text.Utf8.Fault)
  /-- An error on a channel whose failures are fatal. -/
  | fatal (cause : ChannelError)
  deriving DecidableEq, Repr

namespace ChannelError

/-- The text of a channel error. -/
def message : ChannelError → String
  | transport source => source.message
  | codec source => "codec error: " ++ source.message
  | invalidLength length => s!"invalid length prefix {length}"
  | stringTooLong length max => s!"string of {length} bytes exceeds the {max}-byte limit"
  | emptyTerminator => "terminator must not be empty"
  | terminatorNotFound received => s!"terminator not found in {received} received bytes"
  | terminatorOverflow capacity discarded =>
    s!"terminated message exceeded {capacity} bytes ({discarded} bytes discarded)"
  | shortRead wanted got => s!"short read: wanted {wanted} bytes, got {got}"
  | invalidUtf8 fault => "string is not valid UTF-8: " ++ fault.message
  | fatal cause => "fatal: " ++ cause.message

def isFatal : ChannelError → Bool
  | fatal _ => true
  | _ => false

/-- The error with every fatal wrapper removed. -/
def root : ChannelError → ChannelError
  | fatal cause => cause.root
  | e => e

/-- The same for one who has no more use for the wrappers. -/
def intoRoot : ChannelError → ChannelError
  | fatal cause => cause.intoRoot
  | e => e

/-- The category of an error that is no wrapper. -/
def ownCategory : ChannelError → ErrorCategory
  | transport source => source.category
  | fatal _ => .io
  | _ => .protocol

/-- The category of an error, which is that of its root. -/
def category (e : ChannelError) : ErrorCategory := e.root.ownCategory

def isPeerGone (e : ChannelError) : Bool := e.category == .peerGone

def isTimeout (e : ChannelError) : Bool := e.category == .timeout

/-- Whether the channel stands at the start of the next message after the error, so that a reader
of many messages may skip the bad one. -/
def leavesAligned (e : ChannelError) : Bool :=
  match e.root with
  | terminatorOverflow .. | terminatorNotFound _ | invalidUtf8 _ => true
  | _ => false

end ChannelError

end TypedChannel
