import TypedChannel.Address
import TypedChannel.IoError
import TypedChannel.Time
/-!
# TypedChannel.Transport.Error

What can go wrong in moving bytes, and the text that tells it.
-/

namespace TypedChannel

/-- A failure below the level of messages. -/
inductive TransportError where
  /-- The host has no address. -/
  | resolve (host : String) (source : IoError)
  | connect (address : SocketAddress) (source : IoError)
  /-- The connection was not established in time. -/
  | connectTimeout (address : SocketAddress) (timeout : Duration)
  | bind (address : SocketAddress) (source : IoError)
  | accept (source : IoError)
  /-- No connection came in time. -/
  | acceptTimeout (timeout : Duration)
  /-- A receive of `wanted` bytes got only `received` of them in time. -/
  | timeout (timeout : Duration) (wanted received : Nat)
  /-- The peer closed the connection. -/
  | closed
  /-- A datagram was to be sent before any peer was known. -/
  | noPeer
  /-- The open-file limit could not be raised to make room beyond a descriptor. -/
  | descriptorLimit (descriptor : Int) (limit : Nat) (source : IoError)
  | io (source : IoError)
  deriving DecidableEq, Repr

namespace TransportError

/-- The text of a transport error. -/
def message : TransportError → String
  | resolve host source => s!"failed to resolve {host}: " ++ source.message
  | connect address source => "failed to connect to " ++ address.text ++ ": " ++ source.message
  | connectTimeout address limit =>
    "connect to " ++ address.text ++ " timed out after " ++ limit.text
  | bind address source => "failed to bind to " ++ address.text ++ ": " ++ source.message
  | accept source => "failed to accept connection: " ++ source.message
  | acceptTimeout limit => "no connection accepted within " ++ limit.text
  | timeout limit wanted received =>
    "timed out after " ++ limit.text ++ s!" ({received} of {wanted} bytes received)"
  | closed => "connection closed by peer"
  | noPeer => "no datagram peer to send to"
  | descriptorLimit descriptor limit source =>
    s!"descriptor {descriptor} exceeds the open-file limit ({limit}): " ++ source.message
  | io source => "transport I/O error: " ++ source.message

/-- Whether the error means that the other end has gone away. -/
def isPeerGone : TransportError → Bool
  | closed => true
  | io source =>
    (source.kind matches .brokenPipe | .connectionReset | .connectionAborted | .unexpectedEof)
  | _ => false

/-- Whether the error is a system call that a signal interrupted, so that it may be tried again. -/
def isInterrupted : TransportError → Bool
  | io source => source.kind == .interrupted
  | _ => false

end TransportError

end TypedChannel
