/-!
# TypedChannel.Log

Log events as data: a level, the place that tells of the event, a message and
named values.
-/

namespace TypedChannel.Log

/-- How grave an event is. -/
inductive Level where
  | error
  | warn
  | info
  | debug
  | trace
  deriving DecidableEq, Repr

/-- The part of the program that tells of an event. -/
inductive Origin where
  | environment
  | descriptors
  | pipes
  | sockets
  | buffering
  | channel
  | receiving
  | sending
  | tracing
  | connecting
  | listening
  | pipeChannels
  | echoServer
  deriving DecidableEq, Repr

/-- The name an origin is logged by. -/
def Origin.name : Origin → String
  | .environment => "wirechan_transport::env"
  | .descriptors => "wirechan_transport::fdlimit"
  | .pipes => "wirechan_transport::pipe"
  | .sockets => "wirechan_transport::socket"
  | .buffering => "wirechan_transport::buffered"
  | .channel => "wirechan_frame::channel"
  | .receiving => "wirechan_frame::reader"
  | .sending => "wirechan_frame::writer"
  | .tracing => "wirechan_frame::trace"
  | .connecting => "wirechan_peer::connector"
  | .listening => "wirechan_peer::listener"
  | .pipeChannels => "wirechan_peer::pipe"
  | .echoServer => "wirechan::cmd::echo"

/-- A value that an event carries. -/
inductive Value where
  | number (n : Int)
  /-- A text, quoted where the log is text. -/
  | text (s : String)
  /-- A value as it shows itself, never quoted in a text log. -/
  | shown (s : String)
  deriving DecidableEq, Repr

/-- One event. -/
structure Event where
  level : Level
  origin : Origin
  message : String
  fields : List (String × Value)
  deriving DecidableEq, Repr

end TypedChannel.Log
