/-!
# TypedChannel.Transport.Kind

How bytes travel between two ends, and which end is which.
-/

namespace TypedChannel

/-- How bytes travel. -/
inductive TransportKind where
  /-- A connected byte stream. -/
  | stream
  /-- Messages that arrive whole or not at all. -/
  | datagram
  /-- One end of a local pipe. -/
  | pipe
  deriving DecidableEq, Repr

def TransportKind.name : TransportKind → String
  | .stream => "stream"
  | .datagram => "datagram"
  | .pipe => "pipe"

/-- What kind of socket to open. -/
inductive SocketKind where
  | stream
  | datagram
  deriving DecidableEq, Repr

def SocketKind.transport : SocketKind → TransportKind
  | .stream => .stream
  | .datagram => .datagram

def SocketKind.name (kind : SocketKind) : String := kind.transport.name

/-- Which side of a conversation an end is. -/
inductive Role where
  /-- It reached out. -/
  | client
  /-- A listener handed it out. -/
  | server
  /-- An end of a pipe. -/
  | localEnd
  deriving DecidableEq, Repr

/-- How a role shows itself. -/
def Role.describe : Role → String
  | .client => "Client"
  | .server => "Server"
  | .localEnd => "Local"

end TypedChannel
