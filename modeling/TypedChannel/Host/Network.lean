import TypedChannel.Address
import TypedChannel.Bytes
import TypedChannel.Transport.Kind
/-!
# TypedChannel.Host.Network

The sockets of one host and what is on its way between them.

1. An address in `127.x.x.x`, `0.0.0.0`, `::1` and `::` is this host itself;
   a socket there is found by its kind, its family and its port.
2. A stream is two runs of bytes, one each way, that end when the writing side
   closes. A listener queues a few connections until they are accepted.
3. A datagram goes to the socket that holds its port or is lost. Duplicates of
   a datagram socket share one queue.
4. Free ports are given out in order.
-/

namespace TypedChannel

/-! ## Addresses -/

namespace IpAddress

/-- Whether an address is the host itself. -/
def isHere : IpAddress → Bool
  | v4 (127 :: _) => true
  | v4 octets => octets == [0, 0, 0, 0]
  | v6 groups => groups.take 7 == [0, 0, 0, 0, 0, 0, 0] && (groups.getLast?.getD 2) < 2

/-- Whether connections to an address are never answered. -/
def isSilent (ip : IpAddress) : Bool := ip == v4 [10, 255, 255, 1]

end IpAddress

/-! ## Sockets -/

/-- The two ends of a stream. -/
inductive Side where
  | client
  | server
  deriving DecidableEq, Repr

def Side.other : Side → Side
  | client => server
  | server => client

/-- One end of a stream: its address, whether it is open, and what it has yet to read. -/
structure StreamEnd where
  address : SocketAddress
  isOpen : Bool := true
  incoming : Bytes := []
  deriving DecidableEq, Repr

/-- A stream between two sockets. -/
structure Stream where
  client : StreamEnd
  server : StreamEnd
  /-- Whether the listener went away before it accepted the connection. -/
  wasReset : Bool := false
  deriving DecidableEq, Repr

namespace Stream

def atSide (stream : Stream) : Side → StreamEnd
  | .client => stream.client
  | .server => stream.server

def setSide (stream : Stream) (side : Side) (value : StreamEnd) : Stream :=
  match side with
  | .client => { stream with client := value }
  | .server => { stream with server := value }

/-- Take at most `room` bytes at `side`. -/
def take (side : Side) (room : Nat) (stream : Stream) : Bytes × Stream :=
  let own := stream.atSide side
  (own.incoming.take room, stream.setSide side { own with incoming := own.incoming.drop room })

/-- Put bytes in at `side`, for the other side to take. -/
def put (side : Side) (bytes : Bytes) (stream : Stream) : Stream :=
  let peer := stream.atSide side.other
  stream.setSide side.other { peer with incoming := peer.incoming ++ bytes }

/-- Close the end at `side`. -/
def closeSide (side : Side) (stream : Stream) : Stream :=
  stream.setSide side { stream.atSide side with isOpen := false }

/-- Break a stream off at its server's side. -/
def reset (stream : Stream) : Stream := { stream.closeSide .server with wasReset := true }

/-- Whether a read at `side` would find bytes, the end or an error. -/
def isReady (stream : Stream) (side : Side) : Bool :=
  !(stream.atSide side).incoming.isEmpty || !(stream.atSide side.other).isOpen || stream.wasReset

end Stream

/-- A socket that waits for streams. -/
structure StreamListener where
  address : SocketAddress
  isOpen : Bool := true
  /-- Streams that wait to be accepted, by number. -/
  queue : List Nat := []
  deriving DecidableEq, Repr

/-- A socket for datagrams. -/
structure DatagramSocket where
  address : SocketAddress
  /-- How many handles hold it. -/
  holders : Nat := 1
  /-- Datagrams that wait to be read, with their senders. -/
  queue : List (Bytes × SocketAddress) := []
  deriving DecidableEq, Repr

/-- All sockets of a host, by number. -/
structure Network where
  streams : List Stream := []
  listeners : List StreamListener := []
  datagrams : List DatagramSocket := []
  /-- The next port to give out. -/
  nextPort : Nat := 40000
  /-- Whether there is an interface at all; without one nothing can be reached. -/
  hasInterface : Bool := true
  /-- The addresses of host names. -/
  names : List (String × List IpAddress) := []
  deriving DecidableEq, Repr

namespace Network

/-- The most streams that a listener queues. -/
def backlog : Nat := 2

/-- How the host's own sockets of a port are seen from its other sockets. -/
def visible (address : SocketAddress) : SocketAddress :=
  { ip := .loopback address.family, port := address.port }

/-- Whether `address` can be reached. -/
def reaches (network : Network) (address : SocketAddress) : Bool :=
  network.hasInterface && address.ip.isHere

/-! ## Ports -/

/-- The port itself, or a free one instead of port 0. -/
def portOrFree (port : UInt16) (network : Network) : UInt16 × Network :=
  if port = 0 then
    (network.nextPort.toUInt16, { network with nextPort := network.nextPort + 1 })
  else (port, network)

/-- Whether an address has the port and the family of another. -/
def sharesPort (a b : SocketAddress) : Bool := a.family == b.family && a.port == b.port

/-- The number of the open listener that a stream to `address` reaches. -/
def listenerAt? (network : Network) (address : SocketAddress) : Option Nat :=
  network.listeners.findIdx? fun l => l.isOpen && sharesPort l.address address

/-- The number of the open socket that a datagram to `address` reaches. -/
def datagramAt? (network : Network) (address : SocketAddress) : Option Nat :=
  network.datagrams.findIdx? fun d => d.holders != 0 && sharesPort d.address address

/-- Whether a stream has an open end at the port. -/
def hasEndAt (address : SocketAddress) (stream : Stream) : Bool :=
  [stream.client, stream.server].any fun own => own.isOpen && sharesPort own.address address

/-- Whether a socket of this kind holds the port. -/
def isTaken (network : Network) (kind : SocketKind) (address : SocketAddress) : Bool :=
  match kind with
  | .stream => (network.listenerAt? address).isSome || network.streams.any (hasEndAt address)
  | .datagram => (network.datagramAt? address).isSome

/-! ## Streams -/

/-- Change one stream. -/
def changeStream (number : Nat) (f : Stream → Stream) (network : Network) : Network :=
  { network with streams := network.streams.modify number f }

/-- Whether a read at one end of a stream would not block. -/
def isStreamReady (number : Nat) (side : Side) (network : Network) : Bool :=
  (network.streams[number]?).all (·.isReady side)

/-- Establish a stream to a listener, which has yet to accept it. -/
def establish (client server : SocketAddress) (listener : Nat) (network : Network) :
    Nat × Network :=
  let number := network.streams.length
  (number,
    { network with
      streams := network.streams ++ [{ client := { address := client },
                                       server := { address := server } }]
      listeners := network.listeners.modify listener
        fun l => { l with queue := l.queue ++ [number] } })

/-! ## Listeners -/

/-- Start to wait for streams. -/
def openListener (address : SocketAddress) (network : Network) : Nat × Network :=
  (network.listeners.length, { network with listeners := network.listeners ++ [{ address }] })

/-- Whether a listener has a stream to accept. -/
def isListenerReady (number : Nat) (network : Network) : Bool :=
  (network.listeners[number]?).any (!·.queue.isEmpty)

/-- The stream that a listener accepts next. -/
def acceptNext (number : Nat) (network : Network) : Option Nat × Network :=
  match (network.listeners[number]?).map (·.queue) with
  | some (stream :: queue) =>
    (some stream,
      { network with listeners := network.listeners.modify number ({ · with queue }) })
  | _ => (none, network)

/-- Close a listener; the streams that it has not accepted are reset. -/
def closeListener (number : Nat) (network : Network) : Network :=
  let queue := ((network.listeners[number]?).map (·.queue)).getD []
  let network := queue.foldl (fun network stream => network.changeStream stream Stream.reset)
    network
  { network with
    listeners := network.listeners.modify number ({ · with isOpen := false, queue := [] }) }

/-! ## Datagrams -/

/-- Change one datagram socket. -/
def changeDatagrams (number : Nat) (f : DatagramSocket → DatagramSocket) (network : Network) :
    Network :=
  { network with datagrams := network.datagrams.modify number f }

/-- Open a socket for datagrams. -/
def openDatagrams (address : SocketAddress) (network : Network) : Nat × Network :=
  (network.datagrams.length, { network with datagrams := network.datagrams ++ [{ address }] })

/-- Whether a datagram waits. -/
def isDatagramReady (number : Nat) (network : Network) : Bool :=
  (network.datagrams[number]?).any (!·.queue.isEmpty)

/-- Take the first datagram that waits, with its sender. -/
def takeDatagram (number : Nat) (network : Network) :
    Option (Bytes × SocketAddress) × Network :=
  match (network.datagrams[number]?).map (·.queue) with
  | some (first :: queue) => (some first, network.changeDatagrams number ({ · with queue }))
  | _ => (none, network)

/-- Carry a datagram from a socket to whoever holds the port. -/
def carry (sender : Nat) (target : SocketAddress) (bytes : Bytes) (network : Network) :
    Network :=
  match network.datagrams[sender]?, network.datagramAt? target with
  | some socket, some receiver =>
    network.changeDatagrams receiver
      fun d => { d with queue := d.queue ++ [(bytes, visible socket.address)] }
  | _, _ => network

end Network

end TypedChannel
