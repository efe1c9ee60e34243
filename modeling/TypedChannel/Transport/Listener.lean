import TypedChannel.Transport.Socket
/-!
# TypedChannel.Transport.Listener

A bound socket that hands out handles.

1. A stream listener hands out one handle for each connection; it waits for
   one no longer than it is told to.
2. A datagram listener has nothing to wait for: each handle is a duplicate of
   the bound socket, and the last one is that socket itself.
3. Accepting for the last time closes the listener, whether it succeeds or not.
-/

namespace TypedChannel

/-- A bound socket. -/
structure SocketListener where
  kind : SocketKind
  /-- The number of the listener, or of the datagram socket, on its host. -/
  number : Nat
  address : SocketAddress
  descriptor : Nat
  deriving DecidableEq, Repr

namespace SocketListener

open HostWorld (onHost)

variable {ω ε : Type} [HostWorld ω]

/-! ## Binding -/

/-- Bind a socket to an address. -/
def bind (kind : SocketKind) (address : SocketAddress) :
    Action ω TransportError SocketListener :=
  Socket.holdingEnvironment <| Socket.withSocket (.bind address) fun descriptor => do
    let bound ← onHost <| Action.mapError (.bind address) do
      Host.check .setOption
      let bound ← Socket.bindAddress kind address
      if kind = .stream then
        Host.check .listen
      Host.check .localAddress
      return bound
    let number ← onHost (Action.step fun host =>
      let (number, network) := match kind with
        | .stream => host.network.openListener bound
        | .datagram => host.network.openDatagrams bound
      (number, { host with network }))
    Socket.note
      { level := .info, origin := .sockets, message := "listening",
        fields := [("local_addr", .shown bound.text), ("kind", .shown kind.name)] }
    return { kind, number, address := bound, descriptor }

/-- The address for a port on all interfaces of version 4. -/
def onPort (port : UInt16) : SocketAddress := { ip := .unspecified .v4, port }

/-! ## Accepting -/

/-- Whether an accept would not block. -/
def isReady (listener : SocketListener) (host : Host) : Bool :=
  match listener.kind with
  | .stream => host.network.isListenerReady listener.number
  | .datagram => host.network.isDatagramReady listener.number

/-- Open a descriptor for the next stream. -/
def acceptStream (listener : SocketListener) : Action Host IoError (Nat × Nat) := do
  Host.check .accept
  let descriptor ← Host.openDescriptor
  match ← Action.step fun host =>
      let (stream, network) := host.network.acceptNext listener.number
      (stream, { host with network }) with
  | some stream => return (stream, descriptor)
  | none => Action.never

/-- One round of accepting a stream: an interrupted attempt is made again. -/
def acceptRound (listener : SocketListener) (_ : Unit) :
    Action ω TransportError (Round Unit Handle) := do
  HostWorld.await listener.isReady
  match ← Action.attempt (onHost listener.acceptStream) with
  | .error e => if e.kind = .interrupted then return .again () else Action.fail (.accept e)
  | .ok (stream, descriptor) =>
    let handle := Handle.stream stream .server descriptor
    (onHost (Host.ensureCapacity descriptor)).undoing fun w =>
      HostWorld.setHost
        (({ HostWorld.host w with
            network := (HostWorld.host w).network.changeStream stream (Stream.closeSide .server) }
          : Host).closeDescriptor descriptor) w
    let peer ← onHost (Action.see fun host =>
      ((host.network.streams[stream]?).map (·.client.address.text)).getD "")
    Socket.note
      { level := .debug, origin := .sockets, message := "accepted connection",
        fields := [("peer", .shown peer), ("fd", .number descriptor)] }
    onHost (Action.change Host.acquireEnvironment)
    return .done handle

/-- Accept a stream, or give up when none comes within the timeout. -/
def acceptWithin (listener : SocketListener) (timeout : Option Duration) :
    Action ω TransportError Handle := do
  if ← (HostWorld.waitReady listener.isReady timeout).mapError .accept then
    Action.iterate listener.acceptRound ()
  else
    Action.fail (.acceptTimeout (timeout.getD .zero))

/-- A handle on a duplicate of a datagram socket. -/
def duplicate (listener : SocketListener) : Action ω TransportError Handle := do
  let descriptor ← (onHost Host.openDescriptor).mapError .accept
  Socket.holding descriptor (onHost (Host.ensureCapacity descriptor))
  onHost <| Action.change fun host =>
    ({ host with
        network := host.network.changeDatagrams listener.number
          fun d => { d with holders := d.holders + 1 } }
      : Host).acquireEnvironment
  return .datagram listener.number .server none descriptor

/-- Accept a peer and keep listening. -/
def accept (listener : SocketListener) (timeout : Option Duration) :
    Action ω TransportError Handle :=
  match listener.kind with
  | .stream => listener.acceptWithin timeout
  | .datagram => listener.duplicate

/-! ## Closing -/

/-- Close a bound socket. -/
def release (listener : SocketListener) (host : Host) : Host :=
  let network := match listener.kind with
    | .stream => host.network.closeListener listener.number
    | .datagram => host.network.changeDatagrams listener.number
        fun d => { d with holders := d.holders - 1 }
  ({ host with network } : Host).closeDescriptor listener.descriptor |>.releaseEnvironment

/-- Close a listener. -/
def close (listener : SocketListener) : Action ω ε Unit :=
  onHost (Action.change listener.release)

/-- Accept a peer and stop listening. -/
def acceptOnce (listener : SocketListener) (timeout : Option Duration) :
    Action ω TransportError Handle := do
  let closed : Action ω TransportError Unit := Socket.note
    { level := .debug, origin := .sockets, message := "listener closed after accept",
      fields := [("local_addr", .shown listener.address.text)] }
  match listener.kind with
  | .stream =>
    match ← Action.attempt (listener.acceptWithin timeout) with
    | .error e =>
      listener.close
      Action.fail e
    | .ok handle =>
      closed
      listener.close
      return handle
  | .datagram =>
    onHost (Action.change Host.acquireEnvironment)
    closed
    onHost (Action.change Host.releaseEnvironment)
    return .datagram listener.number .server none listener.descriptor

/-- How a bound socket shows itself. -/
def describe (listener : SocketListener) : String :=
  let kind := match listener.kind with
    | .stream => "Stream"
    | .datagram => "Datagram"
  "SocketListener \x7b kind: " ++ kind ++ ", local_addr: " ++ listener.address.text ++ " \x7d"

end SocketListener

end TypedChannel
