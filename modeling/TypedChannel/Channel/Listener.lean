import TypedChannel.Channel.Open
import TypedChannel.Transport.Listener
/-!
# TypedChannel.Channel.Listener

Listening for peers and opening a channel for each.

1. A failure to bind comes back as it is; a failure to accept passes through
   the error policy of the listener's channels.
2. A time without peers is no more than a remark in the debug log.
-/

namespace TypedChannel

/-- A listener whose channels get the settings `config`. -/
structure ChannelListener where
  socket : SocketListener
  config : ChannelConfig
  deriving DecidableEq, Repr

namespace ChannelListener

variable {ω ε : Type} [HostWorld ω]

/-- Listen on an address. -/
def bind (kind : SocketKind) (address : SocketAddress) (config : ChannelConfig) :
    Action (Surroundings ω) ChannelError ChannelListener := do
  match ← Action.attempt (Surroundings.outside (SocketListener.bind kind address)) with
  | .ok socket => return { socket, config }
  | .error e =>
    Surroundings.tell
      { level := .warn, origin := .listening, message := "listen failed",
        fields := [("error", .shown e.message)] }
    Action.fail (.transport e)

/-- A channel over an accepted handle. -/
def openAccepted (config : ChannelConfig) (accepted : Except TransportError Handle) :
    Action (Surroundings ω) ChannelError (Channel Handle) := do
  match accepted with
  | .ok handle =>
    let peer ← Action.see fun around => Socket.peerText (HostWorld.host around.world) handle
    Surroundings.tell
      { level := .debug, origin := .listening, message := "server channel ready",
        fields := [("peer", .shown peer)] }
    Channel.openOver handle .server config
  | .error e =>
    let e := ChannelError.transport e
    Surroundings.tell
      { level := if config.suppressMessages || e.isTimeout then .debug else .warn,
        origin := .listening, message := "accept failed",
        fields := [("error", .shown e.message)] }
    config.refuse e

/-- Open a channel for the next peer and keep listening. -/
def accept (listener : ChannelListener) (timeout : Option Duration) :
    Action (Surroundings ω) ChannelError (Channel Handle) := do
  openAccepted listener.config
    (← Action.attempt (Surroundings.outside (listener.socket.accept timeout)))

/-- Open a channel for the next peer and stop listening. -/
def acceptOnce (listener : ChannelListener) (timeout : Option Duration) :
    Action (Surroundings ω) ChannelError (Channel Handle) := do
  openAccepted listener.config
    (← Action.attempt (Surroundings.outside (listener.socket.acceptOnce timeout)))

/-- Stop listening. -/
def close (listener : ChannelListener) : Action (Surroundings ω) ε Unit :=
  Surroundings.outside listener.socket.close

/-- How a server takes its first peer. -/
structure ServerOptions where
  /-- Wrap failures as fatal, that of accepting included; this and not the setting of the listener
  counts. -/
  errorsFatal : Bool := false
  acceptTimeout : Option Duration := none
  /-- Go on listening. -/
  keepListening : Bool := false
  deriving DecidableEq, Repr

/-- Open a channel for a peer. The listener comes back if it is to go on listening; otherwise it is
closed. -/
def serve (listener : ChannelListener) (options : ServerOptions) :
    Action (Surroundings ω) ChannelError (Channel Handle × Option ChannelListener) := do
  let listener :=
    { listener with config := { listener.config with errorsFatal := options.errorsFatal } }
  if options.keepListening then
    match ← Action.attempt (listener.accept options.acceptTimeout) with
    | .ok channel => return (channel, some listener)
    | .error e =>
      listener.close
      Action.fail e
  else
    return (← listener.acceptOnce options.acceptTimeout, none)

/-- How a listener shows itself. -/
def describe (listener : ChannelListener) : String :=
  let kind := match listener.socket.kind with
    | .stream => "Stream"
    | .datagram => "Datagram"
  "ChannelListener \x7b local_addr: " ++ listener.socket.address.text ++ ", kind: " ++ kind ++
    " \x7d"

end ChannelListener

end TypedChannel
