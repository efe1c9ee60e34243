import TypedChannel.Channel.Listener
/-!
# TypedChannel.Scenario.Listening

Listeners on their own: one that nobody may call, and one with a single client.

1. What is seen of a listener is seen before its channel is asked for; the
   channel and the listener are dropped at the end, however it comes out.
2. In an exchange the listener is looked at before the client sends anything.
-/

namespace TypedChannel.Scenario

/-! ## A channel for a peer -/

/-- A channel that a listener has given. -/
structure Served where
  channel : Channel Handle
  peer : Option SocketAddress
  /-- Whether the listener goes on. -/
  kept : Bool
  /-- Who holds the shared environment while all of it is there. -/
  holders : Nat

/-- What comes of asking a listener for a channel. -/
structure Reception where
  listener : ChannelListener
  /-- Who holds the shared environment while there is only the listener. -/
  holders : Nat
  served : Except ChannelError Served
  /-- Who holds it once all is dropped. -/
  holdersAfter : Nat

/-- Who holds the shared environment. -/
def countHolders {ε : Type} : Action (Surroundings Host) ε Nat :=
  Action.see (·.world.environment.holders)

/-- Ask a listener for a channel. -/
def serveOnce (listener : ChannelListener) (options : ChannelListener.ServerOptions) :
    Action (Surroundings Host) ChannelError Served := do
  let (channel, kept) ← listener.serve options
  let holders ← countHolders
  let peer ← Surroundings.outside (Socket.peerAddress channel.transport)
  Surroundings.outside (Action.change (Handle.release channel.transport))
  match kept with
  | some listener => listener.close
  | none => pure ()
  return { channel, peer, kept := kept.isSome, holders }

/-- Bind a listener and ask it for a channel. -/
def receive (kind : SocketKind) (address : SocketAddress) (config : ChannelConfig)
    (options : ChannelListener.ServerOptions) :
    Action (Surroundings Host) ChannelError Reception := do
  let listener ← ChannelListener.bind kind address config
  let holders ← countHolders
  let served ← Action.attempt (serveOnce listener options)
  return { listener, holders, served, holdersAfter := ← countHolders }

/-! ## One exchange -/

/-- What a client of a listener is to do, and what is to be received of it. -/
structure Exchange where
  host : String
  sends : Bytes
  wanted : Nat
  timeout : Option Duration
  everything : Bool

/-- What came of an exchange. -/
structure Exchanged where
  /-- Whether the listener was ready before the client sent anything. -/
  ready : Bool
  got : Bytes
  peer : Option SocketAddress
  own : Option SocketAddress
  role : Role

/-- How long an exchange waits for its client. -/
def exchangeAcceptTimeout : Duration := .ofSeconds 5

/-- Run an operation of a handle; gives the handle as it is afterwards. -/
def onHandle {α : Type} (handle : Handle) (x : Action (Handle × Host) TransportError α) :
    Action Host TransportError (α × Handle) := fun patience host =>
  (x patience (handle, host)).map fun (result, (handle, host)) =>
    (result.map fun a => (a, handle), host)

/-- Connect to a listener, send, and receive at the other end. -/
def Exchange.run (exchange : Exchange) (listener : SocketListener) :
    Action Host TransportError Exchanged := do
  let client ← Socket.connect exchange.host listener.address.port listener.kind none
  let ready ← Action.mapError .io (HostWorld.waitReady listener.isReady (some .zero))
  let _ ← onHandle client (Transport.transmit exchange.sends)
  let server ← listener.accept (some exchangeAcceptTimeout)
  let (got, server) ← onHandle server
    (Transport.receive exchange.wanted exchange.timeout exchange.everything)
  let peer ← Socket.peerAddress server
  let own ← Socket.localAddress server
  return { ready, got, peer, own, role := server.role }

end TypedChannel.Scenario
