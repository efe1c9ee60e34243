import TypedChannel.Channel.Basic
import TypedChannel.Transport.Pipe
/-!
# TypedChannel.Channel.Open

Channels that reach out, and channels over a fresh pipe.

1. A channel is opened over a transport that is open already, and the log is
   told of it.
2. A failure to open passes through the error policy of the channel that was
   to be: its text goes to the shared diagnostics, and it comes back wrapped
   as fatal exactly when the policy says so.
-/

namespace TypedChannel

variable {ω α ε : Type} [HostWorld ω]

namespace Surroundings

/-- Run an action of the world. -/
@[inline] def outside (x : Action ω ε α) : Action (Surroundings ω) ε α :=
  x.on world fun world around => { around with world }

/-- Tell the log of an event. -/
def tell (event : Log.Event) : Action (Surroundings ω) ε Unit :=
  Action.change (note event)

end Surroundings

/-- Open a channel over a transport. -/
def Channel.openOver {σ : Type} [Transport ω σ] (transport : σ) (role : Role)
    (config : ChannelConfig) : Action (Surroundings ω) ε (Channel σ) := do
  Surroundings.tell
    { level := .debug, origin := .channel, message := "channel opened",
      fields := [("kind", .shown (Transport.kind ω transport).name), ("role", .shown role.describe)] }
  return .opened transport role config

/-- Fail under the error policy of a channel that could not be opened. -/
def ChannelConfig.refuse (config : ChannelConfig) (e : ChannelError) :
    Action (Surroundings ω) ChannelError α := fun _ around =>
  let (e, diagnostics) := config.escalate e around.diagnostics
  some (.error e, { around with diagnostics })

/-! ## Clients -/

/-- How a client connects. -/
structure ClientOptions where
  /-- Wrap failures as fatal, that of connecting included; this and not the setting in `config`
  counts. -/
  errorsFatal : Bool := false
  /-- Give up connecting after this time; without it wait for as long as the system does. -/
  connectTimeout : Option Duration := none
  /-- Keep a failure to connect out of the warnings. -/
  quiet : Bool := false
  config : ChannelConfig
  deriving DecidableEq, Repr

/-- The settings of a client's channel. -/
def ClientOptions.channelConfig (options : ClientOptions) : ChannelConfig :=
  { options.config with errorsFatal := options.errorsFatal }

/-- Connect to a host and open a channel over the connection. -/
def Channel.connect (name : String) (port : UInt16) (kind : SocketKind)
    (options : ClientOptions) : Action (Surroundings ω) ChannelError (Channel Handle) := do
  let config := options.channelConfig
  let shown : List (String × Log.Value) :=
    [("host", .text name), ("port", .number port.toNat), ("kind", .shown kind.name)]
  match ← Action.attempt (Surroundings.outside (Socket.connect name port kind options.connectTimeout))
  with
  | .ok handle =>
    Surroundings.tell
      { level := .debug, origin := .connecting, message := "client channel ready", fields := shown }
    Channel.openOver handle .client config
  | .error e =>
    Surroundings.tell
      { level := if options.quiet || config.suppressMessages then .debug else .warn,
        origin := .connecting, message := "connect failed",
        fields := shown ++ [("error", .shown e.message)] }
    config.refuse (.transport e)

/-! ## Pipes -/

/-- Make a pipe and open a channel over each end, the reader's first. -/
def Channel.pipe (config : ChannelConfig) :
    Action (Surroundings ω) ChannelError (Channel Handle × Channel Handle) := do
  match ← Action.attempt (Surroundings.outside PipePair.create) with
  | .ok (reader, writer) =>
    let readEnd ← Channel.openOver reader .localEnd config
    return (readEnd, ← Channel.openOver writer .localEnd config)
  | .error e =>
    if !config.suppressMessages then
      Surroundings.tell
        { level := .warn, origin := .pipeChannels, message := "pipe creation failed",
          fields := [("error", .shown e.message)] }
    config.refuse (.transport e)

end TypedChannel
