import TypedChannel.Channel.Error
import TypedChannel.Diagnostics
import TypedChannel.Transport.Basic
/-!
# TypedChannel.Channel.Basic

A typed message channel over a transport, and its error policy.

1. Every failure of an operation passes through `fail` once: its text becomes
   the channel's last error and the last error of the shared diagnostics, and
   it comes back wrapped as fatal exactly when the channel says so.
2. A vanished peer is logged as a warning the first time only.
3. The counters grow by what a successful receive or transmit has moved.
-/

namespace TypedChannel

/-! ## Settings -/

/-- How a channel behaves. -/
structure ChannelConfig where
  /-- Wrap every failure as fatal. -/
  errorsFatal : Bool := false
  /-- Keep failures out of the warnings; they still reach the debug log. -/
  suppressMessages : Bool := false
  /-- The longest string with a length prefix, in both directions. -/
  maxStringLength : Nat := 16 * 1024 * 1024
  /-- The bytes that a terminated message must fit in, its terminator included. -/
  terminatedBufferSize : Nat := 8 * 1024
  diagnostics : Diagnostics.Handle
  deriving DecidableEq, Repr

/-- How long a receive may take, and whether it must be complete. -/
structure ReceiveOptions where
  /-- Without a timeout it waits for ever. -/
  timeout : Option Duration := none
  /-- Go on until the request is satisfied. -/
  everything : Bool := true
  deriving DecidableEq, Repr

namespace ReceiveOptions

/-- Wait for ever for all of it. -/
def blocking : ReceiveOptions := {}

/-- The options for a number of milliseconds; a negative one waits for ever. -/
def ofMillis (n : Int) : ReceiveOptions := { timeout := timeoutOfMillis n }

/-- The same, but content with the first bytes that arrive. -/
def «partial» (options : ReceiveOptions) : ReceiveOptions := { options with everything := false }

/-- The same, but for all of it. -/
def complete (options : ReceiveOptions) : ReceiveOptions := { options with everything := true }

/-- The options as they are shown. -/
def text (options : ReceiveOptions) : String :=
  let timeout := match options.timeout with
    | none => "None"
    | some d => "Some(" ++ d.text ++ ")"
  "RecvOptions \x7b timeout: " ++ timeout ++ ", read_everything: " ++ toString options.everything
    ++ " \x7d"

end ReceiveOptions

/-! ## Channels -/

/-- A channel over a transport `σ`. -/
structure Channel (σ : Type) where
  transport : σ
  config : ChannelConfig
  role : Role
  bytesSent : Nat
  bytesReceived : Nat
  /-- The text of the most recent failure. -/
  lastError : Option String
  /-- Whether a vanished peer has been reported. -/
  peerGoneReported : Bool

/-- What the channels of a process share: the world and the diagnostics. -/
structure Surroundings (ω : Type) where
  world : ω
  diagnostics : Diagnostics.Store

/-- An operation on a channel. -/
abbrev ChannelAction (σ ω α : Type) : Type := Action (Channel σ × Surroundings ω) ChannelError α

/-- Tell the log of an event. -/
def Surroundings.note {ω : Type} [World ω] (event : Log.Event) (around : Surroundings ω) :
    Surroundings ω :=
  { around with world := World.note event around.world }

/-! ## Error policy -/

/-- Record an error in the shared diagnostics and wrap it when failures are fatal. An error that
is already fatal is not wrapped again. -/
def ChannelConfig.escalate (config : ChannelConfig) (e : ChannelError)
    (store : Diagnostics.Store) : ChannelError × Diagnostics.Store :=
  (if config.errorsFatal && !e.isFatal then .fatal e else e,
    store.recordError e.message config.diagnostics)

namespace Channel

variable {σ ω α : Type}

/-- A fresh channel over an open transport. -/
def opened (transport : σ) (role : Role) (config : ChannelConfig) : Channel σ :=
  { transport, config, role, bytesSent := 0, bytesReceived := 0, lastError := none,
    peerGoneReported := false }

/-- The same channel over a transport made from its own. -/
def mapTransport {τ : Type} (f : σ → τ) (channel : Channel σ) : Channel τ :=
  { channel with transport := f channel.transport }

/-- How loudly a failure is told. -/
def failureLevel (channel : Channel σ) (e : ChannelError) : Log.Level :=
  if channel.config.suppressMessages || (e.isPeerGone && channel.peerGoneReported) then .debug
  else if channel.config.errorsFatal then .error
  else .warn

/-- Fail after reporting the error and applying the error policy. -/
def fail [World ω] (e : ChannelError) : ChannelAction σ ω α :=
  fun _ (channel, around) =>
    let around := around.note
      { level := channel.failureLevel e, origin := .channel, message := "channel operation failed",
        fields := [("error", .shown e.message)] }
    let (escalated, diagnostics) := channel.config.escalate e around.diagnostics
    let channel := { channel with
      lastError := some e.message
      peerGoneReported := channel.peerGoneReported || e.isPeerGone }
    some (.error escalated, (channel, { around with diagnostics }))

/-! ## Parts of an operation -/

/-- The settings of the running channel. -/
def settings : ChannelAction σ ω ChannelConfig := Action.see (·.1.config)

/-- Run an operation of the transport; its failure is not yet one of the channel. -/
@[inline] def onTransport {ε : Type} (x : Action (σ × ω) TransportError α) :
    Action (Channel σ × Surroundings ω) ε (Except TransportError α) :=
  (Action.attempt x).on (fun (channel, around) => (channel.transport, around.world))
    (fun (transport, world) (channel, around) =>
      ({ channel with transport }, { around with world }))

/-- Change the world. -/
@[inline] def inWorld {ε : Type} (f : ω → α × ω) : Action (Channel σ × Surroundings ω) ε α :=
  Action.step fun (channel, around) =>
    let (a, world) := f around.world
    (a, (channel, { around with world }))

/-- Tell the log of an event. -/
def note [World ω] (event : Log.Event) : ChannelAction σ ω Unit :=
  Action.change fun (channel, around) => (channel, around.note event)

/-- Count bytes that were received. -/
def countReceived (n : Nat) : ChannelAction σ ω Unit :=
  Action.change fun (channel, around) =>
    ({ channel with bytesReceived := channel.bytesReceived + n }, around)

/-- Count bytes that were sent. -/
def countSent (n : Nat) : ChannelAction σ ω Unit :=
  Action.change fun (channel, around) =>
    ({ channel with bytesSent := channel.bytesSent + n }, around)

/-- The answer of a transport operation; its failure becomes one of the channel. -/
def orFail [World ω] (result : Except TransportError α) : ChannelAction σ ω α :=
  match result with
  | .ok a => pure a
  | .error e => fail (.transport e)

end Channel

end TypedChannel
