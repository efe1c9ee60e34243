import TypedChannel.Channel.Listener
import TypedChannel.Channel.Receive
import TypedChannel.Channel.Send
import TypedChannel.Cli.Exit
import TypedChannel.Cli.Output
import TypedChannel.Cli.Terminal
/-!
# TypedChannel.Cli.Echo

A server that answers every string with its length.

1. It waits in steps short enough to notice soon that the user wants it to
   stop.
2. A message that breaks the rules but leaves the channel aligned is dropped;
   so is a peer that goes away or stalls in the middle of a message. Any other
   failure ends the server.
3. Peers of a stream are served one after another; datagrams all come through
   one channel, so the server ends with it.
4. The accept timeout is one for all peers: it runs from the start, and behind
   its end the server gives up as soon as it would have to wait for a peer.
-/

namespace TypedChannel.Cli

/-- The longest wait between two looks at whether to stop. -/
def pollInterval : Duration := .ofMillis 200

/-- How a conversation with one peer ended. -/
inductive Conversation where
  /-- The peer is gone; wait for the next one. -/
  | ended
  /-- Stop serving. -/
  | stopped
  deriving DecidableEq, Repr

/-- How the server is asked to behave. -/
structure EchoSettings where
  /-- Expect strings that end with this instead of ones that announce their length. -/
  terminator : Option String := none
  /-- Stop after this many messages. -/
  count : Option Nat := none
  /-- Drop a peer that sends nothing for this long in the middle of a message. -/
  stallTimeout : Duration
  format : OutputFormat
  deriving DecidableEq, Repr

namespace Echo

/-! ## One conversation -/

section Conversation

variable {σ ω α ε : Type} [World ω] [Transport ω σ] [Terminal ω]

/-- A part of a conversation; its state holds the number of messages served. -/
abbrev TalkAction (σ ω α : Type) : Type := Action ((Channel σ × Surroundings ω) × Nat) Failure α

/-- Run an operation of the channel. -/
@[inline] def onChannel (x : ChannelAction σ ω α) :
    TalkAction σ ω (Except ChannelError α) :=
  (Action.attempt x).on Prod.fst fun state (_, served) => (state, served)

/-- Receive one message. -/
def receive (settings : EchoSettings) : ChannelAction σ ω String := do
  let options : ReceiveOptions := { timeout := some settings.stallTimeout }
  match settings.terminator with
  | some terminator => Channel.acceptTerminated terminator options
  | none => return (← Channel.acceptString options).getD ""

/-- The length that a message is answered with. -/
def replyLength (message : String) : Nat := min message.utf8ByteSize maxAnnounced

/-- Tell the log why a message was not answered. -/
def warn (message : String) (e : ChannelError) : TalkAction σ ω Unit :=
  Action.change fun ((channel, around), served) =>
    ((channel, around.note
      { level := .warn, origin := .echoServer, message, fields := [("error", .shown e.message)] }),
      served)

/-- Count and print a message that was answered. -/
def report (format : OutputFormat) (message : String) : TalkAction σ ω Unit :=
  Action.change fun ((channel, around), served) =>
    let text := renderEcho message (replyLength message) format
    ((channel, { around with world := Terminal.print text around.world }), served + 1)

/-- Answer one message. -/
def answer (settings : EchoSettings) (message : String) :
    TalkAction σ ω (Round Unit Conversation) := do
  match ← onChannel (Channel.send (.ofInt .int32 (replyLength message))) with
  | .ok () =>
    report settings.format message
    return .again ()
  | .error e =>
    if e.isPeerGone then return .done .ended else Action.fail (.ofChannel "reply failed" e)

/-- Receive and answer one message. -/
def exchange (settings : EchoSettings) : TalkAction σ ω (Round Unit Conversation) := do
  match ← onChannel (receive settings) with
  | .ok message => answer settings message
  | .error e =>
    if e.isPeerGone then
      return .done .ended
    else if e.isTimeout then
      warn "peer stalled mid-message, dropping it" e
      return .done .ended
    else if e.leavesAligned then
      warn "dropping malformed message" e
      return .again ()
    else
      Action.fail (.ofChannel "receive failed" e)

/-- One round of a conversation: unless it is time to stop, wait for a message and answer it. -/
def talkRound (settings : EchoSettings) (_ : Unit) :
    TalkAction σ ω (Round Unit Conversation) := do
  if ← Action.see fun ((_, around), _) => Terminal.isInterrupted around.world then
    return .done .stopped
  if ← Action.see fun (_, served) => settings.count.any (· ≤ served) then
    return .done .stopped
  match ← onChannel (Channel.messageReady (some pollInterval)) with
  | .error e => Action.fail (.ofChannel "readiness check failed" e)
  | .ok false => return .again ()
  | .ok true => exchange settings

/-- Answer the messages of one peer. -/
def talk (settings : EchoSettings) : TalkAction σ ω Conversation :=
  Action.iterate (talkRound settings) ()

end Conversation

/-! ## All peers -/

section Serving

variable {ω γ ε : Type} [World ω] [Terminal ω]

/-- Look at what is left of a deadline. -/
def remaining (deadline : Deadline) : Action (Surroundings ω) ε (Option Duration) :=
  Action.step fun around =>
    let (left, world) := deadline.remainingNow around.world
    (left, { around with world })

/-- One round of waiting for a peer. -/
def waitRound (accept : Duration → Action (Surroundings ω) ChannelError γ) (deadline : Deadline)
    (_ : Unit) : Action (Surroundings ω) Failure (Round Unit (Option γ)) := do
  if ← Action.see fun around => Terminal.isInterrupted around.world then
    return .done none
  let wait := match ← remaining deadline with
    | none => pollInterval
    | some left => left.min pollInterval
  match ← Action.attempt (accept wait) with
  | .ok peer => return .done (some peer)
  | .error e =>
    if e.isTimeout then
      if (← remaining deadline) = some .zero then
        Action.fail
          { code := timedOut, message := "no peer connected before the accept timeout" }
      else
        return .again ()
    else
      Action.fail (.ofChannel "accept failed" e)

/-- The next peer before the deadline, or none when it is time to stop. -/
def nextPeer (accept : Duration → Action (Surroundings ω) ChannelError γ) (deadline : Deadline) :
    Action (Surroundings ω) Failure (Option γ) :=
  Action.iterate (waitRound accept deadline) ()

/-- One round of serving: take the next peer and talk to it. -/
def serveRound (kind : SocketKind)
    (accept : Duration → Action (Surroundings ω) ChannelError γ)
    (converse : γ → Action (Surroundings ω × Nat) Failure Conversation) (deadline : Deadline)
    (_ : Unit) : Action (Surroundings ω × Nat) Failure (Round Unit Unit) := do
  if ← Action.see fun (around, _) => Terminal.isInterrupted around.world then
    return .done ()
  match ← (nextPeer accept deadline).on Prod.fst (fun around (_, served) => (around, served)) with
  | none => return .done ()
  | some peer =>
    match ← converse peer with
    | .stopped => return .done ()
    | .ended => if kind = .datagram then return .done () else return .again ()

/-- Serve peers until it is time to stop. -/
def serveAll (kind : SocketKind)
    (accept : Duration → Action (Surroundings ω) ChannelError γ)
    (converse : γ → Action (Surroundings ω × Nat) Failure Conversation) (deadline : Deadline) :
    Action (Surroundings ω × Nat) Failure Unit :=
  Action.iterate (serveRound kind accept converse deadline) ()

end Serving

/-! ## The command -/

/-- What the command line asks for. -/
structure Arguments where
  port : UInt16
  udp : Bool := false
  terminator : Option String := none
  count : Option Nat := none
  /-- In milliseconds; a negative one waits without end. -/
  acceptTimeout : Int := -1
  /-- In milliseconds. -/
  stallTimeout : Nat := 5000
  deriving DecidableEq, Repr

/-- The kind of sockets to use. -/
def socketKind (udp : Bool) : SocketKind := if udp then .datagram else .stream

def Arguments.settings (arguments : Arguments) (format : OutputFormat) : EchoSettings :=
  { terminator := arguments.terminator, count := arguments.count,
    stallTimeout := .ofMillis arguments.stallTimeout, format }

section Command

variable {ω ε : Type} [HostWorld ω]

/-- Print a text. -/
def print (text : String) : Action (Surroundings ω) ε Unit :=
  Action.change fun around => { around with world := Terminal.print text around.world }

/-- Talk to one peer, and close its channel whatever comes of it. -/
def converse (kind : SocketKind) (settings : EchoSettings) (channel : Channel Handle) :
    Action (Surroundings ω × Nat) Failure Conversation := fun patience (around, served) =>
  let peer := Socket.peerText (HostWorld.host around.world) channel.transport
  let around := around.note
    { level := .info, origin := .echoServer, message := "peer connected",
      fields := [("peer", .shown peer), ("kind", .shown kind.name)] }
  match talk settings patience ((channel, around), served) with
  | none => none
  | some (result, ((channel, around), served)) =>
    let around := match result with
      | .ok .ended => around.note
          { level := .info, origin := .echoServer, message := "peer disconnected",
            fields := [("served", .number served)] }
      | _ => around
    ((Transport.close : Action (Handle × ω) Empty Unit) patience
        (channel.transport, around.world)).map fun (_, (_, world)) =>
      (result, ({ around with world }, served))

/-- Fail if no handler for the user's wish to stop can be installed. -/
def installHandler : Action (Surroundings ω) Failure Unit := do
  match ← Action.see fun around => (HostWorld.host around.world).handlerFault with
  | none => pure ()
  | some reason =>
    Action.fail { code := internalFailure, message := "signal handler setup failed: " ++ reason }

/-- Serve peers of a listener. -/
def serveListener (arguments : Arguments) (format : OutputFormat) (listener : ChannelListener) :
    Action (Surroundings ω) Failure Unit := do
  let kind := listener.socket.kind
  print (renderListening listener.socket.address kind.name format)
  installHandler
  let deadline ← Action.step fun around =>
    let (deadline, world) :=
      Deadline.startNow (timeoutOfMillis arguments.acceptTimeout) around.world
    (deadline, { around with world })
  (serveAll kind (fun wait => listener.accept (some wait))
      (converse kind (arguments.settings format)) deadline).on
    (fun around => (around, 0)) (fun (around, _) _ => around)

/-- Listen, and answer every string with its length. -/
def run (arguments : Arguments) (format : OutputFormat) : Action (Surroundings ω) Failure Nat := do
  let diagnostics ← Action.step fun around =>
    let (handle, diagnostics) := around.diagnostics.create
    (handle, { around with diagnostics })
  let listener ← Action.mapError (.ofChannel "bind failed") <|
    ChannelListener.bind (socketKind arguments.udp) (SocketListener.onPort arguments.port)
      { suppressMessages := true, diagnostics }
  match ← Action.attempt (serveListener arguments format listener) with
  | .ok () =>
    listener.close
    return success
  | .error e =>
    listener.close
    Action.fail e

end Command

end Echo

end TypedChannel.Cli
