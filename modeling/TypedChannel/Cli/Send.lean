import TypedChannel.Channel.Open
import TypedChannel.Channel.Traced
import TypedChannel.Cli.Echo
/-!
# TypedChannel.Cli.Send

A client that sends one string and prints the length it is answered with.

1. The trace file is made before anything else; a program that cannot make it
   does not connect.
2. The message and the reply are traced, and nothing is printed unless both
   have succeeded.
-/

namespace TypedChannel.Cli.Send

/-- What the command line asks for. -/
structure Arguments where
  host : String
  port : UInt16
  text : String
  udp : Bool := false
  terminator : Option String := none
  /-- In milliseconds; a negative one waits as long as the system does. -/
  connectTimeout : Int := -1
  /-- In milliseconds; a negative one waits without end. -/
  waitTimeout : Int := 5000
  /-- The file for the trace. -/
  trace : Option String := none
  deriving DecidableEq, Repr

/-- How the message is delimited. -/
def Arguments.framing (arguments : Arguments) : Framing :=
  if arguments.terminator.isSome then .terminated else .length

variable {ω ε : Type} [HostWorld ω]

/-- The diagnostics of the channel, with a trace into the file that is asked for. -/
def openDiagnostics (trace : Option String) : Action (Surroundings ω) Failure Diagnostics.Handle := do
  match trace with
  | none => pure ()
  | some path =>
    Action.mapError (.ofIo ("failed creating trace file " ++ path)) <|
      Surroundings.outside (HostWorld.onHost (Host.createFile path))
  Action.step fun around =>
    let (handle, diagnostics) :=
      if trace.isSome then around.diagnostics.createTraced (.empty none)
      else around.diagnostics.create
    (handle, { around with diagnostics })

/-- Run an operation of the channel; its failure ends the command. -/
def orFail {α : Type} (context : String) (x : ChannelAction Handle ω α) :
    Action (Channel Handle × Surroundings ω) Failure α :=
  x.mapError (.ofChannel context)

/-- Send the text and wait for the reply. -/
def exchange (arguments : Arguments) : Action (Channel Handle × Surroundings ω) Failure Int := do
  orFail "send failed" <| match arguments.terminator with
    | some terminator => Channel.sendTerminatedTraced 0 "message" arguments.text terminator
    | none => Channel.sendStringTraced 0 "message" (some arguments.text)
  let reply ← orFail "receive failed" <|
    Channel.acceptTraced 0 "reply length" .int32 (.ofMillis arguments.waitTimeout)
  return reply.toInt

/-- The report on an exchange. -/
def report (arguments : Arguments) (reply : Int) (channel : Channel Handle) :
    Action Host ε SendReport := do
  let given := arguments.host ++ ":" ++ toString arguments.port
  let peer ← Socket.peerAddress channel.transport
  return { peer := (peer.map (·.text)).getD given
           transport := (Echo.socketKind arguments.udp).name
           framing := arguments.framing
           message := arguments.text
           replyLength := reply
           bytesSent := channel.bytesSent
           bytesReceived := channel.bytesReceived }

/-- Exchange and report over an open channel, and close it whatever comes of it. -/
def overChannel (arguments : Arguments) (format : OutputFormat) (channel : Channel Handle) :
    Action (Surroundings ω) Failure Unit := fun patience around =>
  let body : Action (Channel Handle × Surroundings ω) Failure Unit := do
    let reply ← exchange arguments
    let channel ← Action.see (·.1)
    let report ← (Surroundings.outside (HostWorld.onHost (report arguments reply channel))).on
      Prod.snd (fun around (channel, _) => (channel, around))
    (Echo.print (report.render format)).on Prod.snd (fun around (channel, _) => (channel, around))
  match body patience (channel, around) with
  | none => none
  | some (result, (channel, around)) =>
    ((Transport.close : Action (Handle × ω) Empty Unit) patience
        (channel.transport, around.world)).map fun (_, (_, world)) =>
      (result, { around with world })

/-- Send one string and print the reply. -/
def run (arguments : Arguments) (format : OutputFormat) : Action (Surroundings ω) Failure Nat := do
  let diagnostics ← openDiagnostics arguments.trace
  let options : ClientOptions :=
    { connectTimeout := timeoutOfMillis arguments.connectTimeout, quiet := true,
      config := { diagnostics } }
  let channel ← Action.mapError (.ofChannel "connect failed") <|
    Channel.connect arguments.host arguments.port (Echo.socketKind arguments.udp) options
  overChannel arguments format channel
  return success

end TypedChannel.Cli.Send
