import TypedChannel.Channel.Listener
import TypedChannel.Channel.Receive
import TypedChannel.Channel.Send
import TypedChannel.Host.Shared
/-!
# TypedChannel.Scenario.Respondent

A server that takes one string from one client and answers it once.

1. It closes the channel after its answer; a silent one keeps it open.
2. What would wait for ever is put off until something has changed.
-/

namespace TypedChannel.Scenario

/-- What a respondent does once it has the string. -/
inductive Response where
  | number (n : Int)
  | bytes (b : Bytes)
  | hangUp
  | silence
  deriving DecidableEq, Repr

/-- How far a respondent has come. -/
inductive Respondent.Stage where
  | listening (listener : ChannelListener)
  | receiving (channel : Channel Handle)
  | answering (channel : Channel Handle)
  /-- There is nothing more to do. -/
  | done

/-- A server for one string. -/
structure Respondent where
  stage : Respondent.Stage
  terminator : Option String
  response : Response
  /-- The string, once it is there. -/
  received : Option String := none
  diagnostics : Diagnostics.Store

namespace Respondent

/-- Start to listen on a free port, and give the port. -/
def start (kind : SocketKind) (terminator : Option String) (response : Response) (patience : Nat)
    (host : Host) : Option (Except ChannelError (UInt16 × Respondent) × Host) :=
  let (diagnostics, store) := Diagnostics.Store.empty.create
  (ChannelListener.bind kind (SocketListener.onPort 0) { diagnostics } patience
      { world := host, diagnostics := store }).map fun (result, around) =>
    (result.map fun listener =>
      (listener.socket.address.port,
        { stage := .listening listener, terminator, response, diagnostics := around.diagnostics }),
      around.world)

/-- Receive a string in the framing that is expected. -/
def receive (terminator : Option String) : ChannelAction Handle Host String :=
  match terminator with
  | some terminator => Channel.acceptTerminated terminator .blocking
  | none => do return (← Channel.acceptString .blocking).getD ""

/-- Send the answer. -/
def answer : Response → ChannelAction Handle Host Unit
  | .number n => Channel.send (.ofInt .int32 n)
  | .bytes b => Channel.sendBytes b
  | .hangUp | .silence => pure ()

/-- Close the channel. -/
def close (patience : Nat) (channel : Channel Handle) (respondent : Respondent) (host : Host) :
    Option (Respondent × Host) :=
  ((Transport.close : Action (Handle × Host) Empty Unit) patience (channel.transport, host)).map
    fun (_, (_, host)) => ({ respondent with stage := .done }, host)

/-- Go on after an operation of the channel. -/
def advance {α : Type} (patience : Nat) (channel : Channel Handle)
    (x : ChannelAction Handle Host α)
    (next : Channel Handle → α → Respondent → Host → Option (Respondent × Host))
    (respondent : Respondent) (host : Host) : Option (Respondent × Host) := do
  let (result, (channel, around)) ←
    x patience (channel, { world := host, diagnostics := respondent.diagnostics })
  let respondent := { respondent with diagnostics := around.diagnostics }
  match result with
  | .error _ => respondent.close patience channel around.world
  | .ok a => next channel a respondent around.world

instance : Neighbour Respondent where
  act patience respondent host :=
    match respondent.stage with
    | .listening listener =>
      (listener.accept none patience
          { world := host, diagnostics := respondent.diagnostics }).map fun (result, around) =>
        let stage := match result with
          | .ok channel => Stage.receiving channel
          | .error _ => .done
        ({ respondent with stage, diagnostics := around.diagnostics }, around.world)
    | .receiving channel =>
      respondent.advance patience channel (receive respondent.terminator)
        (fun channel text respondent host =>
          some ({ respondent with received := some text, stage := .answering channel }, host)) host
    | .answering channel =>
      if respondent.response = .silence then some ({ respondent with stage := .done }, host)
      else
        respondent.advance patience channel (answer respondent.response)
          (fun channel () respondent host => respondent.close patience channel host) host
    | .done => none
  givesUp? _ := none

end Respondent

end TypedChannel.Scenario
