import TypedChannel.Channel.Open
import TypedChannel.Channel.Receive
import TypedChannel.Channel.Send
import TypedChannel.Host.Shared
/-!
# TypedChannel.Scenario.Callers

Clients that call a server on their own host, one after another.

1. The first call is made once the server has started to listen; a caller hangs
   up when it has said all of its lines.
2. After a line a caller waits for an `int32` reply for three seconds, unless
   the line wants none.
3. Once all calls are over the server is waited for, and stopped by its user
   if it has not ended by then.
4. What would wait for ever is put off until something has changed.
-/

namespace TypedChannel.Scenario

/-- What a caller does next. -/
inductive Saying where
  /-- Send a string, framed as the server expects it. -/
  | text (s : Option String)
  /-- Send bytes as they are. -/
  | bytes (b : Bytes)
  /-- Ask the server's user interface to stop it. -/
  | interrupt
  deriving DecidableEq, Repr

/-- One line of a caller. -/
structure Line where
  saying : Saying
  wantsReply : Bool := true
  deriving DecidableEq, Repr

/-- What came of a line. -/
inductive Reply where
  | number (n : Int)
  /-- None was wanted. -/
  | unwanted
  | failed (e : ChannelError)
  deriving DecidableEq, Repr

/-- Callers of one server, and how far they have come. -/
structure Callers where
  port : UInt16
  kind : SocketKind
  terminator : Option String := none
  /-- The lines of those who have yet to call. -/
  waiting : List (List Line)
  /-- The open channel, and the lines yet to be said through it. -/
  current : Option (Channel Handle × List Line) := none
  /-- When the current caller gives up waiting for a reply. -/
  awaiting : Option Nat := none
  replies : List Reply := []
  /-- When a server is left that has not ended, once all calls are over. -/
  leaving : Option Nat := none
  /-- Whether the server was left waiting. -/
  hasLeft : Bool := false
  diagnostics : Diagnostics.Store := .empty

namespace Callers

/-- How long a caller waits for a reply. -/
def replyTimeout : Duration := .ofSeconds 3

/-- How long a server without callers is waited for. -/
def leaveTimeout : Duration := .ofSeconds 3

/-- Whether a server listens on a port, or has done so. -/
def hasListened (port : UInt16) (host : Host) : Bool :=
  host.network.listeners.any (·.address.port == port) ||
    host.network.datagrams.any (·.address.port == port)

/-- Whether a server still listens on a port. -/
def isListening (port : UInt16) (host : Host) : Bool :=
  host.network.listeners.any (fun l => l.isOpen && l.address.port == port) ||
    host.network.datagrams.any (fun d => d.holders != 0 && d.address.port == port)

/-- Add what came of a line. -/
def hear (reply : Reply) (callers : Callers) : Callers :=
  { callers with replies := callers.replies ++ [reply] }

/-- Call the server. -/
def call (patience : Nat) (lines : List Line) (callers : Callers) (host : Host) :
    Option (Callers × Host) :=
  let (diagnostics, store) := callers.diagnostics.create
  (Channel.connect "127.0.0.1" callers.port callers.kind { config := { diagnostics } } patience
      { world := host, diagnostics := store }).map fun (result, around) =>
    let callers := { callers with diagnostics := around.diagnostics }
    match result with
    | .ok channel => ({ callers with current := some (channel, lines) }, around.world)
    | .error e => (callers.hear (.failed e), around.world)

/-- Run an operation of the open channel, with `lines` still to be said. Gives how it ended. -/
def onChannel {α : Type} (patience : Nat) (channel : Channel Handle) (lines : List Line)
    (x : ChannelAction Handle Host α) (callers : Callers) (host : Host) :
    Option (Except ChannelError α × Callers × Host) :=
  (x patience (channel, { world := host, diagnostics := callers.diagnostics })).map
    fun (result, (channel, around)) =>
      (result,
        { callers with current := some (channel, lines), diagnostics := around.diagnostics },
        around.world)

/-- Send what a line says. -/
def utter (terminator : Option String) (saying : Saying) : ChannelAction Handle Host Unit :=
  match saying, terminator with
  | .text s, some terminator => Channel.sendTerminated (s.getD "") terminator
  | .text s, none => Channel.sendString s
  | .bytes b, _ => Channel.sendBytes b
  | .interrupt, _ => Action.change fun (channel, around) =>
      (channel, { around with world := { around.world with interrupted := true } })

/-- Say a line. -/
def say (patience : Nat) (channel : Channel Handle) (line : Line) (lines : List Line)
    (callers : Callers) (host : Host) : Option (Callers × Host) :=
  (callers.onChannel patience channel lines (utter callers.terminator line.saying) host).map
    fun (result, callers, host) =>
      match result, line.saying with
      | _, .interrupt => (callers, host)
      | .error e, _ => (callers.hear (.failed e), host)
      | .ok (), _ =>
        if line.wantsReply then
          ({ callers with awaiting := some (host.clock + replyTimeout.nanos) }, host)
        else (callers.hear .unwanted, host)

/-- Take the reply that is awaited. -/
def takeReply (patience : Nat) (channel : Channel Handle) (lines : List Line) (callers : Callers)
    (host : Host) : Option (Callers × Host) :=
  (callers.onChannel patience channel lines (Channel.accept .int32 .blocking) host).map
    fun (result, callers, host) =>
      let reply := match result with
        | .ok value => Reply.number value.toInt
        | .error e => .failed e
      ({ callers with awaiting := none }.hear reply, host)

/-- Hang up. -/
def hangUp (patience : Nat) (channel : Channel Handle) (callers : Callers) (host : Host) :
    Option (Callers × Host) :=
  ((Transport.close : Action (Handle × Host) Empty Unit) patience (channel.transport, host)).map
    fun (_, (_, host)) => ({ callers with current := none }, host)

/-- What is left to do once all calls are over: wait for the server, and stop it in the end. -/
def seeOff (callers : Callers) (host : Host) : Option (Callers × Host) :=
  match callers.leaving, isListening callers.port host with
  | none, true =>
    if callers.hasLeft then none
    else some ({ callers with leaving := some (host.clock + leaveTimeout.nanos) }, host)
  | some _, true =>
    if callers.hasLeft then some ({ callers with leaving := none }, { host with interrupted := true })
    else none
  | some _, false => some ({ callers with leaving := none }, host)
  | none, false => none

instance : Neighbour Callers where
  act patience callers host :=
    match callers.current, callers.awaiting, callers.waiting with
    | some (channel, lines), some _, _ => callers.takeReply patience channel lines host
    | some (channel, []), none, _ => callers.hangUp patience channel host
    | some (channel, line :: lines), none, _ => callers.say patience channel line lines host
    | none, _, [] => callers.seeOff host
    | none, _, lines :: waiting =>
      if hasListened callers.port host then
        { callers with waiting }.call patience lines host
      else none
  givesUp? callers :=
    match callers.awaiting with
    | some moment =>
      some (moment, { callers with awaiting := none }.hear
        (.failed (.transport (.timeout replyTimeout PrimitiveKind.int32.width 0))))
    | none => callers.leaving.map fun moment => (moment, { callers with hasLeft := true })

end Callers

end TypedChannel.Scenario
