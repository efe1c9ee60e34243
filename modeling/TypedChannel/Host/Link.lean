import TypedChannel.Bytes
import TypedChannel.IoError
import TypedChannel.Time
import TypedChannel.Transport.Kind
/-!
# TypedChannel.Host.Link

An in-memory transport whose behaviour follows a script: how much each read
and write moves, which of them fail, and what readiness checks answer.

1. A read or a write moves no more than its own limit, the limit of the link
   and what was asked for.
2. As a stream or a pipe a link holds one run of bytes; as datagrams it holds
   messages, and a read takes one of them and drops what does not fit.
3. Every call is kept in a log.
-/

namespace TypedChannel

/-- What a script makes of one read or write. -/
inductive LinkEvent where
  /-- The peer has gone. -/
  | closed
  | failed (e : IoError)
  /-- At most this many bytes move. -/
  | atMost (n : Nat)
  deriving DecidableEq, Repr

/-- What a script makes of one readiness check. -/
inductive LinkPoll where
  | ready (answer : Bool)
  | failed (e : IoError)
  deriving DecidableEq, Repr

/-- A call that a link has seen. -/
inductive LinkCall where
  | read (room : Nat)
  /-- A readiness check, with the timeout it was given. -/
  | poll (timeout : Option Duration)
  /-- A write, with the bytes that were accepted. -/
  | write (accepted : Bytes)
  | writeFailed
  | flush
  deriving DecidableEq, Repr

/-- One in-memory transport. -/
structure Link where
  kind : TransportKind := .stream
  /-- Bytes that wait to be read. -/
  stream : Bytes := []
  /-- Messages that wait to be read. -/
  datagrams : List Bytes := []
  /-- The link that receives what is written here. -/
  target : Option Nat := none
  /-- Whether the end has been reached, so that a read would not block. -/
  ended : Bool := false
  readChunk : Option Nat := none
  writeChunk : Option Nat := none
  reads : List LinkEvent := []
  writes : List LinkEvent := []
  polls : List LinkPoll := []
  /-- The calls so far, the last one first. -/
  calls : List LinkCall := []
  deriving DecidableEq, Repr

/-- How a read or a write of a link ends when it moves nothing. -/
inductive LinkStop where
  | closed
  | failed (e : IoError)
  deriving DecidableEq, Repr

namespace Link

/-- Keep a call in the log. -/
def logged (call : LinkCall) (link : Link) : Link := { link with calls := call :: link.calls }

/-- Deliver bytes: more of the stream, or one message. -/
def deliver (bytes : Bytes) (link : Link) : Link :=
  match link.kind with
  | .datagram => { link with datagrams := link.datagrams ++ [bytes] }
  | .stream | .pipe => { link with stream := link.stream ++ bytes }

/-- The smaller of a number and a limit, if there is one. -/
def cut (limit : Option Nat) (n : Nat) : Nat := (limit.map (min n)).getD n

/-- Take at most `n` bytes, at least one, of what waits. -/
def take (n : Nat) (link : Link) : Except LinkStop Bytes × Link :=
  match link.kind with
  | .datagram =>
    match link.datagrams with
    | [] => (.error .closed, link)
    | datagram :: rest => (.ok (datagram.take n), { link with datagrams := rest })
  | .stream | .pipe =>
    if link.stream.isEmpty then (.error .closed, link)
    else (.ok (link.stream.take n), { link with stream := link.stream.drop n })

/-- Read into `room` bytes. -/
def read (room : Nat) (link : Link) : Except LinkStop Bytes × Link :=
  let link := link.logged (.read room)
  let most := cut link.readChunk room
  match link.reads with
  | .closed :: rest => (.error .closed, { link with reads := rest })
  | .failed e :: rest => (.error (.failed e), { link with reads := rest })
  | .atMost n :: rest =>
    let link := { link with reads := rest }
    if min n most = 0 then (.ok [], link) else link.take (min n most)
  | [] => if most = 0 then (.ok [], link) else link.take most

/-- Whether a read would find something. -/
def poll (timeout : Option Duration) (link : Link) : Except IoError Bool × Link :=
  let link := link.logged (.poll timeout)
  match link.polls with
  | .ready answer :: rest => (.ok answer, { link with polls := rest })
  | .failed e :: rest => (.error e, { link with polls := rest })
  | [] =>
    (.ok (timeout.isNone || link.ended || !link.stream.isEmpty || !link.datagrams.isEmpty), link)

/-- Offer bytes; gives those that are accepted. -/
def write (bytes : Bytes) (link : Link) : Except LinkStop Bytes × Link :=
  let most := cut link.writeChunk bytes.length
  match link.writes with
  | .closed :: rest => (.error .closed, { link.logged .writeFailed with writes := rest })
  | .failed e :: rest => (.error (.failed e), { link.logged .writeFailed with writes := rest })
  | .atMost n :: rest =>
    let accepted := bytes.take (min n most)
    (.ok accepted, { link.logged (.write accepted) with writes := rest })
  | [] =>
    let accepted := bytes.take most
    (.ok accepted, link.logged (.write accepted))

end Link

end TypedChannel
