import TypedChannel.Host.World
import TypedChannel.Transport.Buffered
/-!
# TypedChannel.Transport.Handle

The open ends of a host's pipes, sockets and in-memory links, as transports.

1. A pipe or a stream whose other end is gone gives what was put in, and then
   reports the end as closed. A read into no room takes nothing from it.
2. A datagram handle answers whoever sent last: taking a datagram makes its
   sender the peer, and without a peer nothing can be sent.
3. Every handle but that of a link holds a descriptor and the shared
   environment until it is closed.
-/

namespace TypedChannel

/-- An open end. -/
inductive Handle where
  | link (number : Nat) (kind : TransportKind)
  | pipe (number : Nat) (side : PipeSide) (descriptor : Nat)
  | stream (number : Nat) (side : Side) (descriptor : Nat)
  | datagram (number : Nat) (role : Role) (peer : Option SocketAddress) (descriptor : Nat)
  deriving DecidableEq, Repr

namespace Handle

/-! ## What a handle is -/

def kind : Handle → TransportKind
  | link _ kind => kind
  | pipe .. => .pipe
  | stream .. => .stream
  | datagram .. => .datagram

/-- Which side of the conversation a handle is. -/
def role : Handle → Role
  | link .. | pipe .. => .localEnd
  | stream _ .client _ => .client
  | stream _ .server _ => .server
  | datagram _ role _ _ => role

def descriptor? : Handle → Option Nat
  | link .. => none
  | pipe _ _ descriptor | stream _ _ descriptor | datagram _ _ _ descriptor => some descriptor

/-- Whether bytes can be taken from a handle. -/
def isReadable : Handle → Bool
  | pipe _ .writer _ => false
  | _ => true

/-- Whether bytes can be put into a handle. -/
def isWritable : Handle → Bool
  | pipe _ .reader _ => false
  | _ => true

/-- Whether a read of a handle would not block. -/
def isReady (host : Host) : Handle → Bool
  | link .. => true
  | pipe number .reader _ => (host.pipes[number]?).all (·.isReadable)
  | pipe number .writer _ => (host.pipes[number]?).all (!·.readerOpen)
  | stream number side _ => host.network.isStreamReady number side
  | datagram number _ _ _ => host.network.isDatagramReady number

/-! ## Parts of an operation -/

variable {ω α ε : Type} [HostWorld ω]

/-- An operation on a handle. -/
abbrev HandleAction (ω α : Type) : Type := Action (Handle × ω) TransportError α

/-- Run an operation of the world. -/
@[inline] def outside (x : Action ω ε α) : Action (Handle × ω) ε α :=
  x.on Prod.snd fun w (h, _) => (h, w)

/-- Change the host and answer with what the change gives. -/
def changeHost (f : Host → α × Host) : Action (Handle × ω) ε α :=
  outside (HostWorld.onHost (Action.step f))

/-- Fail if a fault makes this system call fail now. -/
def call (name : SystemCall) : HandleAction ω Unit :=
  outside (HostWorld.onHost (Host.check name)) |>.mapError .io

/-- Change an element of a list and answer with what the change gives. -/
def stepAt {β : Type} (number : Nat) (absent : α) (f : β → α × β) (elements : List β) :
    α × List β :=
  match elements[number]? with
  | none => (absent, elements)
  | some element =>
    let (a, element) := f element
    (a, elements.set number element)

/-- Run an operation of an in-memory link. -/
def atLink (number : Nat) (absent : α) (f : Link → α × Link) : Action (Handle × ω) ε α :=
  changeHost fun host =>
    let (a, links) := stepAt number absent f host.links
    (a, { host with links })

/-- Change a pipe and answer with what the change gives. -/
def atPipe (number : Nat) (absent : α) (f : Pipe → α × Pipe) : Action (Handle × ω) ε α :=
  changeHost fun host =>
    let (a, pipes) := stepAt number absent f host.pipes
    (a, { host with pipes })

/-- Change the network and answer with what the change gives. -/
def atNetwork (f : Network → α × Network) : Action (Handle × ω) ε α :=
  changeHost fun host =>
    let (a, network) := f host.network
    (a, { host with network })

/-- Change a stream and answer with what the change gives. -/
def atStream (number : Nat) (absent : α) (f : Stream → α × Stream) : Action (Handle × ω) ε α :=
  atNetwork fun network =>
    let (a, streams) := stepAt number absent f network.streams
    (a, { network with streams })

/-! ## Reading -/

/-- Bytes from a pipe or a stream; none of them means the end. -/
def orEnd (bytes : Bytes) : HandleAction ω Bytes :=
  if bytes.isEmpty then Action.fail .closed else pure bytes

/-- Take at most `room` bytes. -/
def read (room : Nat) : HandleAction ω Bytes := do
  let handle ← Transport.handle
  match handle with
  | .link number _ =>
    match ← atLink number (.error .closed) (Link.read room) with
    | .ok bytes => return bytes
    | .error .closed => Action.fail .closed
    | .error (.failed e) => Action.fail (.io e)
  | .pipe _ .writer _ => Action.fail (.io (.ofErrno .badDescriptor))
  | .pipe number .reader _ =>
    if room = 0 then
      return []
    else
      outside (HostWorld.await handle.isReady)
      orEnd (← atPipe number [] (Pipe.take room))
  | .stream number side _ =>
    call .receive
    if room = 0 then
      return []
    else
      outside (HostWorld.await handle.isReady)
      if ← atStream number false (fun stream => (stream.wasReset, stream)) then
        Action.fail (.io (.ofErrno .connectionReset))
      else
        orEnd (← atStream number [] (Stream.take side room))
  | .datagram number role peer descriptor =>
    call .receiveFrom
    outside (HostWorld.await handle.isReady)
    match ← atNetwork (Network.takeDatagram number) with
    | none => Action.fail .closed
    | some (bytes, sender) =>
      if peer ≠ some sender then
        Transport.note
          { level := .trace, origin := .sockets, message := "datagram peer changed",
            fields := [("from", .shown sender.text)] }
      Action.change fun (_, w) => (.datagram number role (some sender) descriptor, w)
      return bytes.take room

/-- Whether a read would find something within the timeout. -/
def pollReadable (timeout : Option Duration) : HandleAction ω Bool := do
  let handle ← Transport.handle
  match handle with
  | .link number _ =>
    match ← atLink number (.ok true) (Link.poll timeout) with
    | .ok answer => return answer
    | .error e => Action.fail (.io e)
  | _ => (outside (HostWorld.waitReady handle.isReady timeout)).mapError .io

/-! ## Writing -/

/-- Deliver what a link has accepted to the link it is meant for. -/
def deliver (number : Nat) (accepted : Bytes) (host : Host) : Host :=
  match (host.links[number]?).bind (·.target) with
  | none => host
  | some target =>
    if accepted.isEmpty then host
    else { host with links := host.links.modify target (Link.deliver accepted) }

/-- Offer bytes. -/
def write (bytes : Bytes) : HandleAction ω Nat := do
  match ← Transport.handle with
  | .link number _ =>
    match ← atLink number (.error .closed) (Link.write bytes) with
    | .ok accepted =>
      changeHost fun host => ((), deliver number accepted host)
      return accepted.length
    | .error .closed => Action.fail .closed
    | .error (.failed e) => Action.fail (.io e)
  | .pipe _ .reader _ => Action.fail (.io (.ofErrno .badDescriptor))
  | .pipe number .writer _ =>
    if bytes.isEmpty then
      return 0
    else if ← atPipe number false (fun pipe => (pipe.readerOpen, pipe)) then
      atPipe number () (fun pipe => ((), pipe.put bytes))
      return bytes.length
    else
      Action.fail (.io (.ofErrno .brokenPipe))
  | .stream number side _ =>
    call .send
    if ← atStream number false (fun stream => ((stream.atSide side.other).isOpen, stream)) then
      atStream number () (fun stream => ((), stream.put side bytes))
      return bytes.length
    else
      Action.fail (.io (.ofErrno .brokenPipe))
  | .datagram _ _ none _ => Action.fail .noPeer
  | .datagram number _ (some peer) _ =>
    call .sendTo
    if ← atNetwork (fun network => (network.reaches peer, network)) then
      atNetwork (fun network => ((), network.carry number peer bytes))
      return bytes.length
    else
      Action.fail (.io (.ofErrno .networkUnreachable))

/-! ## Closing -/

/-- Release what a handle stands for, its descriptor and its hold on the environment. -/
def release (handle : Handle) (host : Host) : Host :=
  match handle with
  | .link .. => host
  | .pipe number side descriptor =>
    ({ host with pipes := host.pipes.modify number (Pipe.closeSide side) }
      : Host).closeDescriptor descriptor |>.releaseEnvironment
  | .stream number side descriptor =>
    ({ host with network := host.network.changeStream number (Stream.closeSide side) }
      : Host).closeDescriptor descriptor |>.releaseEnvironment
  | .datagram number _ _ descriptor =>
    ({ host with
        network := host.network.changeDatagrams number
          fun d => { d with holders := d.holders - 1 } }
      : Host).closeDescriptor descriptor |>.releaseEnvironment

/-- Give a handle up. -/
def close : Action (Handle × ω) Empty Unit := do
  let handle ← Transport.handle
  changeHost fun host => ((), release handle host)

instance : Transport ω Handle where
  kind := kind
  readRaw := read
  pollReadable := pollReadable
  writeRaw := write
  flushRaw := do
    match ← Transport.handle with
    | .link number _ => atLink number () (fun link => ((), link.logged .flush))
    | _ => pure ()
  close := close

end Handle

end TypedChannel
