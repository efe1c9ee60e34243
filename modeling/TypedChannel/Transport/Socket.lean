import TypedChannel.Transport.Handle
/-!
# TypedChannel.Transport.Socket

Finding the address of a host name, and connecting to it.

1. A numeric address needs no look-up; of several addresses of a name the
   first is used.
2. A stream that is not connected in time is reported as such, and so is one
   that the system itself gave up on while a timeout was set.
3. A datagram handle is not connected: it takes a free port and remembers
   where to send.
4. An attempt that fails leaves no descriptor open and does not hold the
   environment.
-/

namespace TypedChannel

namespace Socket

variable {ω α ε : Type} [HostWorld ω]

open HostWorld (onHost)

/-- Tell the log of an event. -/
def note (event : Log.Event) : Action ω ε Unit := Action.change (World.note event)

/-! ## Names -/

/-- The address of a host name. -/
def lookup (name : String) : Action Host IoError IpAddress := do
  if name.toList.contains '\x00' then
    Action.fail .nulInName
  match (← Action.see (·.network.names)).lookup name with
  | none =>
    Action.fail (.described .uncategorized
      "failed to lookup address information: Name or service not known")
  | some [] => Action.fail (.described .notFound "no addresses returned")
  | some (first :: _) => return first

/-- The address of a numeric or named host and a port there. -/
def resolve (name : String) (port : UInt16) : Action ω TransportError SocketAddress :=
  match IpAddress.parse? name with
  | some ip => pure { ip, port }
  | none => do
    let ip ← (onHost (lookup name)).mapError (.resolve name)
    return { ip, port }

/-! ## Opening a socket -/

/-- Hold the environment while `x` runs, and beyond it if it succeeds. -/
def holdingEnvironment (x : Action ω ε α) : Action ω ε α := do
  onHost (Action.change Host.acquireEnvironment)
  x.undoing fun w => HostWorld.setHost (HostWorld.host w).releaseEnvironment w

/-- Keep a descriptor open while `x` runs, and beyond it if it succeeds. -/
def holding (descriptor : Nat) (x : Action ω ε α) : Action ω ε α :=
  x.undoing fun w => HostWorld.setHost ((HostWorld.host w).closeDescriptor descriptor) w

/-- Open a socket that is not yet bound or connected, and go on with its descriptor. -/
def withSocket (wrap : IoError → TransportError) (next : Nat → Action ω TransportError α) :
    Action ω TransportError α := do
  let descriptor ← (onHost (do Host.check .socket; Host.openDescriptor)).mapError wrap
  holding descriptor do
    onHost (Host.ensureCapacity descriptor)
    next descriptor

/-- Give a socket the address it asks for, with a free port instead of port 0. -/
def bindAddress (kind : SocketKind) (address : SocketAddress) : Action Host IoError SocketAddress := do
  Host.check .bind
  let network ← Action.see (·.network)
  if network.hasInterface && !address.ip.isHere then
    Action.fail (.ofErrno .addressNotAvailable)
  let port ← Action.step fun host =>
    let (port, network) := host.network.portOrFree address.port
    (port, { host with network })
  let bound : SocketAddress := { ip := address.ip, port }
  if network.isTaken kind bound then
    Action.fail (.ofErrno .addressInUse)
  return bound

/-! ## Streams -/

/-- What becomes of an attempt to connect a stream. -/
inductive Attempt where
  | established (stream : Nat)
  | refused (errno : Errno)
  /-- Nobody answers, or nobody has room. -/
  | unanswered
  deriving DecidableEq, Repr

/-- Try to reach a listener. An attempt within the host uses up a port. -/
def attempt (address : SocketAddress) (network : Network) : Attempt × Network :=
  if network.hasInterface && address.ip.isSilent then (.unanswered, network)
  else if !network.reaches address then (.refused .networkUnreachable, network)
  else
    let (port, network) := network.portOrFree 0
    match network.listenerAt? address with
    | none => (.refused .connectionRefused, network)
    | some listener =>
      let waiting := ((network.listeners[listener]?).map (·.queue.length)).getD 0
      if Network.backlog ≤ waiting then (.unanswered, network)
      else
        let here := Network.visible address
        let (stream, network) := network.establish { here with port } here listener
        (.established stream, network)

/-- Try to reach a listener. -/
def attemptOnHost (address : SocketAddress) : Action Host IoError Attempt := do
  Host.check .connect
  Action.step fun host =>
    let (attempt, network) := attempt address host.network
    (attempt, { host with network })

/-- Connect for as long as it takes. -/
def connectWaiting (address : SocketAddress) : Action ω IoError Nat := do
  match ← onHost (attemptOnHost address) with
  | .established stream => return stream
  | .refused errno => Action.fail (.ofErrno errno)
  | .unanswered =>
    if address.ip.isSilent then Action.fail (.ofErrno .timedOut) else Action.never

/-- Poll a connection that is under way; a poll that a signal interrupted finds nothing out. -/
def pollUnderWay : Action ω IoError Bool := do
  match ← Action.attempt (onHost (Host.check .poll)) with
  | .ok () => return true
  | .error e => if e.kind = .interrupted then return false else Action.fail e

/-- One round of waiting for a connection that is under way; without an attempt, there is nothing
behind what the system says of it. -/
def pendingRound (timeout : Duration) (start : Instant) (attempt : Option Attempt) (_ : Unit) :
    Action ω IoError (Round Unit Nat) := do
  let now ← Action.step World.look
  if timeout.nanos ≤ (now.since start).nanos then
    Action.fail (.bare .timedOut)
  match attempt with
  | none => Action.fail (.described .other "no error set after POLLHUP")
  | some (.established stream) => return .done stream
  | some (.refused errno) =>
    if ← pollUnderWay then Action.fail (.ofErrno errno) else return .again ()
  | some .unanswered =>
    if ← pollUnderWay then
      let _ ← Action.lift (HostWorld.rest (fun _ => false) (some timeout))
      Action.fail (.bare .timedOut)
    else return .again ()

/-- Give up a stream that was established too late. -/
def abandon (attempt : Option Attempt) (host : Host) : Host :=
  match attempt with
  | some (.established stream) =>
    { host with network := host.network.changeStream stream (Stream.closeSide .client) }
  | some (.refused _) | some .unanswered | none => host

/-- Whether a failure to connect at once means that the attempt goes on. -/
def goesOn (e : IoError) : Bool := e.kind = .wouldBlock || e.kind = .inProgress

/-- Start to connect, and do not wait for it. -/
def startConnecting (address : SocketAddress) : Action Host IoError (Option Attempt) := do
  match ← Action.attempt (attemptOnHost address) with
  | .ok attempt => return some attempt
  | .error e => if goesOn e then return none else Action.fail e

/-- Connect within a timeout. -/
def connectWithin (address : SocketAddress) (timeout : Duration) : Action ω IoError Nat := do
  match ← onHost (startConnecting address) with
  | some (.refused .networkUnreachable) => Action.fail (.ofErrno .networkUnreachable)
  | attempt =>
    let start ← Action.step World.look
    (Action.iterate (pendingRound timeout start attempt) ()).undoing fun w =>
      HostWorld.setHost (abandon attempt (HostWorld.host w)) w

/-- Connect a stream. -/
def connectStream (address : SocketAddress) (timeout : Option Duration) :
    Action ω TransportError Handle :=
  withSocket (.connect address) fun descriptor => do
    let stream ← match timeout with
      | none => (connectWaiting address).mapError (.connect address)
      | some limit => (connectWithin address limit).mapError fun e =>
          if e.kind = .timedOut then .connectTimeout address limit else .connect address e
    note { level := .debug, origin := .sockets, message := "connected stream socket",
           fields := [("addr", .shown address.text), ("fd", .number descriptor)] }
    return .stream stream .client descriptor

/-! ## Datagrams -/

/-- Open a datagram handle that sends to `address`. -/
def connectDatagram (address : SocketAddress) : Action ω TransportError Handle :=
  withSocket (.connect address) fun descriptor => do
    let unspecified := { ip := .unspecified address.family, port := 0 }
    let bound ← (onHost (bindAddress .datagram unspecified)).mapError (.connect address)
    note { level := .debug, origin := .sockets, message := "opened datagram socket",
           fields := [("addr", .shown address.text), ("fd", .number descriptor)] }
    let number ← onHost (Action.step fun host =>
      let (number, network) := host.network.openDatagrams bound
      (number, { host with network }))
    return .datagram number .client (some address) descriptor

/-- Connect to an address. -/
def connectAddress (address : SocketAddress) (kind : SocketKind) (timeout : Option Duration) :
    Action ω TransportError Handle :=
  holdingEnvironment <| match kind with
    | .stream => connectStream address timeout
    | .datagram => connectDatagram address

/-- Connect to a numeric or named host. -/
def connect (name : String) (port : UInt16) (kind : SocketKind) (timeout : Option Duration) :
    Action ω TransportError Handle := do
  connectAddress (← resolve name port) kind timeout

/-! ## Addresses of an open socket -/

/-- The address that `handle` answers to: the other end of a stream, or where datagrams go. -/
def peerAddress (handle : Handle) : Action Host ε (Option SocketAddress) :=
  match handle with
  | .stream number side _ => do
    match ← Action.attempt (Host.check .peerAddress) with
    | .error _ => return none
    | .ok () =>
      Action.see fun host => (host.network.streams[number]?).map (·.atSide side.other |>.address)
  | .datagram _ _ peer _ => pure peer
  | .link .. | .pipe .. => pure none

/-- How the peer of a handle is shown in the log. -/
def peerText (host : Host) (handle : Handle) : String :=
  let peer : Option SocketAddress := match handle with
    | .stream number side _ =>
      (host.network.streams[number]?).map (·.atSide side.other |>.address)
    | .datagram _ _ peer _ => peer
    | .link .. | .pipe .. => none
  match peer with
  | some address => "Some(" ++ address.text ++ ")"
  | none => "None"

/-- The address of a socket itself, if it is one. -/
def localAddress (handle : Handle) : Action Host TransportError (Option SocketAddress) :=
  match handle with
  | .stream number side _ => do
    (Host.check .localAddress).mapError .io
    Action.see fun host => (host.network.streams[number]?).map (·.atSide side |>.address)
  | .datagram number _ _ _ => do
    (Host.check .localAddress).mapError .io
    Action.see fun host => (host.network.datagrams[number]?).map (·.address)
  | .link .. | .pipe .. => pure none

/-- The kind of a socket, if it is one. -/
def kind? : Handle → Option SocketKind
  | .stream .. => some .stream
  | .datagram .. => some .datagram
  | .link .. | .pipe .. => none

end Socket

end TypedChannel
