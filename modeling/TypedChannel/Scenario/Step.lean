import TypedChannel.Channel.Describe
import TypedChannel.Scenario.Endpoint
/-!
# TypedChannel.Scenario.Step

What can be done with an endpoint of a scenario, and the answers to it.

1. A step that an endpoint does not offer is refused as unavailable and
   changes nothing.
2. The raw operations go past the channel to its transport; their failures do
   not count as failures of the channel.
-/

namespace TypedChannel.Scenario

/-! ## Steps and answers -/

/-- The depth and the description of a trace line. -/
structure TraceMark where
  depth : Nat
  description : String

/-- One thing to do with an endpoint. -/
inductive Step where
  | send (message : Message) (mark : Option TraceMark)
  | accept (request : Request) (options : ReceiveOptions) (mark : Option TraceMark)
  | flush
  | messageReady (timeout : Option Duration)
  | rawRead (room : Nat)
  | rawReceive (wanted : Nat) (options : ReceiveOptions)
  | rawPoll (timeout : Option Duration)
  | rawWrite (bytes : Bytes)
  | rawTransmit (bytes : Bytes)
  | rawFlush
  | setFatal (value : Bool)
  | setSuppress (value : Bool)
  | recordError (message : String)
  | clearError
  /-- How many things hold the environment. -/
  | holders
  | settings
  /-- Deliver bytes to an in-memory link. -/
  | feed (bytes : Bytes)
  /-- End the input of an in-memory link. -/
  | endInput
  /-- Lengthen the scripts of an in-memory link. -/
  | script (reads writes : List LinkEvent) (polls : List LinkPoll)
  /-- Wrap the transport once more. -/
  | buffer (capacity : Nat)
  /-- Drop the endpoint. -/
  | drop
  /-- Take the transport out of its channel and drop it. -/
  | unwrap
  /-- Whether another endpoint is the peer. -/
  | peering (other : Nat)
  /-- Accept the next peer of a listener as a new endpoint, for the last time if `once`. -/
  | acceptPeer (timeout : Option Duration) (once : Bool)
  | addresses
  /-- Make a system call fail. -/
  | fault (fault : Fault)
  /-- Move a pipe end to a new owner. -/
  | rewrap
  /-- Whether a buffer shows the descriptor of what it wraps. -/
  | sharesDescriptor
  | describe

/-- The answer to a step. -/
inductive Answer where
  | done
  | number (n : Nat)
  | flag (value : Bool)
  | text (value : String)
  | bytes (content : Bytes)
  | message (message : Message)
  | settings (role : Role) (kind : TransportKind) (config : ChannelConfig)
  /-- Whether the peer is known, and whether it is the other endpoint. -/
  | peering (known same : Bool)
  | noPeering
  /-- Own and peer address, whether the transport agrees with its channel on the role, and the
  kind. -/
  | addresses (own : SocketAddress) (peer : Option SocketAddress) (agrees : Bool)
      (kind : SocketKind)

/-! ## Parts of a step -/

/-- Refuse the step unless the endpoint's handle satisfies `test`. -/
def requireHandle (number : Nat) (test : Handle → Bool) : StepAction Handle := do
  match ((← Action.see id).endpoint number).handle? with
  | some handle => if test handle then return handle else unavailable
  | none => unavailable

/-- Run an operation that takes bytes. -/
def reading {α : Type} (number : Nat)
    (x : (depth : Nat) → ChannelAction (Layered Handle depth) Host α) : StepAction α := do
  let _ ← requireHandle number Handle.isReadable
  onChannel number x

/-- Run an operation that puts bytes. -/
def writing {α : Type} (number : Nat)
    (x : (depth : Nat) → ChannelAction (Layered Handle depth) Host α) : StepAction α := do
  let _ ← requireHandle number Handle.isWritable
  onChannel number x

/-- Run an operation of the transport itself. -/
def raw {α : Type} {depth : Nat}
    (x : Action (Layered Handle depth × Host) TransportError α) :
    ChannelAction (Layered Handle depth) Host α := do
  Action.ofExcept ((← Channel.onTransport x).mapError .transport)

/-- Change a channel. -/
def changeChannel (number : Nat) (f : ChannelConfig → ChannelConfig) : StepAction Answer := do
  onChannel number fun _ => Action.change fun (channel, around) =>
    ({ channel with config := f channel.config }, around)
  return .done

/-- Change the diagnostics of a channel. -/
def changeDiagnostics (number : Nat)
    (f : Diagnostics.Handle → Diagnostics.Store → Diagnostics.Store) : StepAction Answer := do
  onChannel number fun _ => Action.change fun (channel, around) =>
    (channel, { around with diagnostics := f channel.config.diagnostics around.diagnostics })
  return .done

/-- Change an in-memory link. -/
def changeLink (number : Nat) (f : Link → Link) : StepAction Answer := do
  match ← requireHandle number (fun _ => true) with
  | .link link _ =>
    onHost (Action.change fun host => { host with links := host.links.modify link f })
    return .done
  | .pipe .. | .stream .. | .datagram .. => unavailable

/-- Failures of the transport layer as failures of a step. -/
def orRefuse {α : Type} (x : Action Host TransportError α) : StepAction α :=
  onHost (x.mapError (.failed ∘ .transport))

/-! ## Steps -/

/-- Whether another endpoint is the peer of this one. -/
def peering (handle : Handle) (other : Option Handle) : StepAction Answer := do
  match Socket.kind? handle, other.bind fun h => (Socket.kind? h).map fun _ => h with
  | some _, some other =>
    let peer ← onHost (Socket.peerAddress handle)
    let own ← orRefuse (Socket.localAddress other)
    return .peering peer.isSome (peer.isSome && peer.map (·.port) == own.map (·.port))
  | _, _ => return .noPeering

/-- The addresses of a socket. -/
def addresses (role : Role) (handle : Handle) : StepAction Answer := do
  match Socket.kind? handle with
  | none => unavailable
  | some kind =>
    match ← orRefuse (Socket.localAddress handle) with
    | none => unavailable
    | some own =>
      let peer ← onHost (Socket.peerAddress handle)
      return .addresses own peer (role == handle.role) kind

/-- Accept the next peer of a listener. -/
def acceptPeer (number : Nat) (timeout : Option Duration) (once : Bool) : StepAction Answer := do
  match (← Action.see id).endpoint number with
  | .listener listener =>
    if once then
      Action.change (setEndpoint number (.gone none))
    let channel ← inSurroundings <| Action.mapError .failed <|
      if once then listener.acceptOnce timeout else listener.accept timeout
    return .number (← addEndpoint (.channel 0 channel))
  | .channel .. | .gone _ => unavailable

/-- Do one thing with the endpoint of a number. -/
def Step.run (number : Nat) : Step → StepAction Answer
  | send message mark =>
    writing number fun _ => do
      match mark with
      | none => Channel.sendMessage message
      | some mark => Channel.sendMessageTraced mark.depth mark.description message
      return .done
  | accept request options mark =>
    reading number fun _ => return .message (← match mark with
      | none => Channel.acceptMessage options request
      | some mark => Channel.acceptMessageTraced mark.depth mark.description options request)
  | flush => writing number fun _ => do Channel.flush; return .done
  | messageReady timeout => reading number fun _ => return .flag (← Channel.messageReady timeout)
  | rawRead room => reading number fun _ => return .bytes (← raw (Transport.readRaw room))
  | rawReceive wanted options => reading number fun _ =>
    return .bytes (← raw (Transport.receive wanted options.timeout options.everything))
  | rawPoll timeout => reading number fun _ => return .flag (← raw (Transport.pollReadable timeout))
  | rawWrite bytes => writing number fun _ => return .number (← raw (Transport.writeRaw bytes))
  | rawTransmit bytes => writing number fun _ => do raw (Transport.transmit bytes); return .done
  | rawFlush => writing number fun _ => do raw Transport.flushRaw; return .done
  | setFatal value => changeChannel number ({ · with errorsFatal := value })
  | setSuppress value => changeChannel number ({ · with suppressMessages := value })
  | recordError message => changeDiagnostics number (Diagnostics.Store.recordError message)
  | clearError => changeDiagnostics number Diagnostics.Store.clearError
  | holders => do
    let _ ← requireHandle number fun _ => true
    return .number (← onHost (Action.see (·.environment.holders)))
  | settings => do
    let handle ← requireHandle number fun _ => true
    onChannel number fun _ => Action.see fun (channel, _) =>
      .settings channel.role handle.kind channel.config
  | feed bytes => changeLink number (Link.deliver bytes)
  | endInput => changeLink number ({ · with ended := true })
  | script reads writes polls => changeLink number fun link =>
    { link with
      reads := link.reads ++ reads, writes := link.writes ++ writes, polls := link.polls ++ polls }
  | buffer capacity => do
    let _ ← requireHandle number fun _ => true
    Action.change fun s => s.setEndpoint number ((s.endpoint number).buffered capacity)
    return .done
  | drop => do
    match (← Action.see id).endpoint number with
    | .gone _ => unavailable
    | .channel .. | .listener _ =>
      release number
      return .done
  | unwrap => do
    let _ ← requireHandle number fun _ => true
    release number
    return .done
  | .peering other => do
    let handle ← requireHandle number fun _ => true
    Scenario.peering handle ((← Action.see id).endpoint other).handle?
  | .acceptPeer timeout once => Scenario.acceptPeer number timeout once
  | .addresses => do
    let handle ← requireHandle number fun _ => true
    if ((← Action.see id).endpoint number).depth ≠ 0 then unavailable
    else Scenario.addresses (← onChannel number fun _ => Action.see (·.1.role)) handle
  | .fault added => do
    onHost (Action.change fun host => { host with faults := host.faults ++ [added] })
    return .done
  | rewrap => do
    let _ ← requireHandle number (·.kind == .pipe)
    if ((← Action.see id).endpoint number).depth ≠ 0 then unavailable
    else
      match ((← Action.see id).endpoint number).handle? with
      | some (.pipe pipe side descriptor) =>
        let _ ← onHost (PipeEnd.rewrap { number := pipe, side, descriptor })
        return .done
      | _ => unavailable
  | sharesDescriptor => do
    let handle ← requireHandle number fun _ => true
    return .flag (handle.descriptor?.isSome && ((← Action.see id).endpoint number).depth == 1)
  | describe => do
    let handle ← requireHandle number fun _ => true
    let inner ← onHost (Action.lift handle.describe)
    onChannel number fun depth => Action.see fun (channel, around) =>
      .text (channel.describe (Layered.describe inner depth channel.transport) around.diagnostics)

end TypedChannel.Scenario
