import TypedChannel.Scenario.Step
/-!
# TypedChannel.Scenario.Open

Opening the endpoints of a scenario.

1. Entries that name the same diagnostics share them; the first of them says
   whether there is a trace.
2. A pair of sockets is a listener, a client of it and the channel that the
   listener accepts; the listener is closed afterwards.
-/

namespace TypedChannel.Scenario

/-- What to open. -/
inductive Opening where
  | link (link : Link) (role : Role)
  | listener (kind : SocketKind) (address : SocketAddress)
  | client (kind : SocketKind) (host : String) (port : UInt16) (timeout : Option Duration)
  | pipe
  /-- A client of `host` and the server it connects to, which listens on `address`. -/
  | pair (kind : SocketKind) (address : SocketAddress) (host : String)
      (timeout : Option Duration) (keep : Bool)

/-- One entry of a scenario: what to open, how its channels behave, and the buffers around each
transport. -/
structure Entry where
  opening : Opening
  /-- The settings of the channels for given diagnostics. -/
  config : Diagnostics.Handle → ChannelConfig
  diagnostics : String
  /-- The sink of the trace, if there is to be one. -/
  sink : Option Diagnostics.Sink
  buffers : List Nat

/-- A scenario that is being opened, with the diagnostics by name. -/
structure Opened where
  scenario : Scenario
  handles : List (String × Diagnostics.Handle)

/-- How long a pair's server waits for its client. -/
def pairAcceptTimeout : Duration := .ofSeconds 5

/-- The diagnostics of an entry, made if no entry before has made them. -/
def diagnosticsOf (name : String) (sink : Option Diagnostics.Sink)
    (handles : List (String × Diagnostics.Handle)) (store : Diagnostics.Store) :
    Diagnostics.Handle × List (String × Diagnostics.Handle) × Diagnostics.Store :=
  match handles.lookup name with
  | some handle => (handle, handles, store)
  | none =>
    let (handle, store) := match sink with
      | some sink => store.createTraced sink
      | none => store.create
    (handle, handles ++ [(name, handle)], store)

/-- Open what an entry asks for. -/
def Opening.run (config : ChannelConfig) :
    Opening → Action (Surroundings Host) ChannelError (List Endpoint)
  | .link opened role => do
    let number ← Surroundings.outside <| Action.step fun (host : Host) =>
      (host.links.length, { host with links := host.links ++ [opened] })
    return [.channel 0 (← Channel.openOver (.link number opened.kind) role config)]
  | listener kind address => return [.listener (← ChannelListener.bind kind address config)]
  | client kind host port timeout => do
    let options : ClientOptions :=
      { errorsFatal := config.errorsFatal, connectTimeout := timeout, config }
    return [.channel 0 (← Channel.connect host port kind options)]
  | pipe => do
    let (reader, writer) ← Channel.pipe config
    return [.channel 0 reader, .channel 0 writer]
  | pair kind address host timeout keep => do
    let listener ← ChannelListener.bind kind address config
    let options : ClientOptions :=
      { errorsFatal := config.errorsFatal, connectTimeout := timeout, config }
    let client ← Channel.connect host listener.socket.address.port kind options
    let (server, kept) ← listener.serve
      { errorsFatal := config.errorsFatal, acceptTimeout := some pairAcceptTimeout,
        keepListening := keep }
    match kept with
    | some listener => listener.close
    | none => pure ()
    return [.channel 0 client, .channel 0 server]

/-- Open one entry. -/
def Entry.run (entry : Entry) : Action Opened ChannelError Unit := fun patience opened =>
  let (handle, handles, diagnostics) :=
    diagnosticsOf entry.diagnostics entry.sink opened.handles opened.scenario.around.diagnostics
  let around := { opened.scenario.around with diagnostics }
  (entry.opening.run (entry.config handle) patience around).map fun (result, around) =>
    match result with
    | .ok endpoints =>
      let wrapped := endpoints.map fun endpoint =>
        entry.buffers.foldl (fun endpoint capacity => endpoint.buffered capacity) endpoint
      (.ok (),
        { scenario := { endpoints := opened.scenario.endpoints ++ wrapped, around }, handles })
    | .error e => (.error e, { scenario := { opened.scenario with around }, handles })

/-- Open all entries in order. -/
def openAll : List Entry → Action Opened ChannelError Unit
  | [] => pure ()
  | entry :: entries => do
    entry.run
    openAll entries

/-- A host with nothing opened on it. -/
def Opened.onHost (host : Host) : Opened :=
  { scenario := { endpoints := [], around := { world := host, diagnostics := .empty } },
    handles := [] }

/-- Give up every endpoint, in order. -/
def releaseAll : Nat → Nat → Action Scenario Empty Unit
  | _, 0 => pure ()
  | number, count + 1 => do
    release number
    releaseAll (number + 1) count

end TypedChannel.Scenario
