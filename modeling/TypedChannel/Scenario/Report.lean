import TypedChannel.Scenario.Open
/-!
# TypedChannel.Scenario.Report

Playing a scenario, and what is seen of its endpoints on the way.

1. After each step its endpoint is reported on; the calls that an in-memory
   link has seen are reported once.
-/

namespace TypedChannel.Scenario

/-- What is seen of an endpoint. -/
inductive Report where
  /-- Nothing but the calls that a link has seen. -/
  | gone (calls : Option (List LinkCall))
  /-- The listener and the last error of its diagnostics. -/
  | listener (listener : ChannelListener) (shared : Option String)
  /-- The counters of a channel, its last error and that of its diagnostics, its buffers, and the
  calls that its link has seen. -/
  | channel (sent received : Nat) (last shared : Option String) (buffers : List (Nat × Nat × Nat))
      (calls : Option (List LinkCall))

/-- Take the calls that a link has seen, in order. -/
def takeCalls (scenario : Scenario) (link : Nat) : List LinkCall × Scenario :=
  let host := scenario.around.world
  let calls := ((host.links[link]?).map (·.calls)).getD []
  let host := { host with links := host.links.modify link ({ · with calls := [] }) }
  (calls.reverse, { scenario with around := { scenario.around with world := host } })

/-- Take the calls that an endpoint's link has seen. -/
def takeEndpointCalls (number : Nat) (scenario : Scenario) : Option (List LinkCall) × Scenario :=
  match (scenario.endpoint number).link? with
  | none => (none, scenario)
  | some link =>
    let (calls, scenario) := scenario.takeCalls link
    (some calls, scenario)

/-- Report on an endpoint. -/
def report (number : Nat) (scenario : Scenario) : Report × Scenario :=
  let (calls, scenario) := scenario.takeEndpointCalls number
  let shared (config : ChannelConfig) :=
    scenario.around.diagnostics.lastError config.diagnostics
  match scenario.endpoint number with
  | .gone _ => (.gone calls, scenario)
  | .listener listener => (.listener listener (shared listener.config), scenario)
  | .channel depth channel =>
    (.channel channel.bytesSent channel.bytesReceived channel.lastError (shared channel.config)
      (Layered.buffers depth channel.transport) calls, scenario)

/-- Play steps in order, each with its endpoint's number. Gives for each how it ended and the report
that follows. -/
def play : List (Nat × Step) → Action Scenario Empty (List (Except Refusal Answer × Report))
  | [] => pure []
  | (number, step) :: steps => do
    let result ← Action.attempt (step.run number)
    let seen ← Action.step (report number)
    return (result, seen) :: (← play steps)

/-- What is left of an in-memory link: its stream, its datagrams, and the calls not yet reported. -/
structure LinkRest where
  stream : Bytes
  datagrams : List Bytes
  calls : List LinkCall

/-- How a scenario ended. -/
structure Outcome where
  steps : List (Except Refusal Answer × Report)
  rest : List LinkRest
  /-- The trace of each diagnostics, by name. -/
  traces : List (String × String)

/-- What is left once every endpoint has been dropped. -/
def outcome (steps : List (Except Refusal Answer × Report))
    (handles : List (String × Diagnostics.Handle)) (scenario : Scenario) : Outcome :=
  { steps
    rest := scenario.around.world.links.map fun link =>
      { stream := link.stream, datagrams := link.datagrams, calls := link.calls.reverse }
    traces := handles.map fun (name, handle) =>
      (name, ((handle.sink.map fun sink => scenario.around.diagnostics.sinkText sink)).getD "") }

/-- Open entries on a host, play steps, and drop everything. -/
def perform (host : Host) (entries : List Entry) (steps : List (Nat × Step)) (patience : Nat) :
    Option (Except ChannelError Outcome) :=
  match openAll entries patience (.onHost host) with
  | none => none
  | some (.error e, _) => some (.error e)
  | some (.ok (), opened) => do
    let (played, scenario) ← play steps patience opened.scenario
    let (_, scenario) ← releaseAll 0 scenario.endpoints.length patience scenario
    match played with
    | .ok played => some (.ok (outcome played opened.handles scenario))

end TypedChannel.Scenario
