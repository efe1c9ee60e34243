import TypedChannel.Channel.Listener
import TypedChannel.Channel.Message
/-!
# TypedChannel.Scenario.Endpoint

The endpoints of a scenario: channels under any number of buffers, and
listeners, all on one host.

1. An endpoint keeps its number when it is dropped; nothing can be done with
   it any more.
-/

namespace TypedChannel

namespace Layered

variable {σ : Type}

/-- The transport under all buffers. -/
def base : (n : Nat) → Layered σ n → σ
  | 0, transport => transport
  | n + 1, (b : Buffered (Layered σ n)) => base n b.inner

/-- The buffers, the outermost first: how many bytes are unread and pending, and the capacity. -/
def buffers : (n : Nat) → Layered σ n → List (Nat × Nat × Nat)
  | 0, _ => []
  | n + 1, (b : Buffered (Layered σ n)) =>
    (b.unread.length, b.pending.length, b.capacity) :: buffers n b.inner

/-- One more buffer around a transport. -/
def wrap (capacity : Nat) {n : Nat} (transport : Layered σ n) : Layered σ (n + 1) :=
  Buffered.wrap capacity transport

end Layered

/-- One endpoint. -/
inductive Endpoint where
  | channel (depth : Nat) (channel : Channel (Layered Handle depth))
  | listener (listener : ChannelListener)
  /-- Dropped; what was over an in-memory link is still told of that. -/
  | gone (link : Option Nat)

/-- The endpoints of a scenario and what they share. -/
structure Scenario where
  endpoints : List Endpoint
  around : Surroundings Host

namespace Endpoint

/-- The handle that an endpoint moves bytes through. -/
def handle? : Endpoint → Option Handle
  | channel depth ch => some (Layered.base depth ch.transport)
  | listener _ | gone _ => none

/-- The number of buffers of an endpoint. -/
def depth : Endpoint → Nat
  | channel depth _ => depth
  | listener _ | gone _ => 0

/-- The most buffers that an endpoint over a handle can have. -/
def maxDepth : Handle → Nat
  | .link .. => 2
  | .pipe .. | .stream .. | .datagram .. => 1

/-- One more buffer around the transport of an endpoint, if it can have one. -/
def buffered (capacity : Nat) : Endpoint → Endpoint
  | channel depth ch =>
    if depth < maxDepth (Layered.base depth ch.transport) then
      channel (depth + 1) (ch.mapTransport (Layered.wrap capacity))
    else channel depth ch
  | endpoint => endpoint

/-- The in-memory link that an endpoint is over. -/
def link? : Endpoint → Option Nat
  | channel depth ch =>
    match Layered.base depth ch.transport with
    | .link number _ => some number
    | .pipe .. | .stream .. | .datagram .. => none
  | listener _ => none
  | gone link => link

end Endpoint

namespace Scenario

/-- Why a step of a scenario has no answer. -/
inductive Refusal where
  /-- The endpoint offers nothing of the kind. -/
  | unavailable
  | failed (e : ChannelError)
  deriving DecidableEq, Repr

/-- One step of a scenario. -/
abbrev StepAction (α : Type) : Type := Action Scenario Refusal α

variable {α ε : Type}

/-- No answer, because the endpoint offers nothing of the kind. -/
def unavailable : StepAction α := Action.fail .unavailable

/-- The endpoint of a number. -/
def endpoint (number : Nat) (scenario : Scenario) : Endpoint :=
  (scenario.endpoints[number]?).getD (.gone none)

/-- Put an endpoint in the place of another. -/
def setEndpoint (number : Nat) (endpoint : Endpoint) (scenario : Scenario) : Scenario :=
  { scenario with endpoints := scenario.endpoints.set number endpoint }

/-- Add an endpoint and answer with its number. -/
def addEndpoint (endpoint : Endpoint) : StepAction Nat :=
  Action.step fun scenario =>
    (scenario.endpoints.length, { scenario with endpoints := scenario.endpoints ++ [endpoint] })

/-- Run an action of what the endpoints share. -/
def inSurroundings (x : Action (Surroundings Host) ε α) : Action Scenario ε α :=
  x.on around fun around scenario => { scenario with around }

/-- Run an action of the host. -/
def onHost (x : Action Host ε α) : Action Scenario ε α := inSurroundings (Surroundings.outside x)

/-- Run an operation of an endpoint's channel. -/
def onChannel (number : Nat)
    (x : (depth : Nat) → ChannelAction (Layered Handle depth) Host α) : StepAction α :=
  fun patience scenario =>
    match scenario.endpoint number with
    | .channel depth channel =>
      (x depth patience (channel, scenario.around)).map fun (result, (channel, around)) =>
        (result.mapError .failed,
          { scenario with around } |>.setEndpoint number (.channel depth channel))
    | .listener _ | .gone _ => some (.error .unavailable, scenario)

/-- Give up an endpoint's transport. -/
def release (number : Nat) : Action Scenario ε Unit :=
  fun patience scenario =>
    let gone (around : Surroundings Host) : Scenario :=
      { scenario with around } |>.setEndpoint number (.gone (scenario.endpoint number).link?)
    match scenario.endpoint number with
    | .channel depth channel =>
      ((Transport.close : Action (Layered Handle depth × Host) Empty Unit) patience
          (channel.transport, scenario.around.world)).map fun (_, (_, world)) =>
        (.ok (), gone { scenario.around with world })
    | .listener listener =>
      ((listener.close : Action (Surroundings Host) Empty Unit) patience scenario.around).map
        fun (_, around) => (.ok (), gone around)
    | .gone _ => some (.ok (), scenario)

end Scenario

end TypedChannel
