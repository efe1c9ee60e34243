import TypedChannel.Host.Basic
import TypedChannel.Readiness
/-!
# TypedChannel.Host.World

Worlds with a host in them, and waiting for something to happen there.

1. A host alone lets time pass and does nothing else, so what is not there at
   once never comes.
-/

namespace TypedChannel

/-- A world that has a host in it. -/
class HostWorld (ω : Type) extends World ω where
  host : ω → Host
  setHost : Host → ω → ω
  /-- Let the world go on until `ready` holds of the host, for at most `limit`. Answers whether it
  holds then. -/
  rest : (ready : Host → Bool) → (limit : Option Duration) → Action ω Empty Bool

namespace Host

/-- Let time pass. -/
def rest (ready : Host → Bool) (limit : Option Duration) : Action Host Empty Bool :=
  fun _ host =>
    if ready host then some (.ok true, host)
    else limit.map fun d => (.ok false, { host with clock := host.clock + d.nanos })

instance : HostWorld Host where
  host := id
  setHost host _ := host
  rest := rest

end Host

namespace HostWorld

variable {ω α ε : Type} [HostWorld ω]

/-- Run an action of the host. -/
@[inline] def onHost (x : Action Host ε α) : Action ω ε α := x.on host setHost

/-- Wait for as long as it takes. -/
def await (ready : Host → Bool) : Action ω ε Unit := do
  let _ ← Action.lift (rest ready none)

/-- Poll for what `ready` tells of the host. -/
def poll (ready : Host → Bool) (millis : Nat) : Action ω IoError Readiness.PollResult := do
  onHost (Host.check .poll)
  if ← Action.lift (rest ready (some (.ofMillis millis))) then return .ready else return .idle

/-- Wait until `ready` holds of the host or the timeout has passed. -/
def waitReady (ready : Host → Bool) (timeout : Option Duration) : Action ω IoError Bool :=
  Readiness.wait (poll ready) timeout

/-- Wait for a descriptor that stands for nothing this library knows: a negative one is never
ready, and any other is not open. -/
def waitDescriptor (descriptor : Int) (timeout : Option Duration) : Action ω IoError Bool :=
  if descriptor < 0 then waitReady (fun _ => false) timeout
  else
    Readiness.wait
      (fun _ => do onHost (Host.check .poll); return .invalid) timeout

end HostWorld

end TypedChannel
