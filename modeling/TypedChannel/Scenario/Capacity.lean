import TypedChannel.Cli.Program
import TypedChannel.Transport.Pipe
/-!
# TypedChannel.Scenario.Capacity

Steps that watch or strain the open-file limits of a process.

1. After a step both the limits of the host and the limits as recorded are
   looked at, in this order, unless the step is a quiet one.
-/

namespace TypedChannel.Scenario

/-- One step. -/
inductive CapacityStep where
  /-- Make room beyond a descriptor. -/
  | ensure (descriptor : Int)
  | fault (fault : Fault)
  | readLimits
  | trackedLimits
  /-- Change the soft limit where this program does not see it. -/
  | setSoft (soft : Nat)
  /-- Open pipes and keep them. -/
  | pipes (count : Nat)
  /-- Run a call of the program. -/
  | call (invocation : Cli.Invocation)
  | nothing

/-- How a step ended. -/
inductive CapacityAnswer where
  | nothing
  | done (result : Except TransportError Unit)
  | limits (result : Except IoError Limits)
  | ended (ending : Cli.Ending Host)

/-- What is seen after a step. -/
structure CapacityReport where
  current : Except IoError Limits
  tracked : Except IoError Limits

namespace CapacityStep

/-- Open pipes. -/
def openPipes : Nat → Action Host TransportError Unit
  | 0 => pure ()
  | count + 1 => do
    let _ ← PipePair.create
    openPipes count

/-- Run a call of the program on what there is of the host. -/
def runCall (invocation : Cli.Invocation) : Action Host Empty CapacityAnswer := fun patience host =>
  (invocation.run { host with output := "" } patience).map fun ending =>
    (.ok (.ended ending), ending.around.world)

/-- Do a step. -/
def run : CapacityStep → Action Host Empty CapacityAnswer
  | ensure descriptor => do return .done (← Action.attempt (Host.ensureCapacity descriptor))
  | fault f => do
    Action.change fun (host : Host) => { host with faults := host.faults ++ [f] }
    return .nothing
  | readLimits => do return .limits (← Action.attempt Host.readLimits)
  | trackedLimits => do return .limits (← Action.attempt Host.trackedLimits)
  | setSoft soft => do
    Action.change fun (host : Host) => { host with limits := { host.limits with soft } }
    return .nothing
  | pipes count => do return .done (← Action.attempt (openPipes count))
  | call invocation => runCall invocation
  | nothing => return .nothing

/-- Look at the limits. -/
def look : Action Host Empty CapacityReport := do
  let current ← Action.attempt Host.readLimits
  let tracked ← Action.attempt Host.trackedLimits
  return { current, tracked }

/-- Do steps in order; the flag of a step tells whether it is a quiet one. -/
def play : List (CapacityStep × Bool) →
    Action Host Empty (List (CapacityAnswer × Option CapacityReport))
  | [] => pure []
  | (step, quiet) :: steps => do
    let answer ← step.run
    let report ← if quiet then pure none else do pure (some (← look))
    return (answer, report) :: (← play steps)

end CapacityStep

end TypedChannel.Scenario
