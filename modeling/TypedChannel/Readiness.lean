import TypedChannel.IoError
import TypedChannel.World
/-!
# TypedChannel.Readiness

Waiting for a descriptor with a deadline, on top of a poll that counts in
whole milliseconds.

1. Without a timeout nobody polls: the answer is yes, and the caller goes on
   to a read that blocks.
2. A poll that a signal interrupted is repeated with what is left of the
   timeout; a poll that finds nothing ends the wait.
3. A wait of less than a millisecond still polls for one.
-/

namespace TypedChannel.Readiness

/-- The most milliseconds that one poll can wait. -/
def maxPollMillis : Nat := 2147483647

/-- The milliseconds to poll for when `left` is left. -/
def pollMillis (left : Duration) : Nat :=
  let millis := if left.millis = 0 && left.nanos != 0 then 1 else left.millis
  min millis maxPollMillis

/-- What a poll has found. -/
inductive PollResult where
  /-- Nothing in the time it was given. -/
  | idle
  /-- Something to read, or the end, or an error that a read will report. -/
  | ready
  /-- The descriptor is not open. -/
  | invalid
  deriving DecidableEq, Repr

variable {ω : Type} [World ω]

/-- One round of a wait: poll once with what is left of the deadline. -/
def waitRound (poll : Nat → Action ω IoError PollResult) (deadline : Deadline) (_ : Unit) :
    Action ω IoError (Round Unit Bool) := do
  let left := (← Action.step deadline.remainingNow).getD .zero
  match ← Action.attempt (poll (pollMillis left)) with
  | .error e => if e.kind = .interrupted then return .again () else Action.fail e
  | .ok .idle => return .done false
  | .ok .ready => return .done true
  | .ok .invalid => Action.fail (.ofErrno .badDescriptor)

/-- Wait until `poll` finds something or the timeout has passed. -/
def wait (poll : Nat → Action ω IoError PollResult) (timeout : Option Duration) :
    Action ω IoError Bool :=
  match timeout with
  | none => pure true
  | some _ => do
    let deadline ← Action.step (Deadline.startNow timeout)
    Action.iterate (waitRound poll deadline) ()

end TypedChannel.Readiness
