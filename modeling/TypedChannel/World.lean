import TypedChannel.Action
import TypedChannel.Log
import TypedChannel.Time
/-!
# TypedChannel.World

What the operations of this library need of the world around them: a clock and
a place for log events.
-/

namespace TypedChannel

/-- A world with a clock and a log. -/
class World (ω : Type) where
  /-- Look at the clock. Time may pass while one looks. -/
  look : ω → Instant × ω
  /-- Tell the log of an event. -/
  note : Log.Event → ω → ω

/-- The deadline of an operation that starts now. Without a timeout nobody looks at the clock. -/
def Deadline.startNow {ω : Type} [World ω] (timeout : Option Duration) (world : ω) :
    Deadline × ω :=
  match timeout with
  | none => (⟨none⟩, world)
  | some _ =>
    let (now, world) := World.look world
    (Deadline.starting now timeout, world)

/-- The time left now. Without a deadline nobody looks at the clock. -/
def Deadline.remainingNow {ω : Type} [World ω] (deadline : Deadline) (world : ω) :
    Option Duration × ω :=
  match deadline.at? with
  | none => (none, world)
  | some _ =>
    let (now, world) := World.look world
    (deadline.remaining now, world)

end TypedChannel
