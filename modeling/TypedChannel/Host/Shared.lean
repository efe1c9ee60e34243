import TypedChannel.Host.World
/-!
# TypedChannel.Host.Shared

A host that somebody else uses too.

1. While an operation waits, the neighbour acts, one thing after another, until
   the operation has what it waits for or the neighbour can do no more.
2. Time passes only when neither can go on: up to the end of the wait, or up to
   the moment when the neighbour gives up waiting, whichever comes first.
-/

namespace TypedChannel

/-- Somebody who uses a host beside the program. -/
class Neighbour (υ : Type) where
  /-- Do the next thing, if it can be done now. The first argument is the patience with the loops
  in it. -/
  act : Nat → υ → Host → Option (υ × Host)
  /-- When the neighbour gives up what it waits for, in nanoseconds since the start, and how it
  goes on from there. -/
  givesUp? : υ → Option (Nat × υ)

/-- A host with a neighbour on it. -/
structure SharedHost (υ : Type) where
  host : Host
  neighbour : υ

namespace SharedHost

variable {υ ε : Type} [Neighbour υ]

instance : World (SharedHost υ) where
  look shared :=
    let (now, host) := shared.host.look
    (now, { shared with host })
  note event shared := { shared with host := shared.host.note event }

/-- Let time pass until `moment`, if that is still to come. -/
def waitUntil (moment : Nat) (shared : SharedHost υ) : SharedHost υ :=
  { shared with host := { shared.host with clock := max shared.host.clock moment } }

/-- Let the neighbour do one thing, or if it cannot let time pass, at most until `limit`. Answers
whether that changed anything. -/
def progress (limit : Option Nat) : Action (SharedHost υ) ε Bool := fun patience shared =>
  match Neighbour.act patience shared.neighbour shared.host with
  | some (neighbour, host) => some (.ok true, { host, neighbour })
  | none =>
    match Neighbour.givesUp? shared.neighbour with
    | none => some (.ok false, shared)
    | some (moment, neighbour) =>
      if limit.all (moment ≤ ·) then
        some (.ok true, { shared.waitUntil moment with neighbour })
      else some (.ok false, shared)

/-- One round of waiting for `ready`, at most until `limit`. -/
def restRound (ready : Host → Bool) (limit : Option Nat) (_ : Unit) :
    Action (SharedHost υ) Empty (Round Unit Bool) := do
  if ← Action.see fun shared => ready shared.host then
    return .done true
  else if ← progress limit then
    return .again ()
  else
    match limit with
    | none => Action.never
    | some moment =>
      Action.change (waitUntil moment)
      return .done false

/-- Wait for `ready`. -/
def rest (ready : Host → Bool) (limit : Option Duration) : Action (SharedHost υ) Empty Bool := do
  let now ← Action.see (·.host.clock)
  Action.iterate (restRound ready (limit.map (now + ·.nanos))) ()

instance : HostWorld (SharedHost υ) where
  host := host
  setHost host shared := { shared with host }
  rest := rest

/-- One round of letting the neighbour go on. -/
def finishRound (_ : Unit) : Action (SharedHost υ) Empty (Round Unit Unit) := do
  if ← progress none then return .again () else return .done ()

/-- Let the neighbour go on for as long as there is anything it can do. -/
def finish : Action (SharedHost υ) Empty Unit := Action.iterate finishRound ()

end SharedHost

end TypedChannel
