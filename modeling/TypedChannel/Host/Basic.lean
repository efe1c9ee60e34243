import TypedChannel.Host.Environment
import TypedChannel.Host.Files
import TypedChannel.Host.Limits
import TypedChannel.Host.Link
import TypedChannel.Host.Network
import TypedChannel.Host.Pipe
import TypedChannel.Transport.Error
import TypedChannel.World
/-!
# TypedChannel.Host.Basic

A host as the channels see it: a clock, a log, open files, pipes, sockets,
in-memory links, and the faults that its system calls are to have.

1. A fault names a system call and lets some calls of that name pass before it
   makes one fail; of several faults for one call the first is used.
2. The lowest free descriptor is given out, as long as it lies below the soft
   limit.
-/

namespace TypedChannel

/-- The system calls that can be made to fail. -/
inductive SystemCall where
  | socket
  | setOption
  | bind
  | listen
  | connect
  | accept
  | localAddress
  | peerAddress
  | send
  | receive
  | sendTo
  | receiveFrom
  | poll
  | pipe
  | getLimits
  | setLimits
  deriving DecidableEq, Repr

/-- A failure that a system call is to have, once, after `skip` calls without. -/
structure Fault where
  call : SystemCall
  errno : Int
  skip : Nat := 0
  deriving DecidableEq, Repr

/-- Whether a call fails now, and the faults that are left. -/
def Fault.strike (call : SystemCall) : List Fault → Option Int × List Fault
  | [] => (none, [])
  | fault :: faults =>
    if fault.call = call then
      match fault.skip with
      | 0 => (some fault.errno, faults)
      | skip + 1 => (none, { fault with skip } :: faults)
    else
      let (errno, faults) := strike call faults
      (errno, fault :: faults)

/-- A host. -/
structure Host where
  /-- Nanoseconds since the machine was started, which is a day ago when a program begins. -/
  clock : Nat := 86400000000000
  /-- Log events, the last one first. -/
  journal : List Log.Event := []
  /-- What has been printed. -/
  output : String := ""
  /-- Whether the user has asked the program to stop. -/
  interrupted : Bool := false
  /-- Why a handler for such a wish cannot be installed. -/
  handlerFault : Option String := none
  files : FileTree := {}
  faults : List Fault := []
  environment : Environment := {}
  /-- The open descriptors, in ascending order. -/
  descriptors : List Nat := [0, 1, 2]
  limits : Limits := { soft := 1024, hard := 4096 }
  /-- The limits as last seen or set by this program. -/
  recordedLimits : Option Limits := none
  network : Network := {}
  pipes : List Pipe := []
  links : List Link := []
  deriving DecidableEq, Repr

namespace Host

/-- Looking at the clock takes a nanosecond. -/
def look (host : Host) : Instant × Host :=
  (⟨host.clock⟩, { host with clock := host.clock + 1 })

def note (event : Log.Event) (host : Host) : Host :=
  { host with journal := event :: host.journal }

instance : World Host where
  look := look
  note := note

/-! ## System calls -/

/-- Fail if a fault makes this call fail now. -/
def check (call : SystemCall) : Action Host IoError Unit :=
  fun _ host =>
    let (errno, faults) := Fault.strike call host.faults
    let host := { host with faults }
    match errno with
    | none => some (.ok (), host)
    | some errno => some (.error (.os errno), host)

/-- The lowest number, `next` or above, that an ascending list lacks. -/
def lowestFree (next : Nat) : List Nat → Nat
  | [] => next
  | n :: ns => if n = next then lowestFree (next + 1) ns else next

/-- An ascending list with one more number. -/
def insertNumber (n : Nat) : List Nat → List Nat
  | [] => [n]
  | m :: ms => if n < m then n :: m :: ms else m :: insertNumber n ms

/-- Open a descriptor. -/
def openDescriptor : Action Host IoError Nat :=
  fun _ host =>
    let descriptor := lowestFree 0 host.descriptors
    if descriptor < host.limits.soft then
      some (.ok descriptor,
        { host with descriptors := insertNumber descriptor host.descriptors })
    else some (.error (.ofErrno .tooManyOpenFiles), host)

/-- Close a descriptor. -/
def closeDescriptor (descriptor : Nat) (host : Host) : Host :=
  { host with descriptors := host.descriptors.filter (· != descriptor) }

/-- Create a file. -/
def createFile (path : String) : Action Host IoError Unit := do
  if path.toList.contains '\x00' then
    Action.fail .nulInName
  match (← Action.see (·.files)).create path with
  | .ok () => return ()
  | .error errno => Action.fail (.ofErrno errno)

/-! ## The shared environment -/

/-- Hold the shared environment once more. -/
def acquireEnvironment (host : Host) : Host :=
  let first := host.environment.holders = 0
  let host := { host with environment := host.environment.acquire }
  if first then
    host.note { level := .debug, origin := .environment,
                message := "channel environment initialized", fields := [] }
  else host

/-- Let go of the shared environment once. -/
def releaseEnvironment (host : Host) : Host :=
  let host := { host with environment := host.environment.release }
  if host.environment.holders = 0 then
    host.note { level := .debug, origin := .environment,
                message := "channel environment restored", fields := [] }
  else host

/-! ## Open-file limits -/

/-- Ask for the limits. -/
def readLimits : Action Host IoError Limits := do
  check .getLimits
  Action.see (·.limits)

/-- Set both limits. -/
def setLimits (limits : Limits) : Action Host IoError Unit := do
  check .setLimits
  Action.change fun host => { host with limits }

/-- The limits as last recorded, or freshly read. -/
def trackedLimits : Action Host IoError Limits := do
  match ← Action.see (·.recordedLimits) with
  | some limits => return limits
  | none => readLimits

/-- The recorded limits; they are read the first time. -/
def recordLimits : Action Host TransportError Limits := do
  match ← Action.see (·.recordedLimits) with
  | some limits => return limits
  | none =>
    let limits ← readLimits.mapError .io
    Action.change fun host => { host with recordedLimits := some limits }
    return limits

/-- Make sure that there is room beyond `descriptor`, on a host that is part of a state and where
`set` asks the system for other limits. -/
def makeRoom {s : Type} (onHost : {ε α : Type} → Action Host ε α → Action s ε α)
    (set : Limits → Action s IoError Unit) (descriptor : Int) : Action s TransportError Unit := do
  let limits ← onHost recordLimits
  let shown := ("fd", Log.Value.number descriptor.toNat)
  match limits.raiseFor? descriptor with
  | none =>
    if limits.soft ≤ Limits.needed descriptor then
      onHost <| Action.change <| note
        { level := .debug, origin := .descriptors, message := "descriptor table at hard ceiling",
          fields := [shown, ("soft", .number limits.soft)] }
  | some target =>
    match ← Action.attempt (set { soft := target, hard := limits.hard }) with
    | .error e =>
      onHost <| Action.change <| note
        { level := .warn, origin := .descriptors, message := "raising open-file limit failed",
          fields := [shown, ("soft", .number limits.soft), ("target", .number target),
            ("error", .shown e.message)] }
      Action.fail (.descriptorLimit descriptor.toNat limits.soft e)
    | .ok () =>
      onHost <| Action.change <| note
        { level := .debug, origin := .descriptors, message := "raised open-file limit",
          fields := [shown, ("from", .number limits.soft), ("to", .number target)] }
      onHost <| Action.change fun host =>
        { host with recordedLimits := some { soft := target, hard := limits.hard } }

/-- Make sure that there is room beyond `descriptor`. -/
def ensureCapacity (descriptor : Int) : Action Host TransportError Unit :=
  makeRoom (fun x => x) setLimits descriptor

end Host

end TypedChannel
