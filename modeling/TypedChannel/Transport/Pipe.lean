import TypedChannel.Transport.Socket
/-!
# TypedChannel.Transport.Pipe

Making pipes, and moving their ends.

1. Both ends of a new pipe get a descriptor or neither does, and each of them
   holds the environment.
2. An end that moves to a new owner lets go of the environment and takes hold
   of it again; its descriptor and what waits in the pipe stay.
-/

namespace TypedChannel.PipePair

open HostWorld (onHost)

variable {ω ε : Type} [HostWorld ω]

/-- Descriptors for both ends. -/
def openDescriptors : Action Host IoError (Nat × Nat) := do
  Host.check .pipe
  let reader ← Host.openDescriptor
  let writer ← Host.openDescriptor.undoing (Host.closeDescriptor reader)
  return (reader, writer)

/-- Make a pipe: its read end and its write end. -/
def create : Action ω TransportError (Handle × Handle) := do
  let (reader, writer) ← (onHost openDescriptors).mapError .io
  Socket.holding reader <| Socket.holding writer do
    onHost (Host.ensureCapacity reader)
    onHost (Host.ensureCapacity writer)
  Socket.note
    { level := .debug, origin := .pipes, message := "created pipe",
      fields := [("read_fd", .number reader), ("write_fd", .number writer)] }
  let number ← onHost (Action.step fun host =>
    (host.pipes.length,
      ({ host with pipes := host.pipes ++ [{}] } : Host).acquireEnvironment.acquireEnvironment))
  return (.pipe number .reader reader, .pipe number .writer writer)

end TypedChannel.PipePair

namespace TypedChannel

/-- The descriptor of an end of a pipe, which belongs to no handle. -/
structure PipeEnd where
  number : Nat
  side : PipeSide
  descriptor : Nat
  deriving DecidableEq, Repr

namespace PipeEnd

open HostWorld (onHost)

variable {ω ε : Type} [HostWorld ω]

/-- The handle of an end. -/
def handle (pipeEnd : PipeEnd) : Handle := .pipe pipeEnd.number pipeEnd.side pipeEnd.descriptor

/-- Make a handle of a descriptor. -/
def wrap (pipeEnd : PipeEnd) : Action ω ε Handle := do
  onHost (Action.change Host.acquireEnvironment)
  return pipeEnd.handle

/-- Take the descriptor out of its handle, which is gone then. -/
def unwrap (pipeEnd : PipeEnd) : Action ω ε PipeEnd := do
  onHost (Action.change Host.releaseEnvironment)
  return pipeEnd

/-- Move an end to a new owner. -/
def rewrap (pipeEnd : PipeEnd) : Action ω ε Handle := do
  wrap (← unwrap pipeEnd)

end PipeEnd

end TypedChannel
