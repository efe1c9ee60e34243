import TypedChannel.Bytes
/-!
# TypedChannel.Host.Pipe

The pipes of a host: bytes that one end puts in and the other takes out.

1. What was put in stays when the writer closes; a read finds the end only
   behind it.
-/

namespace TypedChannel

/-- The two ends of a pipe. -/
inductive PipeSide where
  | reader
  | writer
  deriving DecidableEq, Repr

/-- A pipe: what waits in it, and which of its ends are open. -/
structure Pipe where
  content : Bytes := []
  readerOpen : Bool := true
  writerOpen : Bool := true
  deriving DecidableEq, Repr

namespace Pipe

/-- Whether a read would not block. -/
def isReadable (pipe : Pipe) : Bool := !pipe.content.isEmpty || !pipe.writerOpen

/-- Take at most `room` bytes out. -/
def take (room : Nat) (pipe : Pipe) : Bytes × Pipe :=
  (pipe.content.take room, { pipe with content := pipe.content.drop room })

/-- Put bytes in. -/
def put (bytes : Bytes) (pipe : Pipe) : Pipe := { pipe with content := pipe.content ++ bytes }

/-- Close one end. -/
def closeSide (side : PipeSide) (pipe : Pipe) : Pipe :=
  match side with
  | .reader => { pipe with readerOpen := false }
  | .writer => { pipe with writerOpen := false }

end Pipe

end TypedChannel
