import TypedChannel.Channel.Error
/-!
# TypedChannel.Cli.Exit

How a command ends: its exit code, and the message when it has failed.

1. The code of a failed channel operation follows from the category of the
   error; the message leaves out the fatal wrappers.
2. A failure of the operating system itself is told by its own text and its
   own code.
-/

namespace TypedChannel.Cli

/-- Exit codes. -/
def success : Nat := 0
def generalFailure : Nat := 1
def transportFailure : Nat := 3
def permissionDenied : Nat := 50
def dataInvalid : Nat := 60
def timedOut : Nat := 124
def internalFailure : Nat := 125

/-- A failed command. -/
structure Failure where
  code : Nat
  message : String
  deriving DecidableEq, Repr

namespace Failure

/-- The exit code for a failure of the operating system. -/
def codeOfIo (e : IoError) : Nat :=
  match e.kind with
  | .permissionDenied => permissionDenied
  | .timedOut | .wouldBlock => timedOut
  | .connectionRefused => generalFailure
  | _ => internalFailure

/-- A failure of the operating system while doing what `context` says. -/
def ofIo (context : String) (e : IoError) : Failure :=
  { code := codeOfIo e, message := context ++ ": " ++ e.message }

/-- A failed channel operation while doing what `context` says. -/
def ofChannel (context : String) (e : ChannelError) : Failure :=
  let withCode (code : Nat) : Failure := { code, message := context ++ ": " ++ e.root.message }
  match e.category with
  | .peerGone => withCode generalFailure
  | .timeout => withCode timedOut
  | .protocol => withCode dataInvalid
  | .configuration | .resource => withCode transportFailure
  | .io =>
    match e.intoRoot with
    | .transport (.io source) | .transport (.accept source) => ofIo context source
    | _ => withCode internalFailure

end Failure

end TypedChannel.Cli
