import TypedChannel.Cli.Program
/-!
# TypedChannel.Main

The program: a call from the command line, on a host of its own in memory.
-/

namespace TypedChannel.Cli

/-- The variables that may stand for arguments. -/
def environmentVariables : List String := ["WIRECHAN_HOST", "WIRECHAN_PORT"]

/-- The rounds that a loop may take before the program gives up waiting. -/
def mainPatience : Nat := 1000000

end TypedChannel.Cli

open TypedChannel

/-- Read the command line, run the command, and leave with its exit code. -/
def main (words : List String) : IO UInt32 := do
  let environment ← Cli.environmentVariables.filterMapM fun name => do
    return (← IO.getEnv name).map fun value => (name, value)
  match Cli.Invocation.parse environment words with
  | .error e =>
    IO.print e.output
    if e.message != "" then
      IO.eprintln e.message
    return e.code.toUInt32
  | .ok invocation =>
    let host : Host := { network := { names := [("localhost", [.loopback .v4])] } }
    match invocation.run host Cli.mainPatience with
    | none =>
      IO.eprintln "error: waited for what never comes"
      return Cli.internalFailure.toUInt32
    | some ending =>
      IO.print ending.output
      IO.eprint (ending.errorOutput invocation)
      return ending.code.toUInt32
