import TypedChannel.Cli.CommandLine
/-!
# TypedChannel.Cli.Program

A call of the program from its command line to its end.

1. Without a choice the output is JSON.
2. Log lines and the message of a failure go to the error output, the message
   last.
-/

namespace TypedChannel.Cli

/-! ## Commands without a channel -/

/-- What is told of the build. -/
def version : String := "0.1.0"

/-- The version in one line, or all that is known of the build. -/
def renderVersion (extended : Bool) : String :=
  if extended then
    String.join <| [("name", "wirechan"), ("version", version),
      ("target", "x86_64-unknown-linux-gnu"), ("profile", "debug"), ("target_os", "linux"),
      ("target_arch", "x86_64"), ("byte_order", "little"),
      ("handle_width", toString PrimitiveKind.handle.width),
      ("features", "peer=true, cli=true")].map fun (name, value) => name ++ ": " ++ value ++ "\n"
  else "wirechan " ++ version ++ "\n"

/-- What is printed instead of running a command. -/
def UsageError.output : UsageError → String
  | .version => renderVersion false
  | _ => ""

variable {ω : Type} [HostWorld ω]

/-- Print the version. -/
def showVersion (extended : Bool) : Action (Surroundings ω) Failure Nat := do
  Echo.print (renderVersion extended)
  return success

/-- Print the open-file limits. -/
def showLimits (format : OutputFormat) : Action (Surroundings ω) Failure Nat := do
  let limits ← Action.mapError (.ofIo "reading open-file limits failed") <|
    Surroundings.outside (HostWorld.onHost Host.trackedLimits)
  Echo.print ((LimitsReport.ofLimits limits).render format)
  return success

/-! ## A call of the program -/

/-- Do what a command asks for. Gives the exit code. -/
def Command.run (format : OutputFormat) : Command → Action (Surroundings ω) Failure Nat
  | .echo arguments => Echo.run arguments format
  | .send arguments => Send.run arguments format
  | .limits => showLimits format
  | .version extended => showVersion extended

/-- The form of the output. -/
def Invocation.outputFormat (invocation : Invocation) : OutputFormat :=
  invocation.format.getD .json

/-- How a call of the program ended, and what it left behind. -/
structure Ending (ω : Type) where
  result : Except Failure Nat
  around : Surroundings ω

namespace Ending

/-- The exit code. -/
def code (ending : Ending ω) : Nat :=
  match ending.result with
  | .ok code => code
  | .error failure => failure.code

/-- Why the call failed, if it did. -/
def message? (ending : Ending ω) : Option String :=
  match ending.result with
  | .ok _ => none
  | .error failure => some failure.message

/-- What was printed. -/
def output (ending : Ending ω) : String := (HostWorld.host ending.around.world).output

/-- What was printed about the failure. -/
def failureText (ending : Ending ω) : String :=
  match ending.message? with
  | none => ""
  | some message => "error: " ++ message ++ "\n"

/-- What went to the error output. -/
def errorOutput (invocation : Invocation) (ending : Ending ω) : String :=
  let journal := (HostWorld.host ending.around.world).journal.reverse
  let lines := Log.lines invocation.logFormat invocation.logFilter journal
  String.join (lines.map (· ++ "\n")) ++ ending.failureText

end Ending

/-- Run a call of the program in a world. -/
def Invocation.run (invocation : Invocation) (world : ω) (patience : Nat) : Option (Ending ω) :=
  (invocation.command.run invocation.outputFormat patience
      { world, diagnostics := .empty }).map fun (result, around) => { result, around }

end TypedChannel.Cli
