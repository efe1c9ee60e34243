import TypedChannel.Cli.Echo
import TypedChannel.Cli.Grammar
import TypedChannel.Cli.Send
import TypedChannel.Log.Line
/-!
# TypedChannel.Cli.CommandLine

The command line of the program: its options, its commands, and what they are
asked to do.

1. The options of the output and of the log may stand before the command or
   after it; what stands after it counts.
2. Host and port of a peer may come from the environment, but only where their
   places on the line are empty.
-/

namespace TypedChannel.Cli

/-- What the program is asked to do. -/
inductive Command where
  | echo (arguments : Echo.Arguments)
  | send (arguments : Send.Arguments)
  | limits
  | version (extended : Bool)
  deriving DecidableEq, Repr

/-- One call of the program. -/
structure Invocation where
  /-- Without a choice it depends on where the output goes. -/
  format : Option OutputFormat
  logFormat : Log.Format
  logFilter : Log.Filter
  command : Command
  deriving DecidableEq, Repr

namespace Invocation

/-! ## Grammars -/

def port : Reader := .integer 0 65535 true

def signed64 : Reader := .integer (-9223372036854775808) 9223372036854775807 true

def unsigned64 : Reader := .integer 0 18446744073709551615 false

/-- The options that every command understands. -/
def globalOptions : List Argument :=
  [{ name := "format", reader := .oneOf ["json", "table", "pretty", "raw"] },
    { name := "log-format", reader := .oneOf ["text", "json"] },
    { name := "log-level", reader := .oneOf ["off", "error", "warn", "info", "debug", "trace"] }]

/-- A command's options and positional values. -/
def commandGrammar (options positionals : List Argument) : Grammar :=
  { options := globalOptions ++ options, positionals }

def echoGrammar : Grammar :=
  commandGrammar
    [{ name := "udp", isFlag := true }, { name := "terminator", reader := .nonEmpty },
      { name := "count", reader := unsigned64 },
      { name := "accept-timeout", reader := signed64, mayBeNegative := true },
      { name := "stall-timeout", reader := unsigned64 }]
    [{ name := "port", reader := port }]

def sendGrammar : Grammar :=
  commandGrammar
    [{ name := "udp", isFlag := true }, { name := "terminator", reader := .nonEmpty },
      { name := "connect-timeout", reader := signed64, mayBeNegative := true },
      { name := "wait-timeout", reader := signed64, mayBeNegative := true },
      { name := "trace", reader := .path }]
    [{ name := "host", fallback? := some "WIRECHAN_HOST" },
      { name := "port", reader := port, fallback? := some "WIRECHAN_PORT" }, { name := "text" }]

def limitsGrammar : Grammar := commandGrammar [] []

def versionGrammar : Grammar := commandGrammar [{ name := "extended", isFlag := true }] []

/-- The program itself: the global options and its commands. -/
def topGrammar : Grammar :=
  { options := globalOptions, subcommands := ["echo", "send", "limits", "version", "help"],
    tellsVersion := true }

/-! ## Typed values -/

/-- A number among the values. -/
def number? (values : Values) (name : String) : Option Int :=
  (values.lookup name).bind (integer? true)

def natural? (values : Values) (name : String) : Option Nat :=
  (number? values name).map Int.toNat

def hasFlag (values : Values) (name : String) : Bool := (values.lookup name).isSome

def formatOf? : String → Option OutputFormat
  | "json" => some .json
  | "table" => some .table
  | "pretty" => some .pretty
  | "raw" => some .raw
  | _ => none

def logFormatOf? : String → Option Log.Format
  | "text" => some .text
  | "json" => some .json
  | _ => none

def logFilterOf? : String → Option Log.Filter
  | "off" => some .off
  | "error" => some (.upTo .error)
  | "warn" => some (.upTo .warn)
  | "info" => some (.upTo .info)
  | "debug" => some (.upTo .debug)
  | "trace" => some (.upTo .trace)
  | _ => none

def echoArguments (values : Values) : Echo.Arguments :=
  let defaults : Echo.Arguments := { port := ((natural? values "port").getD 0).toUInt16 }
  { defaults with
    udp := hasFlag values "udp"
    terminator := values.lookup "terminator"
    count := natural? values "count"
    acceptTimeout := (number? values "accept-timeout").getD defaults.acceptTimeout
    stallTimeout := (natural? values "stall-timeout").getD defaults.stallTimeout }

def sendArguments (values : Values) : Send.Arguments :=
  let defaults : Send.Arguments :=
    { host := (values.lookup "host").getD "", port := ((natural? values "port").getD 0).toUInt16,
      text := (values.lookup "text").getD "" }
  { defaults with
    udp := hasFlag values "udp"
    terminator := values.lookup "terminator"
    connectTimeout := (number? values "connect-timeout").getD defaults.connectTimeout
    waitTimeout := (number? values "wait-timeout").getD defaults.waitTimeout
    trace := values.lookup "trace" }

/-! ## Reading a line -/

/-- The grammar of a command, and what its values ask for. -/
def commandOf? : String → Option (Grammar × (Values → Command))
  | "echo" => some (echoGrammar, fun values => .echo (echoArguments values))
  | "send" => some (sendGrammar, fun values => .send (sendArguments values))
  | "limits" => some (limitsGrammar, fun _ => .limits)
  | "version" => some (versionGrammar, fun values => .version (hasFlag values "extended"))
  | _ => none

/-- Ask for help, on the program or on one of its commands. -/
def helpOn (words : List String) : UsageError :=
  match words with
  | [] => .help
  | [word] => if topGrammar.subcommands.contains word then .help else .invalidSubcommand
  | _ => .invalidSubcommand

/-- The value of a global option: the one after the command if there is one. -/
def globalValue (before after : Values) (name : String) : Option String :=
  (after.lookup name).or (before.lookup name)

/-- What a line without a command comes to. -/
def withoutCommand (progress : Progress) : UsageError :=
  match progress.settle with
  | .error e => e
  | .ok progress => if progress.values.isEmpty then .nothingGiven else .missingSubcommand

/-- What the words of a command line ask for. -/
def parse (environment : Values) (words : List String) : Except UsageError Invocation := do
  match ← topGrammar.read {} words with
  | (progress, none) => .error (withoutCommand progress)
  | (progress, some (name, rest)) =>
    match commandOf? name with
    | none => .error (helpOn rest)
    | some (grammar, command) =>
      let (inner, _) ← grammar.read {} rest
      let after ← grammar.finish environment inner
      let before := (← progress.settle).values
      let global := globalValue before after
      return { format := (global "format").bind formatOf?
               logFormat := ((global "log-format").bind logFormatOf?).getD .text
               logFilter := ((global "log-level").bind logFilterOf?).getD (.upTo .info)
               command := command after }

end Invocation

end TypedChannel.Cli
