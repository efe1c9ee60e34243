import TypedChannel.Channel.Receive
import TypedChannel.Text.Quoted
/-!
# TypedChannel.Channel.Traced

Channel operations whose value is written to the trace.

1. A record is written after the operation has succeeded, and never when it
   has failed.
2. A sink that fails is told of in the log, and the operation succeeds all the
   same.
3. A list is shown in brackets, a string quoted, a missing string as `(null)`,
   and raw bytes by their number.
-/

namespace TypedChannel

namespace Trace

/-! ## How values are shown -/

/-- A list of shown values. -/
def listed (values : List String) : String := "[" ++ ", ".intercalate values ++ "]"

/-- A string, quoted, or the mark for none. -/
def nullable : Option String → String
  | some s => Text.quoted s
  | none => "(null)"

/-- Raw bytes. -/
def byteCount (n : Nat) : String := s!"<{n} bytes>"

end Trace

namespace Channel

variable {σ ω α : Type} [World ω]

/-- Write one trace line. -/
def record (direction : Direction) (depth : Nat) (description value : String) :
    ChannelAction σ ω Unit :=
  Action.change fun (channel, around) =>
    let text := Diagnostics.line direction depth description value
    let (error, diagnostics) := around.diagnostics.trace text channel.config.diagnostics
    let around := { around with diagnostics }
    match error with
    | none => (channel, around)
    | some e =>
      (channel, around.note
        { level := .warn, origin := .tracing, message := "failed to write trace line",
          fields := [("error", .shown e.message)] })

/-- Run an operation, and once it has succeeded write its value to the trace. -/
def traced (direction : Direction) (depth : Nat) (description : String) (shown : α → String)
    (x : ChannelAction σ ω α) : ChannelAction σ ω α := do
  let value ← x
  record direction depth description (shown value)
  return value

/-! ## Traced operations -/

variable [Transport ω σ] (depth : Nat) (description : String)

def sendTraced {kind : PrimitiveKind} (value : Primitive kind) : ChannelAction σ ω Unit :=
  traced .sent depth description (fun _ => value.text) (send value)

def sendArrayTraced {kind : PrimitiveKind} (values : List (Primitive kind)) :
    ChannelAction σ ω Unit :=
  traced .sent depth description (fun _ => Trace.listed (values.map (·.text))) (sendArray values)

def sendStringTraced (value : Option String) : ChannelAction σ ω Unit :=
  traced .sent depth description (fun _ => Trace.nullable value) (sendString value)

def sendStringArrayTraced (values : List (Option String)) : ChannelAction σ ω Unit :=
  traced .sent depth description (fun _ => Trace.listed (values.map Trace.nullable))
    (sendStringArray values)

def sendTerminatedTraced (payload terminator : String) : ChannelAction σ ω Unit :=
  traced .sent depth description (fun _ => Trace.nullable (some payload))
    (sendTerminated payload terminator)

def sendBytesTraced (bytes : Bytes) : ChannelAction σ ω Unit :=
  traced .sent depth description (fun _ => Trace.byteCount bytes.length) (sendBytes bytes)

def acceptTraced (kind : PrimitiveKind) (options : ReceiveOptions) :
    ChannelAction σ ω (Primitive kind) :=
  traced .received depth description Primitive.text (accept kind options)

def acceptArrayTraced (kind : PrimitiveKind) (count : Nat) (options : ReceiveOptions) :
    ChannelAction σ ω (List (Primitive kind)) :=
  traced .received depth description (fun values => Trace.listed (values.map (·.text)))
    (acceptArray kind count options)

def acceptStringTraced (options : ReceiveOptions) : ChannelAction σ ω (Option String) :=
  traced .received depth description Trace.nullable (acceptString options)

def acceptStringArrayTraced (options : ReceiveOptions) :
    ChannelAction σ ω (List (Option String)) :=
  traced .received depth description (fun values => Trace.listed (values.map Trace.nullable))
    (acceptStringArray options)

def acceptTerminatedTraced (terminator : String) (options : ReceiveOptions) :
    ChannelAction σ ω String :=
  traced .received depth description (fun text => Trace.nullable (some text))
    (acceptTerminated terminator options)

def acceptBytesTraced (wanted : Nat) (options : ReceiveOptions) : ChannelAction σ ω Bytes :=
  traced .received depth description (fun bytes => Trace.byteCount bytes.length)
    (acceptBytes wanted options)

end Channel

end TypedChannel
