import TypedChannel.Log
import TypedChannel.Text.Json
/-!
# TypedChannel.Log.Line

Log events as lines.

1. A filter admits the events of its level and the graver ones. The filters
   that admit debugging also show where each event comes from.
2. As text a line holds the level, the message and `name=value` pairs, in the
   order of the event. As JSON it is one object.
-/

namespace TypedChannel.Log

/-- The form of log lines. -/
inductive Format where
  | text
  | json
  deriving DecidableEq, Repr

/-- What is logged: nothing, or all events of a level and the graver ones. -/
inductive Filter where
  | off
  | upTo (level : Level)
  deriving DecidableEq, Repr

/-! ## Levels -/

/-- The place of a level, the gravest first. -/
def Level.rank : Level → Nat
  | error => 0
  | warn => 1
  | info => 2
  | debug => 3
  | trace => 4

def Level.name : Level → String
  | error => "ERROR"
  | warn => "WARN"
  | info => "INFO"
  | debug => "DEBUG"
  | trace => "TRACE"

/-- Whether events of a level are logged. -/
def Filter.admits : Filter → Level → Bool
  | off, _ => false
  | upTo most, level => level.rank ≤ most.rank

/-- Whether lines tell where an event comes from. -/
def Filter.showsOrigin : Filter → Bool
  | off => false
  | upTo most => Level.debug.rank ≤ most.rank

/-! ## Lines -/

/-- A value as it stands in a line of text. -/
def Value.inText : Value → String
  | number n => toString n
  | text s => Text.quoted s
  | shown s => s

/-- A value as it stands in a line of JSON. -/
def Value.inJson : Value → Text.Json.Value
  | number n => .number n
  | text s | shown s => .string s

/-- An event as text. -/
def Event.textLine (withOrigin : Bool) (event : Event) : String :=
  let origin := if withOrigin then event.origin.name ++ ": " else ""
  event.level.name ++ " " ++ origin ++ event.message ++
    String.join (event.fields.map fun (name, value) => " " ++ name ++ "=" ++ value.inText)

/-- An event as JSON. -/
def Event.jsonLine (withOrigin : Bool) (event : Event) : String :=
  let fields := ("message", .string event.message) ::
    event.fields.map fun (name, value) => (name, value.inJson)
  Text.Json.object <|
    [("level", .string event.level.name), ("fields", .object fields)] ++
      if withOrigin then [("target", .string event.origin.name)] else []

/-- The lines of a log, in order. -/
def lines (format : Format) (filter : Filter) (events : List Event) : List String :=
  (events.filter (filter.admits ·.level)).map <| match format with
    | .text => Event.textLine filter.showsOrigin
    | .json => Event.jsonLine filter.showsOrigin

end TypedChannel.Log
