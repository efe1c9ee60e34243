import TypedChannel.Address
import TypedChannel.Host.Limits
import TypedChannel.Text.Json
import TypedChannel.Text.Table
/-!
# TypedChannel.Cli.Output

What the commands print, in each of the output formats.

1. As JSON every report is one object on one line.
2. Tables are drawn for the reports with several values; a report of an event
   is a line of text instead.
3. Raw output is the one value that a script would look for.
-/

namespace TypedChannel.Cli

/-- The form of what is printed. -/
inductive OutputFormat where
  | json
  | table
  | pretty
  | raw
  deriving DecidableEq, Repr

/-- How a message is delimited. -/
inductive Framing where
  /-- By its length in front. -/
  | length
  /-- By a terminator behind. -/
  | terminated
  deriving DecidableEq, Repr

def Framing.name : Framing → String
  | length => "length"
  | terminated => "terminated"

/-- One exchange of a message and its reply. -/
structure SendReport where
  peer : String
  transport : String
  framing : Framing
  message : String
  replyLength : Int
  bytesSent : Nat
  bytesReceived : Nat
  deriving DecidableEq, Repr

/-- The open-file limits; none stands for no limit. -/
structure LimitsReport where
  soft : Option Nat
  hard : Option Nat
  headroom : Nat
  deriving DecidableEq, Repr

open Text.Json (object)

/-- A JSON number. -/
def jsonNumber (n : Nat) : Text.Json.Value := .number n

namespace SendReport

/-- What is printed after an exchange. -/
def render (report : SendReport) : OutputFormat → String
  | .json =>
    object
      [("peer", .string report.peer), ("transport", .string report.transport),
        ("framing", .string report.framing.name), ("message", .string report.message),
        ("reply_length", .number report.replyLength), ("bytes_sent", jsonNumber report.bytesSent),
        ("bytes_received", jsonNumber report.bytesReceived)] ++ "\n"
  | .table =>
    Text.Table.draw ["PEER", "TRANSPORT", "FRAMING", "SENT", "REPLY", "BYTES OUT/IN"]
      [[report.peer, report.transport, report.framing.name, report.message,
        toString report.replyLength,
        toString report.bytesSent ++ "/" ++ toString report.bytesReceived]] ++ "\n"
  | .pretty =>
    "peer=" ++ report.peer ++ " transport=" ++ report.transport ++ " framing=" ++ report.framing.name
      ++ " sent=" ++ Text.quoted report.message ++ " reply=" ++ toString report.replyLength
      ++ " bytes_out=" ++ toString report.bytesSent ++ " bytes_in="
      ++ toString report.bytesReceived ++ "\n"
  | .raw => toString report.replyLength ++ "\n"

end SendReport

/-- What is printed once a server listens. -/
def renderListening (address : SocketAddress) (transport : String) : OutputFormat → String
  | .json =>
    object
      [("event", .string "listening"), ("address", .string address.text),
        ("port", jsonNumber address.port.toNat), ("transport", .string transport)] ++ "\n"
  | .raw => toString address.port ++ "\n"
  | .table | .pretty => "listening on " ++ address.text ++ " (" ++ transport ++ ")\n"

/-- What is printed for a message that was answered with `length`. -/
def renderEcho (message : String) (length : Int) : OutputFormat → String
  | .json =>
    object [("event", .string "echo"), ("message", .string message), ("length", .number length)]
      ++ "\n"
  | .raw => message ++ "\n"
  | .table | .pretty =>
    "echo message=" ++ Text.quoted message ++ " length=" ++ toString length ++ "\n"

namespace LimitsReport

/-- A report on limits, with the headroom that is kept below the soft one. -/
def ofLimits (limits : Limits) : LimitsReport :=
  { soft := Limits.finite? limits.soft, hard := Limits.finite? limits.hard,
    headroom := Limits.headroom }

/-- The text of a limit. -/
def limitText : Option Nat → String
  | some n => toString n
  | none => "unlimited"

/-- What is printed of the limits. -/
def render (report : LimitsReport) : OutputFormat → String
  | .json =>
    let member (limit : Option Nat) : Text.Json.Value := (limit.map jsonNumber).getD .null
    object
      [("soft", member report.soft), ("hard", member report.hard),
        ("headroom", jsonNumber report.headroom)] ++ "\n"
  | .table =>
    Text.Table.draw ["LIMIT", "VALUE"]
      [["soft", limitText report.soft], ["hard", limitText report.hard],
        ["headroom", toString report.headroom]] ++ "\n"
  | .pretty | .raw =>
    "soft=" ++ limitText report.soft ++ " hard=" ++ limitText report.hard ++ " headroom="
      ++ toString report.headroom ++ "\n"

end LimitsReport

end TypedChannel.Cli
