import Mathlib.Data.List.Forall2
import TypedChannel.Proofs.Echo.Service
import TypedChannel.Proofs.Text.Reading
/-!
# TypedChannel.Proofs.Echo.Reports

What an echo server prints of the messages that it has answered.

1. `Shows` says, for each format, what one report looks like.  Where the message
   stands in quotes, what stands there reads as the message.
2. A server that has answered messages has printed a report of each, in their
   order (`Record.answering_reports`).
-/

namespace TypedChannel.Cli

open TypedChannel.Text (Quoting)

/-- In this format `line` shows that `message` was answered with `length`. -/
def Shows (message : String) (length : Nat) (line : String) : OutputFormat → Prop
  | .json => ∃ written, Quoting.json.read? written = some message ∧
      line = "\x7b\"event\":\"echo\",\"message\":" ++ written ++ ",\"length\":" ++
        toString length ++ "\x7d\n"
  | .raw => line = message ++ "\n"
  | .table | .pretty => ∃ written, Quoting.visible.read? written = some message ∧
      line = "echo message=" ++ written ++ " length=" ++ toString length ++ "\n"

theorem renderEcho_shows (message : String) (length : Nat) (format : OutputFormat) :
    Shows message length (renderEcho message length format) format := by
  have hlength : toString (length : Int) = toString length := rfl
  cases format with
  | json =>
      have hrender : renderEcho message length .json =
          "\x7b" ++ (Text.Json.string "event" ++ ":" ++ Text.Json.string "echo" ++ "," ++
            (Text.Json.string "message" ++ ":" ++ Text.Json.string message ++ "," ++
              (Text.Json.string "length" ++ ":" ++ toString (length : Int)))) ++ "\x7d" ++ "\n" :=
        rfl
      refine ⟨Text.Json.string message, Text.read?_string message, ?_⟩
      have hfront : "\x7b" ++ Text.Json.string "event" ++ ":" ++ Text.Json.string "echo" ++ "," ++
          Text.Json.string "message" ++ ":" = "\x7b\"event\":\"echo\",\"message\":" := by decide
      have hmiddle : "," ++ Text.Json.string "length" ++ ":" = ",\"length\":" := by decide
      have hend : "\x7d" ++ "\n" = "\x7d\n" := by decide
      rw [hrender, ← hfront, ← hmiddle, ← hend, hlength]
      simp only [String.append_assoc]
  | raw => rfl
  | table | pretty => exact ⟨Text.quoted message, Text.read?_quoted message, rfl⟩

namespace Echo

/-- `report` shows each of these messages with its reply, one after the other. -/
def Reports (format : OutputFormat) (heard : List Heard) (report : String) : Prop :=
  ∃ lines, List.Forall₂ (fun one line => Shows one.text one.reply line format) heard lines ∧
    report = String.join lines

theorem Record.answering_reports {ω σ ι β : Type} (record : Record ω σ ι β) (heard : List Heard)
    (output : Output β) : ∃ report,
      (record.answering heard output).printed = output.printed ++ report ∧
        Reports record.format heard report := by
  refine ⟨_, rfl, _, ?_, rfl⟩
  rw [List.forall₂_map_right_iff, List.forall₂_same]
  exact fun one _ => renderEcho_shows one.text one.reply record.format

/-- What was printed in between reports what was answered. -/
theorem Record.Served.reports {ω σ ι β : Type} {record : Record ω σ ι β}
    {before after : (Channel σ × Surroundings ω) × Nat} {items rest : List ι}
    (h : record.Served before after items rest) : ∃ report,
      (record.output (Channel.below after.1)).printed =
          (record.output (Channel.below before.1)).printed ++ report ∧
        Reports record.format (record.heardIn before.1.1.config items) report := by
  rw [h.output]
  exact record.answering_reports _ _

end Echo

end TypedChannel.Cli
