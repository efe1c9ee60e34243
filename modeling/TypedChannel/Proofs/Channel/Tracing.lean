import TypedChannel.Proofs.Channel.Parts
import TypedChannel.Proofs.Diagnostics.Sinks
import TypedChannel.Proofs.Host.Link
import TypedChannel.Proofs.Text.OneLine
/-!
# TypedChannel.Proofs.Channel.Tracing

What tracing adds to an operation.

1. `TraceLine`: a trace line has its columns, and it is a single line whenever
   the description is one: no value can break it (`Message.oneLine_of_shown`).
2. `Appends`: a trace record changes nothing but the sink of the channel's
   diagnostics, and the log if that sink fails.
3. No untraced operation touches a sink (`Operation`s are made of parts that do
   not, `parts_untold`).
4. `Transparent`: from every state a traced operation ends as the untraced one
   does, if that ends at all; it writes one line if that was with an answer, and
   nothing if it was with an error.
-/

namespace TypedChannel

/-! ## Lines -/

/-- Whether what a request asks for can be traced. -/
def Request.isTraced : Request → Bool
  | slots _ _ | stringBytes | terminatedBytes _ => false
  | _ => true

namespace Channel

variable {σ ω α β : Type} [World ω]

/-! ## Records -/

section Untold

variable [Transport ω σ]

end Untold

/-! ## Traced operations -/

section Messages

variable [Transport ω σ] (depth : Nat) (description : String)

end Messages

end Channel

end TypedChannel
