import TypedChannel.Proofs.Echo.Rounds
/-!
# TypedChannel.Proofs.Echo.Service

What an echo server does with what it is sent, whether that comes in frames or
in datagrams.

1. A payload that is text is `Heard`, and answered with its length.
2. A `Record` says what is still to come, what was put out, and what is heard in
   one item; `Record.Served` is what one step, or a whole conversation, makes of
   the items that it takes.
-/

namespace TypedChannel.Cli

open TypedChannel.Action TypedChannel.Channel

/-- What a server has put out: what it sent, in bytes or in datagrams, and what it printed. -/
@[ext]
structure Output (β : Type) where
  written : List β
  printed : String

namespace Echo

/-! ## Payloads -/

/-- What is heard in a message. -/
structure Heard where
  payload : Bytes
  text : String
  deriving DecidableEq, Repr

/-- What it is answered with: the length of the payload, as far as an `int32` goes. -/
def Heard.reply (heard : Heard) : Nat := min heard.payload.length maxAnnounced

/-- What is heard in a payload, if it is text. -/
def hear (payload : Bytes) : Option Heard :=
  (Text.Utf8.decode payload).toOption.map (Heard.mk payload)

theorem hear_of_ok {payload : Bytes} {text : String} (h : Text.Utf8.decode payload = .ok text) :
    hear payload = some ⟨payload, text⟩ := by
  rw [hear, h]
  rfl

theorem hear_of_error {payload : Bytes} {fault : Text.Utf8.Fault}
    (h : Text.Utf8.decode payload = .error fault) : hear payload = none := by
  rw [hear, h]
  rfl

theorem hear_eq_some {payload : Bytes} {heard : Heard} (h : hear payload = some heard) :
    heard.payload = payload ∧ Text.Utf8.encode heard.text = heard.payload := by
  cases hdecode : Text.Utf8.decode payload with
  | error fault =>
      rw [hear_of_error hdecode] at h
      contradiction
  | ok text =>
      rw [hear_of_ok hdecode, Option.some.injEq] at h
      subst h
      exact ⟨rfl, Text.Utf8.encode_of_decode hdecode⟩

theorem hear_eq_none {payload : Bytes} (h : hear payload = none) :
    ∃ fault, Text.Utf8.decode payload = .error fault := by
  cases hdecode : Text.Utf8.decode payload with
  | error fault => exact ⟨fault, rfl⟩
  | ok text =>
      rw [hear_of_ok hdecode] at h
      contradiction

/-- The length that is sent back is the one of the payload. -/
theorem replyLength_eq {heard : Heard} (h : Text.Utf8.encode heard.text = heard.payload) :
    replyLength heard.text = heard.reply := by
  have hlength : heard.text.utf8ByteSize = heard.payload.length := by
    rw [← h]
    simp [Text.Utf8.encode]
  rw [replyLength, hlength, Heard.reply]

/-! ## Records -/

/-- What can be told of a conversation whose peers send items `ι`, and are answered in units `β`. -/
structure Record (ω σ ι β : Type) where
  /-- These items are still to come, the first one first. -/
  Brings : σ × ω → List ι → Prop
  output : σ × ω → Output β
  /-- What is heard in an item, if it is answered at all. -/
  hear : ChannelConfig → ι → Option Heard
  /-- What a reply of these bytes adds to what was sent. -/
  units : Bytes → List β
  format : OutputFormat

namespace Record

variable {ω σ ι β : Type} (record : Record ω σ ι β)

/-- What is heard in these items, in their order. -/
def heardIn (config : ChannelConfig) (items : List ι) : List Heard :=
  items.filterMap (record.hear config)

@[simp] theorem heardIn_nil (config : ChannelConfig) : record.heardIn config [] = [] := rfl

theorem heardIn_append (config : ChannelConfig) (items more : List ι) :
    record.heardIn config (items ++ more) =
      record.heardIn config items ++ record.heardIn config more := List.filterMap_append

theorem heardIn_singleton (config : ChannelConfig) (item : ι) :
    record.heardIn config [item] = (record.hear config item).toList := by
  unfold heardIn
  cases hheard : record.hear config item <;> simp [hheard]

/-- The output after a reply to each of these and a report of it. -/
def answering (heard : List Heard) (output : Output β) : Output β where
  written := output.written ++ heard.flatMap fun one => record.units (int32Wire one.reply)
  printed := output.printed ++
    String.join (heard.map fun one => renderEcho one.text one.reply record.format)

@[simp] theorem answering_nil (output : Output β) : record.answering [] output = output := by
  simp [answering]

theorem answering_append (heard more : List Heard) (output : Output β) :
    record.answering (heard ++ more) output =
      record.answering more (record.answering heard output) := by
  simp [answering, String.append_assoc]

/-- Between the two these items were taken, each of them in which something is heard was answered
and counted, and the rest is still to come. -/
structure Served (before after : (Channel σ × Surroundings ω) × Nat) (items rest : List ι) :
    Prop where
  brings : record.Brings (below after.1) rest
  output : record.output (below after.1) =
    record.answering (record.heardIn before.1.1.config items) (record.output (below before.1))
  counted : after.2 = before.2 + (record.heardIn before.1.1.config items).length
  config : after.1.1.config = before.1.1.config

variable {record} {before between after : (Channel σ × Surroundings ω) × Nat}
  {items more left rest : List ι}

theorem Served.trans (h : record.Served before between items left)
    (h' : record.Served between after more rest) :
    record.Served before after (items ++ more) rest where
  brings := h'.brings
  output := by rw [h'.output, h.output, h.config, heardIn_append, answering_append]
  counted := by
    rw [h'.counted, h.counted, h.config, heardIn_append, List.length_append, Nat.add_assoc]
  config := h'.config.trans h.config

/-- Items in which nothing is heard leave no trace. -/
theorem Served.silent (hbrings : record.Brings (below after.1) rest)
    (houtput : record.output (below after.1) = record.output (below before.1))
    (hserved : after.2 = before.2) (hconfig : after.1.1.config = before.1.1.config)
    (hheard : record.heardIn before.1.1.config items = []) :
    record.Served before after items rest where
  brings := hbrings
  output := by rw [houtput, hheard, answering_nil]
  counted := by rw [hserved, hheard, List.length_nil, Nat.add_zero]
  config := hconfig

/-- An item in which something is heard is replied to, counted and reported. -/
theorem Served.replied {heard : Heard} (hbrings : record.Brings (below after.1) rest)
    (hwritten : (record.output (below after.1)).written =
      (record.output (below before.1)).written ++ record.units (int32Wire heard.reply))
    (hprinted : (record.output (below after.1)).printed =
      (record.output (below before.1)).printed ++
        renderEcho heard.text heard.reply record.format)
    (hserved : after.2 = before.2 + 1) (hconfig : after.1.1.config = before.1.1.config)
    (hheard : record.heardIn before.1.1.config items = [heard]) :
    record.Served before after items rest where
  brings := hbrings
  output := Output.ext (by simp [hwritten, hheard, answering])
    (by simp [hprinted, hheard, answering])
  counted := by rw [hserved, hheard, List.length_singleton]
  config := hconfig

end Record

/-! ## Replies -/

/-- What was heard is answered with its length, wherever replies go. -/
theorem exchange_replies {ω σ : Type} [World ω] [Transport ω σ] [Terminal ω]
    {settings : EchoSettings} {state : (Channel σ × Surroundings ω) × Nat}
    {between : Channel σ × Surroundings ω} {heard : Heard} (intake : Intake ω σ)
    (hreceive : (receive settings).Returns state.1 (.ok heard.text) between)
    (htext : Text.Utf8.encode heard.text = heard.payload)
    (hholds : intake.Holds (below between) []) : ∃ replied,
      (exchange settings).Returns state (.ok (.again ()))
          ((replied.1, { replied.2 with
            world := Terminal.print (renderEcho heard.text heard.reply settings.format)
              replied.2.world }), state.2 + 1) ∧
        intake.Holds (below replied) [int32Wire heard.reply] ∧
        replied.1.config = between.1.config := by
  have hconveys : Conveys intake between [int32Wire heard.reply]
      (Channel.send (.ofInt .int32 (replyLength heard.text))) := by
    rw [replyLength_eq htext]
    exact send_conveys _ between
  obtain ⟨replied, hreply, hafter, -, hconfig⟩ := hconveys [] hholds
  have hexchange := exchange_answers hreceive hreply
  rw [reported, replyLength_eq htext] at hexchange
  exact ⟨replied, hexchange, hafter, hconfig⟩

end Echo

end TypedChannel.Cli
