import TypedChannel.Proofs.Transport.Supply
import TypedChannel.Proofs.Wire
/-!
# TypedChannel.Proofs.RoundTrip.Sending

The sending half of a round trip: into any intake every send of a message that
fits succeeds, transmits exactly `Message.pieces` and counts as many bytes.

1. `Conveys intake state pieces x` composes by appending (`Conveys.bind`), so
   each send is put together from the transmits it makes.
2. `Puts sink state bytes x` is the same for a sink, which does not tell the
   pieces apart: there a message is its `Message.wire`.
-/

namespace TypedChannel

open TypedChannel.Action

/-- Whether a terminated message fits: its terminator is not empty and does not begin before its
end, and both together fit in the buffer that receives them. -/
def FitsTerminated (bufferSize : Nat) (payload terminator : Bytes) : Prop :=
  terminator ≠ [] ∧ Bytes.indexOf? terminator (payload ++ terminator) = some payload.length ∧
    payload.length + terminator.length ≤ bufferSize

/-- Whether a message can be carried between two channels with these settings. -/
def Message.Fits (sender receiver : ChannelConfig) : Message → Prop
  | primitive _ _ | array _ _ | bytes _ => True
  | string value => FitsString sender.maxStringLength (value.map Text.Utf8.encode) ∧
      FitsString receiver.maxStringLength (value.map Text.Utf8.encode)
  | stringBytes value =>
      FitsString sender.maxStringLength value ∧ FitsString receiver.maxStringLength value
  | strings values => values.length ≤ maxAnnounced ∧
      ∀ value ∈ values, FitsString sender.maxStringLength (value.map Text.Utf8.encode) ∧
        FitsString receiver.maxStringLength (value.map Text.Utf8.encode)
  | terminated payload terminator => FitsTerminated receiver.terminatedBufferSize
      (Text.Utf8.encode payload) (Text.Utf8.encode terminator)
  | terminatedBytes payload terminator =>
      FitsTerminated receiver.terminatedBufferSize payload terminator

namespace Channel

variable {ω σ α ε : Type}

/-- The transport and the world of a running operation. -/
def below (state : Channel σ × Surroundings ω) : σ × ω := (state.1.transport, state.2.world)

/-- A call of the transport that ends. -/
theorem returns_onTransport {x : Action (σ × ω) TransportError α}
    {state : Channel σ × Surroundings ω} {result : Except TransportError α} {after : σ × ω}
    (hx : x.Returns (below state) result after) :
    (onTransport x : Action (Channel σ × Surroundings ω) ε _).Returns state (.ok result)
      ({ state.1 with transport := after.1 }, { state.2 with world := after.2 }) :=
  hx.attempt.on

variable [World ω] [Transport ω σ] {intake : Intake ω σ}

/-! ## Pieces -/

/-- Between the two `pieces` were transmitted, after those `before`, and counted. -/
structure Conveyed (intake : Intake ω σ) (start after : Channel σ × Surroundings ω)
    (before pieces : List Bytes) : Prop where
  holds : intake.Holds (below after) (before ++ pieces)
  counted : after.1.bytesSent = start.1.bytesSent + pieces.flatten.length
  config : after.1.config = start.1.config

/-- From `state` a send succeeds and transmits `pieces`. -/
def Conveys (intake : Intake ω σ) (state : Channel σ × Surroundings ω) (pieces : List Bytes)
    (x : ChannelAction σ ω Unit) : Prop :=
  ∀ before, intake.Holds (below state) before →
    ∃ after, x.Returns state (.ok ()) after ∧ Conveyed intake state after before pieces

theorem conveys_pure (state : Channel σ × Surroundings ω) :
    Conveys intake state [] (pure () : ChannelAction σ ω Unit) := by
  intro before hholds
  exact ⟨state, returns_pure (), by simpa using hholds, rfl, rfl⟩

theorem Conveys.bind {state : Channel σ × Surroundings ω} {pieces more : List Bytes}
    {x y : ChannelAction σ ω Unit} (hx : Conveys intake state pieces x)
    (hy : ∀ between, between.1.config = state.1.config → Conveys intake between more y) :
    Conveys intake state (pieces ++ more) (x >>= fun _ => y) := by
  intro before hholds
  obtain ⟨between, hfirst, hbetween⟩ := hx before hholds
  obtain ⟨after, hsecond, hafter⟩ := hy between hbetween.config _ hbetween.holds
  have hboth : intake.Holds (below after) (before ++ (pieces ++ more)) := by
    rw [← List.append_assoc]
    exact hafter.holds
  have hcounted : after.1.bytesSent = state.1.bytesSent + (pieces ++ more).flatten.length := by
    rw [hafter.counted, hbetween.counted, List.flatten_append, List.length_append, Nat.add_assoc]
  exact ⟨after, hfirst.bind hsecond, hboth, hcounted, hafter.config.trans hbetween.config⟩

theorem sendBytes_conveys (bytes : Bytes) (state : Channel σ × Surroundings ω) :
    Conveys intake state [bytes] (sendBytes bytes) := by
  intro before hholds
  obtain ⟨after, htransmit, hafter⟩ := intake.transmit bytes hholds
  have hnoted := intake.note
    { level := .trace, origin := .sending, message := "sent",
      fields := [("bytes", .number bytes.length)] } hafter
  exact ⟨_, (returns_onTransport htransmit).bind ((returns_pure _).bind
    ((returns_change _).bind (returns_change _))), hnoted, by simp, rfl⟩

theorem send_conveys {kind : PrimitiveKind} (value : Primitive kind)
    (state : Channel σ × Surroundings ω) :
    Conveys intake state [Codec.wire value] (send value) := by
  unfold send
  rw [Codec.encode_eq_wire]
  exact sendBytes_conveys _ state

theorem sendArray_conveys {kind : PrimitiveKind} (values : List (Primitive kind))
    (state : Channel σ × Surroundings ω) :
    Conveys intake state [values.flatMap Codec.wire] (sendArray values) := by
  unfold sendArray
  rw [Codec.foldlM_append_eq]
  exact sendBytes_conveys _ state

theorem sendStringBytes_conveys {value : Option Bytes} {state : Channel σ × Surroundings ω}
    (hfits : FitsString state.1.config.maxStringLength value) :
    Conveys intake state (stringPieces value) (sendStringBytes value) := by
  cases value with
  | none => exact send_conveys _ state
  | some bytes =>
      obtain ⟨hmax, hannounced⟩ := hfits bytes rfl
      have hshort : ¬ (decide (state.1.config.maxStringLength < bytes.length) ||
          decide (maxAnnounced < bytes.length)) = true := by
        simp only [Bool.or_eq_true, decide_eq_true_eq]
        omega
      intro before hholds
      obtain ⟨after, hreturns, hconveyed⟩ :=
        ((send_conveys (.ofInt .int32 bytes.length) state).bind fun between _ =>
          sendBytes_conveys bytes between) before hholds
      refine ⟨after, (returns_see _).bind ?_, hconveyed⟩
      dsimp only
      rw [if_neg hshort]
      exact hreturns

theorem sendStrings_conveys (values : List (Option String)) {state : Channel σ × Surroundings ω}
    (hfits : ∀ value ∈ values,
      FitsString state.1.config.maxStringLength (value.map Text.Utf8.encode)) :
    Conveys intake state (stringsPieces values) (sendStrings values) := by
  induction values generalizing state with
  | nil => exact conveys_pure state
  | cons value values ih =>
      rw [stringsPieces_cons]
      have hvalue := hfits value List.mem_cons_self
      refine (sendStringBytes_conveys hvalue).bind fun between hconfig => ih fun v hv => ?_
      rw [hconfig]
      exact hfits v (List.mem_cons_of_mem value hv)

theorem sendStringArray_conveys {values : List (Option String)} {state : Channel σ × Surroundings ω}
    (hmany : values.length ≤ maxAnnounced)
    (hfits : ∀ value ∈ values,
      FitsString state.1.config.maxStringLength (value.map Text.Utf8.encode)) :
    Conveys intake state (int32Wire values.length :: stringsPieces values)
      (sendStringArray values) := by
  unfold sendStringArray
  rw [if_neg (by omega)]
  refine (send_conveys _ state).bind fun between hconfig => sendStrings_conveys values ?_
  rw [hconfig]
  exact hfits

theorem sendTerminatedBytes_conveys {payload terminator : Bytes} (hterminator : terminator ≠ [])
    (state : Channel σ × Surroundings ω) :
    Conveys intake state [payload ++ terminator] (sendTerminatedBytes payload terminator) := by
  unfold sendTerminatedBytes
  rw [if_neg (by simpa using hterminator)]
  exact sendBytes_conveys _ state

/-- A message that fits is transmitted in its pieces. -/
theorem sendMessage_conveys {message : Message} {receiver : ChannelConfig}
    {state : Channel σ × Surroundings ω} (hfits : message.Fits state.1.config receiver) :
    Conveys intake state message.pieces (sendMessage message) := by
  cases message with
  | primitive kind value => exact send_conveys value state
  | array kind values => exact sendArray_conveys values state
  | bytes content => exact sendBytes_conveys content state
  | string value => exact sendStringBytes_conveys hfits.1
  | stringBytes value => exact sendStringBytes_conveys hfits.1
  | strings values =>
      exact sendStringArray_conveys hfits.1 fun value hvalue => (hfits.2 value hvalue).1
  | terminated payload terminator => exact sendTerminatedBytes_conveys hfits.1 state
  | terminatedBytes payload terminator => exact sendTerminatedBytes_conveys hfits.1 state

/-! ## Sinks -/

variable {sink : Sink ω σ}

/-- Between the two `bytes` went into the sink and were counted. -/
structure Sent (sink : Sink ω σ) (before after : Channel σ × Surroundings ω) (bytes : Bytes) :
    Prop where
  ready : sink.Ready (below after)
  accepted : sink.accepted (below after) = sink.accepted (below before) ++ bytes
  counted : after.1.bytesSent = before.1.bytesSent + bytes.length
  config : after.1.config = before.1.config

theorem Sent.refl {state : Channel σ × Surroundings ω} (hready : sink.Ready (below state)) :
    Sent sink state state [] :=
  ⟨hready, by simp, rfl, rfl⟩

theorem Sent.trans {before between after : Channel σ × Surroundings ω} {bytes more : Bytes}
    (h : Sent sink before between bytes) (h' : Sent sink between after more) :
    Sent sink before after (bytes ++ more) where
  ready := h'.ready
  accepted := by rw [h'.accepted, h.accepted, List.append_assoc]
  counted := by rw [h'.counted, h.counted, List.length_append, Nat.add_assoc]
  config := h'.config.trans h.config

/-- From `state` a send succeeds and puts `bytes` into the sink. -/
def Puts (sink : Sink ω σ) (state : Channel σ × Surroundings ω) (bytes : Bytes)
    (x : ChannelAction σ ω Unit) : Prop :=
  ∃ after, x.Returns state (.ok ()) after ∧ Sent sink state after bytes

theorem Puts.bind {state : Channel σ × Surroundings ω} {bytes more : Bytes}
    {x y : ChannelAction σ ω Unit} (hx : Puts sink state bytes x)
    (hy : ∀ between, Sent sink state between bytes → Puts sink between more y) :
    Puts sink state (bytes ++ more) (x >>= fun _ => y) := by
  obtain ⟨between, hreturns, hsent⟩ := hx
  obtain ⟨after, hreturns', hsent'⟩ := hy between hsent
  exact ⟨after, hreturns.bind hreturns', hsent.trans hsent'⟩

/-- What is transmitted in pieces goes into a sink as a whole. -/
theorem Conveys.puts {state : Channel σ × Surroundings ω} {pieces : List Bytes}
    {x : ChannelAction σ ω Unit}
    (hx : Conveys (sink.intake (sink.accepted (below state))) state pieces x)
    (hready : sink.Ready (below state)) : Puts sink state pieces.flatten x := by
  obtain ⟨after, hreturns, ⟨hafter, haccepted⟩, hcounted, hconfig⟩ := hx [] ⟨hready, by simp⟩
  exact ⟨after, hreturns, hafter, haccepted, hcounted, hconfig⟩

/-- A message that fits is sent as its wire form. -/
theorem sendMessage_puts {message : Message} {receiver : ChannelConfig}
    {state : Channel σ × Surroundings ω} (hready : sink.Ready (below state))
    (hfits : message.Fits state.1.config receiver) :
    Puts sink state message.wire (sendMessage message) := by
  rw [← message.flatten_pieces]
  exact (sendMessage_conveys hfits).puts hready

end Channel

end TypedChannel
