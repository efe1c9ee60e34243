import TypedChannel.Proofs.RoundTrip.Terminated
/-!
# TypedChannel.Proofs.RoundTrip.Messages

Messages of every kind and the accepts that belong to them: over any supply
such an accept draws exactly the pieces of its message
(`acceptMessage_draws`).

A terminated message is recognised in a way that depends on the transport, so
what a supply does with one is an assumption here (`Terminates`); for streams
it is `flow_terminates`.
-/

namespace TypedChannel

open TypedChannel.Action

/-- Whether an accept belongs to a message: it is the one that `Message.request` names, or fills
slots of the caller with an array.  A blob is asked for as a whole. -/
inductive Message.Matches (options : ReceiveOptions) : Message → Request → Prop
  | request {message : Message}
      (hwhole : ∀ content, message = .bytes content → options.everything = true) :
      Matches options message message.request
  | slots (kind : PrimitiveKind) (values : List (Primitive kind)) :
      Matches options (.array kind values) (.slots kind values.length)

theorem Message.matches_blocking (message : Message) : message.Matches .blocking message.request :=
  .request fun _ _ => rfl

/-- Whether a message ends with a terminator. -/
def Message.isTerminated : Message → Bool
  | terminated _ _ | terminatedBytes _ _ => true
  | _ => false

namespace Channel

variable {ω σ : Type} [World ω] [Transport ω σ]

/-- Whether a terminated message that fits is drawn as one piece. -/
def Terminates (supply : Supply ω σ) : Prop :=
  ∀ {payload terminator : Bytes} {options : ReceiveOptions} {state : Channel σ × Surroundings ω},
    InTime supply.timed options.timeout →
    FitsTerminated state.1.config.terminatedBufferSize payload terminator →
    Draws supply state [payload ++ terminator] payload (acceptTerminatedBytes terminator options)

theorem flow_terminates (flow : Flow ω σ) : Terminates flow.supply :=
  fun htime hfits => acceptTerminatedBytes_draws htime hfits

variable {supply : Supply ω σ} {options : ReceiveOptions}

theorem acceptTerminated_draws (hterminates : Terminates supply) {payload terminator : String}
    (htime : InTime supply.timed options.timeout) {state : Channel σ × Surroundings ω}
    (hfits : FitsTerminated state.1.config.terminatedBufferSize (Text.Utf8.encode payload)
      (Text.Utf8.encode terminator)) :
    Draws supply state [Text.Utf8.encode payload ++ Text.Utf8.encode terminator] payload
      (acceptTerminated terminator options) :=
  (hterminates htime hfits).followed fun between => decodeText_draws payload between

/-- An accept that belongs to a message draws its pieces. -/
theorem acceptMessage_draws {message : Message} {request : Request}
    (hmatches : message.Matches .blocking request) (htime : InTime supply.timed options.timeout)
    (hwhole : ∀ content, message = .bytes content →
      options.everything = true ∨ supply.whole = true)
    (hterminates : message.isTerminated = true → Terminates supply) {sender : ChannelConfig}
    {state : Channel σ × Surroundings ω} (hfits : message.Fits sender state.1.config) :
    Draws supply state message.pieces message (acceptMessage options request) := by
  cases hmatches with
  | slots kind values => exact acceptSlots_draws values (Message.array kind) htime state
  | request _ =>
      cases message with
      | primitive kind value => exact (accept_draws value htime state).map (Message.primitive kind)
      | array kind values =>
          exact (acceptSlots_draws values id htime state).map (Message.array kind)
      | bytes content =>
          exact (acceptBytes_draws content ⟨htime, hwhole content rfl⟩ state).map Message.bytes
      | string value => exact (acceptString_draws htime hfits.2).map Message.string
      | stringBytes value => exact (acceptStringBytes_draws htime hfits.2).map Message.stringBytes
      | strings values =>
          refine (acceptStringArray_draws htime hfits.1 ?_).map Message.strings
          exact fun value hvalue => (hfits.2 value hvalue).2
      | terminated payload terminator =>
          exact (acceptTerminated_draws (hterminates rfl) htime hfits).map
            (Message.terminated · terminator)
      | terminatedBytes payload terminator =>
          have hpayload : Draws supply state _ payload _ := hterminates rfl htime hfits
          exact hpayload.map (Message.terminatedBytes · terminator)

end Channel

end TypedChannel
