import TypedChannel.Proofs.Host.Link
import TypedChannel.Proofs.RoundTrip.Messages
/-!
# TypedChannel.Proofs.RoundTrip.Stream

Typed messages over byte streams, from one end to the other.

1. `sendAll` makes one send after another, and `acceptAll` one accept after
   another.  Each of them is an induction over the messages; what joins the two
   is `Message.wire`.
2. Whatever a sink and a source make of the bytes, the accepts that belong to
   the sends give the messages back, and stand behind the last byte of the last
   one.
-/

namespace TypedChannel

open TypedChannel.Action

/-- A message and the accept that belongs to it, which waits for ever. -/
structure Exchange where
  message : Message
  request : Request
  options : ReceiveOptions
  forever : options.timeout = none
  belongs : message.Matches options request

/-- The exchange of a message by the accept that `Message.request` names. -/
def Exchange.of (message : Message) : Exchange where
  message
  request := message.request
  options := .blocking
  forever := rfl
  belongs := .request fun _ _ => rfl

namespace Channel

variable {ω σ ω' σ' : Type} [World ω] [Transport ω σ] [World ω'] [Transport ω' σ']

/-- Send messages one after another. -/
def sendAll : List Message → ChannelAction σ ω Unit
  | [] => pure ()
  | message :: messages => do
    sendMessage message
    sendAll messages

/-- Accept one request after another. -/
def acceptAll : List (Request × ReceiveOptions) → ChannelAction σ ω (List Message)
  | [] => pure []
  | (request, options) :: requests => do
    let message ← acceptMessage options request
    return message :: (← acceptAll requests)

/-! ## One message -/

/-- An accept that belongs to a message takes its wire form. -/
theorem acceptMessage_takes {source : Source ω σ} (exchange : Exchange) {sender : ChannelConfig}
    {state : Channel σ × Surroundings ω} (hfits : exchange.message.Fits sender state.1.config) :
    Takes source state exchange.message.wire exchange.message
      (acceptMessage exchange.options exchange.request) := by
  obtain ⟨message, request, options, hforever, hbelongs⟩ := exchange
  have hmatches : message.Matches .blocking request := by
    cases hbelongs with
    | request _ => exact message.matches_blocking
    | slots kind values => exact .slots kind values
  have hwhole : ∀ content, message = .bytes content → options.everything = true := by
    intro content hcontent
    cases hbelongs with
    | request hwhole => exact hwhole content hcontent
    | slots kind values => contradiction
  have hdraws : Draws source.flow.supply state message.pieces message
      (acceptMessage options request) :=
    acceptMessage_draws hmatches (.inl hforever) (fun content h => .inl (hwhole content h))
      (fun _ => flow_terminates source.flow) hfits
  rw [← message.flatten_pieces]
  exact hdraws.takes

/-! ## Many messages -/

theorem sendAll_puts {sink : Sink ω σ} (messages : List Message) {receiver : ChannelConfig}
    {state : Channel σ × Surroundings ω} (hready : sink.Ready (below state))
    (hfits : ∀ message ∈ messages, message.Fits state.1.config receiver) :
    Puts sink state (messages.flatMap Message.wire) (sendAll messages) := by
  induction messages generalizing state with
  | nil => exact ⟨state, returns_pure (), Sent.refl hready⟩
  | cons message messages ih =>
      rw [List.flatMap_cons]
      have hmessage := hfits message List.mem_cons_self
      refine (sendMessage_puts hready hmessage).bind fun between hsent => ?_
      refine ih hsent.ready fun later hlater => ?_
      rw [hsent.config]
      exact hfits later (List.mem_cons_of_mem message hlater)

theorem acceptAll_takes {source : Source ω σ} (exchanges : List Exchange) {sender : ChannelConfig}
    {state : Channel σ × Surroundings ω}
    (hfits : ∀ exchange ∈ exchanges, exchange.message.Fits sender state.1.config) :
    Takes source state ((exchanges.map Exchange.message).flatMap Message.wire)
      (exchanges.map Exchange.message)
      (acceptAll (exchanges.map fun exchange => (exchange.request, exchange.options))) := by
  induction exchanges generalizing state with
  | nil => exact takes_pure state []
  | cons exchange exchanges ih =>
      rw [List.map_cons, List.flatMap_cons]
      have hfirst := hfits exchange List.mem_cons_self
      refine (acceptMessage_takes exchange hfirst).bind fun between hconfig => ?_
      refine Takes.map _ (ih fun later hlater => ?_)
      rw [hconfig]
      exact hfits later (List.mem_cons_of_mem exchange hlater)

/-! ## From end to end -/

/-- Messages that fit are sent, and arrive as they were sent.  The sends put some `wire` into the
sink; over any source that begins with it the accepts take exactly that, and both channels count
as many bytes. -/
theorem roundTrip (sink : Sink ω σ) (source : Source ω' σ') (exchanges : List Exchange)
    (config : ChannelConfig) (sender : Channel σ × Surroundings ω)
    (hsender : sink.Ready (below sender))
    (hfits : ∀ exchange ∈ exchanges, exchange.message.Fits sender.1.config config) :
    ∃ (wire : Bytes) (sent : Channel σ × Surroundings ω),
      (sendAll (exchanges.map Exchange.message)).Returns sender (.ok ()) sent ∧
      sink.accepted (below sent) = sink.accepted (below sender) ++ wire ∧
      sent.1.bytesSent = sender.1.bytesSent + wire.length ∧
      ∀ (receiver : Channel σ' × Surroundings ω') (rest : Bytes), receiver.1.config = config →
        source.Ready (below receiver) → source.incoming (below receiver) = wire ++ rest →
        ∃ received : Channel σ' × Surroundings ω',
          (acceptAll (exchanges.map fun exchange => (exchange.request, exchange.options))).Returns
            receiver (.ok (exchanges.map Exchange.message)) received ∧
          source.incoming (below received) = rest ∧
          received.1.bytesReceived = receiver.1.bytesReceived + wire.length := by
  have hmessages : ∀ message ∈ exchanges.map Exchange.message,
      message.Fits sender.1.config config := by
    simpa using hfits
  obtain ⟨sent, hsend, hsent⟩ := sendAll_puts (exchanges.map Exchange.message) hsender hmessages
  refine ⟨_, sent, hsend, hsent.accepted, hsent.counted, ?_⟩
  intro receiver rest hconfig hready hincoming
  obtain ⟨received, haccept, hreceived⟩ := acceptAll_takes exchanges
    (fun exchange hexchange => hconfig ▸ hfits exchange hexchange) rest hready hincoming
  have hrest : source.incoming (below received) = rest :=
    List.append_cancel_left (hreceived.incoming.symm.trans hincoming)
  exact ⟨received, haccept, hrest, hreceived.counted⟩

/-- A channel over the only link of its host. -/
def linked (link : Link) : Channel Handle × Surroundings Host :=
  (opened (.link 0 .stream) .localEnd { diagnostics := { sink := none, slot := 0 } },
    Surroundings.withLink link)

/-- Messages of several kinds, which a byte more or less in one of them would spoil. -/
def assorted : List Message :=
  [.primitive .float32 (.ofNat .float32 0x7fa00001), .strings [none, some "", some "é"],
    .terminated "ab" "\r\n", .array .int16 [.ofInt .int16 (-2), .ofInt .int16 3],
    .bytes [1, 2, 3], .string none]

/-- They arrive over links that write three bytes at a time and read two, with interruptions, and
what follows them is left alone. -/
theorem roundTrip_assorted : ∃ (wire : Bytes) (sent received : Channel Handle × Surroundings Host),
    (sendAll assorted).Returns
      (linked { writeChunk := some 3,
                writes := [.failed (.ofErrno .interrupted), .atMost 1] }) (.ok ()) sent ∧
    (Link.sink 0).accepted (below sent) = wire ∧ sent.1.bytesSent = wire.length ∧
    (acceptAll (assorted.map fun message => (message.request, .blocking))).Returns
      (linked { stream := wire ++ [255], readChunk := some 2,
                reads := [.atMost 1, .failed (.ofErrno .interrupted)] }) (.ok assorted) received ∧
    (Link.source 0).incoming (below received) = [255] ∧
    received.1.bytesReceived = wire.length := by
  have hterminated : FitsTerminated 8192 (Text.Utf8.encode "ab") (Text.Utf8.encode "\r\n") :=
    ⟨by decide, by decide, by decide⟩
  have hempty : (Text.Utf8.encode "").length = 0 := by decide
  have hletter : (Text.Utf8.encode "é").length = 2 := by decide
  obtain ⟨wire, sent, hsend, haccepted, hsent, harrive⟩ :=
    roundTrip (Link.sink 0) (Link.source 0) (assorted.map Exchange.of) (linked {}).1.config
      (linked { writeChunk := some 3, writes := [.failed (.ofErrno .interrupted), .atMost 1] })
      ⟨⟨_, rfl⟩, _, rfl, rfl⟩
      (by simp [assorted, Exchange.of, Message.Fits, FitsString, linked, opened, hterminated,
        maxAnnounced, hempty, hletter])
  obtain ⟨received, haccept, hrest, hreceived⟩ :=
    harrive (linked { stream := wire ++ [255], readChunk := some 2,
                      reads := [.atMost 1, .failed (.ofErrno .interrupted)] }) [255] rfl
      ⟨⟨_, by decide, rfl⟩, _, rfl, rfl⟩ rfl
  exact ⟨wire, sent, received, hsend, haccepted, by simpa [linked, opened] using hsent, haccept,
    hrest, by simpa [linked, opened] using hreceived⟩

end Channel

end TypedChannel
