import TypedChannel.Proofs.Host.DatagramLink
import TypedChannel.Proofs.RoundTrip.Messages
/-!
# TypedChannel.Proofs.RoundTrip.Datagrams

Typed messages over datagrams, from one end to the other.

1. A send makes one datagram of each piece of its message that is not empty
   (`Message.datagrams`), and the accept that belongs to it asks for the same
   pieces.
2. So every accept takes exactly the datagrams of its own send: with the sizes
   that it asks for none is cut, and none is left for a later accept.
-/

namespace TypedChannel

open TypedChannel.Action

/-- The datagrams that carry a message. -/
def Message.datagrams (message : Message) : List Bytes := TypedChannel.datagrams message.pieces

/-- A message and the accept that belongs to it. -/
structure Parcel where
  message : Message
  request : Request
  options : ReceiveOptions
  belongs : message.Matches .blocking request

/-- The parcel of a message and the accept that `Message.request` names. -/
def Parcel.of (message : Message) (options : ReceiveOptions) : Parcel where
  message
  request := message.request
  options
  belongs := message.matches_blocking

/-- One step after another, each with its label. -/
inductive Chain {label state : Type} (step : label → state → state → Prop) :
    List label → state → state → Prop
  | nil (now : state) : Chain step [] now now
  | cons {first : label} {others : List label} {before between after : state}
      (head : step first before between) (tail : Chain step others between after) :
      Chain step (first :: others) before after

namespace Channel

variable {ω σ ω' σ' : Type} [World ω] [Transport ω σ] [World ω'] [Transport ω' σ']

/-! ## Terminated messages -/

/-- A datagram that ends with the terminator is a message. -/
theorem inbox_terminates (inbox : Inbox ω σ) (rest : List Bytes) (lost : Nat) :
    Terminates (inbox.supply rest lost) := by
  intro payload terminator options state htime hfits pieces hholds
  obtain ⟨hterminator, hfirst, hsize⟩ := hfits
  obtain ⟨hready, hwaiting, hlost⟩ := hholds
  have hdatagram : payload ++ terminator ≠ [] := by simp [hterminator]
  rw [List.singleton_append, datagrams_cons hdatagram, List.cons_append] at hwaiting
  have hlength : (payload ++ terminator).length ≤ state.1.config.terminatedBufferSize := by
    rwa [List.length_append]
  have hroom : state.1.config.terminatedBufferSize ≠ 0 := by
    have hpositive := List.length_pos_iff.mpr hdatagram
    omega
  obtain ⟨received, hreceive, hreceived, hothers, hcut⟩ :=
    inbox.receive_returns options.timeout hready hroom hdatagram hwaiting
  rw [List.take_of_length_le hlength] at hreceive
  rw [Nat.sub_eq_zero_of_le hlength, Nat.add_zero, hlost] at hcut
  have hreceive' : (Transport.receive state.1.config.terminatedBufferSize
      options.partial.timeout options.partial.everything :
        Action (σ × ω) TransportError Bytes).Returns (below state) (.ok (payload ++ terminator))
          received := hreceive
  obtain ⟨after, event, hreturns, hbelow, hcounted, hconfig⟩ := acceptBytes_returns hreceive'
  have hnoted : (inbox.supply rest lost).Holds (below after) pieces := by
    rw [hbelow]
    exact (inbox.supply rest lost).note event ⟨hreceived, hothers, hcut⟩
  have haccept : (acceptTerminatedDatagram terminator options :
      ChannelAction σ ω Bytes).Returns state (.ok payload) after := by
    refine (returns_see _).bind (hreturns.bind ?_)
    have hpayload : (payload ++ terminator).take payload.length = payload := List.take_left
    simp only [hfirst, hpayload]
    exact returns_pure payload
  exact ⟨after, acceptTerminatedBytes_of_datagram hterminator (inbox.datagram hready) haccept,
    hnoted, by simpa using hcounted, hconfig⟩

/-! ## One message -/

/-- One send: it succeeds and makes exactly the datagrams of its message. -/
structure Dispatches (outbox : Outbox ω σ) (parcel : Parcel)
    (before after : Channel σ × Surroundings ω) : Prop where
  returns : (sendMessage parcel.message).Returns before (.ok ()) after
  sent : outbox.sent (below after) = outbox.sent (below before) ++ parcel.message.datagrams

/-- One accept: it gives the message back and takes exactly its datagrams, each of them whole. -/
structure Collects (inbox : Inbox ω σ) (parcel : Parcel)
    (before after : Channel σ × Surroundings ω) : Prop where
  returns : (acceptMessage parcel.options parcel.request).Returns before (.ok parcel.message) after
  waiting : inbox.waiting (below before) = parcel.message.datagrams ++ inbox.waiting (below after)
  lost : inbox.lost (below after) = inbox.lost (below before)

theorem sendMessage_dispatches (outbox : Outbox ω σ) {parcel : Parcel} {receiver : ChannelConfig}
    {state : Channel σ × Surroundings ω} (hready : outbox.Ready (below state))
    (hfits : parcel.message.Fits state.1.config receiver) : ∃ after,
      Dispatches outbox parcel state after ∧ outbox.Ready (below after) ∧
        after.1.config = state.1.config := by
  have hconveys : Conveys (outbox.intake (outbox.sent (below state))) state parcel.message.pieces
      (sendMessage parcel.message) := sendMessage_conveys hfits
  obtain ⟨after, hreturns, ⟨hafter, hsent⟩, -, hconfig⟩ := hconveys [] ⟨hready, by simp⟩
  exact ⟨after, ⟨hreturns, hsent⟩, hafter, hconfig⟩

theorem acceptMessage_collects (inbox : Inbox ω σ) {parcel : Parcel} {sender : ChannelConfig}
    {state : Channel σ × Surroundings ω} {rest : List Bytes} (hready : inbox.Ready (below state))
    (hwaiting : inbox.waiting (below state) = parcel.message.datagrams ++ rest)
    (hfits : parcel.message.Fits sender state.1.config) : ∃ after,
      Collects inbox parcel state after ∧ inbox.Ready (below after) ∧
        inbox.waiting (below after) = rest ∧ after.1.config = state.1.config := by
  have hdraws : Draws (inbox.supply rest (inbox.lost (below state))) state parcel.message.pieces
      parcel.message (acceptMessage parcel.options parcel.request) :=
    acceptMessage_draws parcel.belongs (.inr rfl) (fun _ _ => .inr rfl)
      (fun _ => inbox_terminates inbox rest _) hfits
  obtain ⟨after, hreturns, ⟨hafter, hleft, hlost⟩, -, hconfig⟩ := hdraws [] (by
    rw [List.append_nil]
    exact ⟨hready, hwaiting, rfl⟩)
  rw [datagrams_nil, List.nil_append] at hleft
  exact ⟨after, ⟨hreturns, by rw [hwaiting, hleft], hlost⟩, hafter, hleft, hconfig⟩

/-! ## Many messages -/

theorem sends_chain (outbox : Outbox ω σ) (parcels : List Parcel) {receiver : ChannelConfig}
    {state : Channel σ × Surroundings ω} (hready : outbox.Ready (below state))
    (hfits : ∀ parcel ∈ parcels, parcel.message.Fits state.1.config receiver) : ∃ after,
      Chain (Dispatches outbox) parcels state after ∧ outbox.sent (below after) =
        outbox.sent (below state) ++ parcels.flatMap (·.message.datagrams) := by
  induction parcels generalizing state with
  | nil => exact ⟨state, .nil state, by simp⟩
  | cons parcel parcels ih =>
      obtain ⟨between, hfirst, hbetween, hconfig⟩ :=
        sendMessage_dispatches outbox hready (hfits parcel List.mem_cons_self)
      have hothers : ∀ later ∈ parcels, later.message.Fits between.1.config receiver := by
        intro later hlater
        rw [hconfig]
        exact hfits later (List.mem_cons_of_mem parcel hlater)
      obtain ⟨after, hchain, hsent⟩ := ih hbetween hothers
      refine ⟨after, .cons hfirst hchain, ?_⟩
      rw [hsent, hfirst.sent, List.flatMap_cons, List.append_assoc]

theorem accepts_chain (inbox : Inbox ω σ) (parcels : List Parcel) {sender : ChannelConfig}
    {state : Channel σ × Surroundings ω} {rest : List Bytes} (hready : inbox.Ready (below state))
    (hwaiting : inbox.waiting (below state) = parcels.flatMap (·.message.datagrams) ++ rest)
    (hfits : ∀ parcel ∈ parcels, parcel.message.Fits sender state.1.config) : ∃ after,
      Chain (Collects inbox) parcels state after ∧ inbox.waiting (below after) = rest ∧
        inbox.lost (below after) = inbox.lost (below state) := by
  induction parcels generalizing state with
  | nil => exact ⟨state, .nil state, by simpa using hwaiting, rfl⟩
  | cons parcel parcels ih =>
      rw [List.flatMap_cons, List.append_assoc] at hwaiting
      obtain ⟨between, hfirst, hbetween, hleft, hconfig⟩ :=
        acceptMessage_collects inbox hready hwaiting (hfits parcel List.mem_cons_self)
      have hothers : ∀ later ∈ parcels, later.message.Fits sender between.1.config := by
        intro later hlater
        rw [hconfig]
        exact hfits later (List.mem_cons_of_mem parcel hlater)
      obtain ⟨after, hchain, hrest, hlost⟩ := ih hbetween hleft hothers
      exact ⟨after, .cons hfirst hchain, hrest, hlost.trans hfirst.lost⟩

/-! ## From end to end -/

/-- Messages that fit are sent, and arrive as they were sent: each accept gives its message back
and takes exactly the datagrams that the send of this message has made, without cutting any, and
behind the last one nothing of them is left. -/
theorem datagramRoundTrip (outbox : Outbox ω σ) (parcels : List Parcel) (config : ChannelConfig)
    (sender : Channel σ × Surroundings ω) (hsender : outbox.Ready (below sender))
    (hfits : ∀ parcel ∈ parcels, parcel.message.Fits sender.1.config config) :
    ∃ (carried : List Bytes) (sent : Channel σ × Surroundings ω),
      Chain (Dispatches outbox) parcels sender sent ∧
      outbox.sent (below sent) = outbox.sent (below sender) ++ carried ∧
      ∀ (inbox : Inbox ω' σ') (receiver : Channel σ' × Surroundings ω') (rest : List Bytes),
        receiver.1.config = config → inbox.Ready (below receiver) →
        inbox.waiting (below receiver) = carried ++ rest →
        ∃ received : Channel σ' × Surroundings ω',
          Chain (Collects inbox) parcels receiver received ∧
          inbox.waiting (below received) = rest ∧
          inbox.lost (below received) = inbox.lost (below receiver) := by
  obtain ⟨sent, hsends, hsent⟩ := sends_chain outbox parcels hsender hfits
  refine ⟨_, sent, hsends, hsent, ?_⟩
  intro inbox receiver rest hconfig hready hwaiting
  subst hconfig
  exact accepts_chain inbox parcels hready hwaiting hfits

/-- A channel over the only link of its host, which holds datagrams. -/
def linkedDatagrams (datagrams : List Bytes) : Channel Handle × Surroundings Host :=
  (opened (.link 0 .datagram) .localEnd { diagnostics := { sink := none, slot := 0 } },
    Surroundings.withLink { kind := .datagram, datagrams })

/-- Messages with empty pieces in them, each accepted without waiting. -/
def partlyEmpty : List Parcel :=
  [.bytes [], .string (some ""), .array .int16 [], .strings [none, some "é"], .terminated "" ";",
    .string none].map (Parcel.of · (.ofMillis 0))

/-- They arrive over links, and a datagram behind them stays where it is. -/
theorem datagramRoundTrip_partlyEmpty :
    ∃ (carried : List Bytes) (sent received : Channel Handle × Surroundings Host),
      Chain (Dispatches (Link.outbox 0)) partlyEmpty (linkedDatagrams []) sent ∧
      (Link.outbox 0).sent (below sent) = carried ∧
      Chain (Collects (Link.inbox 0 (carried ++ [[255]]))) partlyEmpty
        (linkedDatagrams (carried ++ [[255]])) received ∧
      (Link.inbox 0 (carried ++ [[255]])).waiting (below received) = [[255]] ∧
      (Link.inbox 0 (carried ++ [[255]])).lost (below received) = 0 := by
  have hempty : (Text.Utf8.encode "").length = 0 := by decide
  have hletter : (Text.Utf8.encode "é").length = 2 := by decide
  have hterminated : FitsTerminated 8192 (Text.Utf8.encode "") (Text.Utf8.encode ";") :=
    ⟨by decide, by decide, by decide⟩
  have hfits : ∀ parcel ∈ partlyEmpty, parcel.message.Fits (linkedDatagrams []).1.config
      (linkedDatagrams []).1.config := by
    simp [partlyEmpty, Parcel.of, Message.Fits, FitsString, linkedDatagrams, opened, hterminated,
      maxAnnounced, hempty, hletter]
  obtain ⟨carried, sent, hsends, hsent, harrive⟩ :=
    @datagramRoundTrip Host Handle Host Handle _ _ _ _ (Link.outbox 0) partlyEmpty
      (linkedDatagrams []).1.config (linkedDatagrams []) ⟨⟨_, rfl⟩, _, rfl, rfl, rfl⟩ hfits
  obtain ⟨received, haccepts, hrest, hlost⟩ :=
    harrive (Link.inbox 0 (carried ++ [[255]])) (linkedDatagrams (carried ++ [[255]])) [[255]] rfl
      ⟨rfl, _, rfl, rfl, rfl, rfl, rfl, [], rfl, rfl⟩ rfl
  exact ⟨carried, sent, received, hsends, hsent, haccepts, hrest, hlost.trans (by
    simp [Link.inbox, linkedDatagrams, Link.cutOff, Link.rooms, below, Surroundings.withLink])⟩

end Channel

end TypedChannel
