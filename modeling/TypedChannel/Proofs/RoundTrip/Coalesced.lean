import TypedChannel.Proofs.Buffered.Bundles
import TypedChannel.Proofs.RoundTrip.Datagrams
import TypedChannel.Proofs.RoundTrip.Stream
/-!
# TypedChannel.Proofs.RoundTrip.Coalesced

Typed messages over datagrams with buffers at both ends.

Where the writer flushes, and how large its buffer is, decides which pieces
share a datagram.  The reader need not know: whatever the flushes, a buffer as
large as the writer's gives it the messages back.
-/

namespace TypedChannel

open TypedChannel.Action

/-- What a writer does next. -/
inductive Posting where
  | send (parcel : Parcel)
  | flush

/-- What is sent. -/
def Posting.parcels (script : List Posting) : List Parcel :=
  script.filterMap fun posting => match posting with
    | .send parcel => some parcel
    | .flush => none

namespace Channel

variable {ω σ ω' σ' : Type} [World ω] [Transport ω σ] [World ω'] [Transport ω' σ']

/-- Do one thing. -/
def post : Posting → ChannelAction σ ω Unit
  | .send parcel => sendMessage parcel.message
  | .flush => flush

/-- Do one thing after another, and flush in the end. -/
def postAll : List Posting → ChannelAction σ ω Unit
  | [] => flush
  | posting :: script => do
    post posting
    postAll script

/-! ## Sending -/

section Sending

variable {outbox : Outbox ω σ} {start : List Bytes} {capacity : Nat}
  {state : Channel (Buffered σ) × Surroundings ω}

/-- A flush leaves no piece behind. -/
theorem flush_returns {bundles : List (List Bytes)} {held : List Bytes}
    (h : Buffered.Collecting outbox start capacity bundles held (below state)) :
    ∃ after bundles', (flush : ChannelAction (Buffered σ) ω Unit).Returns state (.ok ()) after ∧
      bundles'.flatten = bundles.flatten ++ held ∧
      Buffered.Collecting outbox start capacity bundles' [] (below after) ∧
      after.1.bytesSent = state.1.bytesSent ∧ after.1.config = state.1.config := by
  obtain ⟨after, bundles', hflush, hsame, hafter⟩ := Buffered.flushRaw_returns h
  exact ⟨_, bundles', (returns_onTransport hflush).bind (returns_pure _), hsame, hafter, rfl, rfl⟩

theorem flush_conveys :
    Conveys (Buffered.intake outbox start capacity) state [] flush := by
  rintro before ⟨bundles, held, hpieces, h⟩
  obtain ⟨after, bundles', hflush, hsame, hafter, hcounted, hconfig⟩ := flush_returns h
  exact ⟨after, hflush, ⟨bundles', [], by simp [hsame, hpieces], hafter⟩, by simp [hcounted],
    hconfig⟩

/-- The pieces of all messages go on, in bundles. -/
theorem postAll_returns (script : List Posting) {receiver : ChannelConfig} {pieces : List Bytes}
    (hholds : (Buffered.intake outbox start capacity).Holds (below state) pieces)
    (hfits : ∀ parcel ∈ Posting.parcels script, parcel.message.Fits state.1.config receiver) :
    ∃ after bundles, (postAll script).Returns state (.ok ()) after ∧
      bundles.flatten = datagrams pieces ++
        (Posting.parcels script).flatMap (·.message.datagrams) ∧
      Buffered.Collecting outbox start capacity bundles [] (below after) := by
  induction script generalizing state pieces with
  | nil =>
      obtain ⟨bundles, held, hpieces, h⟩ := hholds
      obtain ⟨after, bundles', hflush, hsame, hafter, -, -⟩ := flush_returns h
      exact ⟨after, bundles', hflush, by simp [hsame, hpieces, Posting.parcels], hafter⟩
  | cons posting script ih =>
      cases posting with
      | flush =>
          obtain ⟨between, hflush, hbetween, -, hconfig⟩ := flush_conveys pieces hholds
          obtain ⟨after, bundles, hreturns, hbundles, hafter⟩ := ih hbetween (by
            rw [hconfig]
            exact hfits)
          rw [List.append_nil] at hbundles
          exact ⟨after, bundles, hflush.bind hreturns, hbundles, hafter⟩
      | send parcel =>
          have hparcels : Posting.parcels (.send parcel :: script) =
              parcel :: Posting.parcels script := rfl
          rw [hparcels] at hfits ⊢
          have hconveys : Conveys (Buffered.intake outbox start capacity) state
              parcel.message.pieces (sendMessage parcel.message) :=
            sendMessage_conveys (hfits parcel List.mem_cons_self)
          obtain ⟨between, hsend, hbetween, -, hconfig⟩ := hconveys pieces hholds
          obtain ⟨after, bundles, hreturns, hbundles, hafter⟩ := ih hbetween fun later hlater => by
            rw [hconfig]
            exact hfits later (List.mem_cons_of_mem parcel hlater)
          rw [datagrams_append, List.append_assoc] at hbundles
          exact ⟨after, bundles, hsend.bind hreturns, hbundles, hafter⟩

end Sending

/-! ## Receiving -/

/-- Accepts over any supply that recognises no terminator are served with the pieces of their
messages. -/
theorem acceptAll_draws {supply : Supply ω σ} (htimed : supply.timed = true)
    (hwhole : supply.whole = true) (parcels : List Parcel) {sender : ChannelConfig}
    {state : Channel σ × Surroundings ω}
    (hprefixed : ∀ parcel ∈ parcels, parcel.message.isTerminated = false)
    (hfits : ∀ parcel ∈ parcels, parcel.message.Fits sender state.1.config) :
    Draws supply state (parcels.flatMap (·.message.pieces)) (parcels.map Parcel.message)
      (acceptAll (parcels.map fun parcel => (parcel.request, parcel.options))) := by
  induction parcels generalizing state with
  | nil => exact draws_pure [] state
  | cons parcel parcels ih =>
      have hfirst : Draws supply state parcel.message.pieces parcel.message
          (acceptMessage parcel.options parcel.request) :=
        acceptMessage_draws parcel.belongs (.inr htimed) (fun _ _ => .inr hwhole)
          (fun hterminated => by simp [hprefixed parcel List.mem_cons_self] at hterminated)
          (hfits parcel List.mem_cons_self)
      rw [List.flatMap_cons, List.map_cons]
      refine hfirst.bind fun between hconfig => Draws.map _ (ih ?_ ?_)
      · exact fun later hlater => hprefixed later (List.mem_cons_of_mem parcel hlater)
      · intro later hlater
        rw [hconfig]
        exact hfits later (List.mem_cons_of_mem parcel hlater)

/-- What is unpacked are the messages, and then nothing more. -/
theorem acceptAll_returns {inbox : Inbox ω σ} {rest : List Bytes} {lost capacity : Nat}
    {bundles : List (List Bytes)} {parcels : List Parcel} {sender : ChannelConfig}
    {state : Channel (Buffered σ) × Surroundings ω}
    (h : Buffered.Unpacking inbox rest lost capacity [] bundles (below state))
    (hbundles : bundles.flatten = parcels.flatMap (·.message.datagrams))
    (hprefixed : ∀ parcel ∈ parcels, parcel.message.isTerminated = false)
    (hfits : ∀ parcel ∈ parcels, parcel.message.Fits sender state.1.config) :
    ∃ after : Channel (Buffered σ) × Surroundings ω,
      (acceptAll (parcels.map fun parcel => (parcel.request, parcel.options))).Returns state
          (.ok (parcels.map Parcel.message)) after ∧
        after.1.transport.unread = [] ∧ inbox.waiting (Buffered.inside (below after)) = rest ∧
        inbox.lost (Buffered.inside (below after)) = lost := by
  have hdraws : Draws (Buffered.supply inbox rest lost capacity) state
      (parcels.flatMap (·.message.pieces)) (parcels.map Parcel.message)
      (acceptAll (parcels.map fun parcel => (parcel.request, parcel.options))) :=
    acceptAll_draws rfl rfl parcels hprefixed hfits
  have hpieces : bundles.flatten = datagrams (parcels.flatMap (·.message.pieces)) := by
    rw [hbundles, datagrams, List.filter_flatMap]
    rfl
  obtain ⟨after, haccept, ⟨front, left, hnone, hafter⟩, -, -⟩ := hdraws [] (by
    rw [List.append_nil]
    exact ⟨[], bundles, hpieces, h⟩)
  obtain ⟨hunread, hwaiting⟩ := hafter.finished hnone
  exact ⟨after, haccept, hunread, hwaiting, hafter.lost⟩

/-! ## From end to end -/

/-- Messages that are sent through a buffer, with flushes anywhere among them and one at the end,
arrive through another one that is as large: no byte of them stays behind, and none is cut off. -/
theorem coalescedRoundTrip (outbox : Outbox ω σ) (script : List Posting) (config : ChannelConfig)
    (sender : Channel (Buffered σ) × Surroundings ω)
    (hsender : outbox.Ready (Buffered.inside (below sender)))
    (hpending : sender.1.transport.pending = [])
    (hprefixed : ∀ parcel ∈ Posting.parcels script, parcel.message.isTerminated = false)
    (hfits : ∀ parcel ∈ Posting.parcels script, parcel.message.Fits sender.1.config config) :
    ∃ (carried : List Bytes) (sent : Channel (Buffered σ) × Surroundings ω),
      (postAll script).Returns sender (.ok ()) sent ∧ sent.1.transport.pending = [] ∧
      outbox.sent (Buffered.inside (below sent)) =
        outbox.sent (Buffered.inside (below sender)) ++ carried ∧
      ∀ (inbox : Inbox ω' σ') (receiver : Channel (Buffered σ') × Surroundings ω')
        (rest : List Bytes), receiver.1.config = config →
        sender.1.transport.capacity ≤ receiver.1.transport.capacity →
        receiver.1.transport.unread = [] → inbox.Ready (Buffered.inside (below receiver)) →
        inbox.waiting (Buffered.inside (below receiver)) = carried ++ rest →
        ∃ received : Channel (Buffered σ') × Surroundings ω',
          (acceptAll ((Posting.parcels script).map fun parcel =>
            (parcel.request, parcel.options))).Returns receiver
              (.ok ((Posting.parcels script).map Parcel.message)) received ∧
          received.1.transport.unread = [] ∧
          inbox.waiting (Buffered.inside (below received)) = rest ∧
          inbox.lost (Buffered.inside (below received)) =
            inbox.lost (Buffered.inside (below receiver)) := by
  have hcollecting : Buffered.Collecting outbox (outbox.sent (Buffered.inside (below sender)))
      sender.1.transport.capacity [] [] (below sender) :=
    ⟨hsender, rfl, by simp, by simp, hpending, by simp, by simp⟩
  have hholds : (Buffered.intake outbox (outbox.sent (Buffered.inside (below sender)))
      sender.1.transport.capacity).Holds (below sender) [] := ⟨[], [], rfl, hcollecting⟩
  obtain ⟨sent, bundles, hsend, hbundles, hsent⟩ := postAll_returns script hholds hfits
  refine ⟨bundles.map List.flatten, sent, hsend, hsent.pending, hsent.sent, ?_⟩
  intro inbox receiver rest hconfig hcapacity hunread hready hwaiting
  subst hconfig
  have hunpacking : Buffered.Unpacking inbox rest (inbox.lost (Buffered.inside (below receiver)))
      receiver.1.transport.capacity [] bundles (below receiver) :=
    ⟨hready, rfl, hunread, by simp, hwaiting,
      fun bundle hbundle => (hsent.bundled bundle hbundle).mono hcapacity, rfl⟩
  exact acceptAll_returns hunpacking hbundles hprefixed hfits

/-- A channel over the only link of its host, which holds datagrams, with a buffer between. -/
def buffered (capacity : Nat) (datagrams : List Bytes) :
    Channel (Buffered Handle) × Surroundings Host :=
  ((linkedDatagrams datagrams).1.mapTransport (Buffered.wrap capacity),
    (linkedDatagrams datagrams).2)

/-- Pieces that share a datagram, one that fills the buffer, and one that goes past it. -/
def uneven : List Posting :=
  [.send (.of (.string (some "é")) .blocking), .send (.of (.bytes [1]) .blocking), .flush,
    .send (.of (.strings [none, some "", some "é"]) (.ofMillis 0)), .flush, .flush,
    .send (.of (.bytes [1, 2, 3, 4, 5, 6, 7, 8]) .blocking),
    .send (.of (.array .int16 []) .blocking)]

/-- They arrive through buffers of six bytes and of seven, and a datagram behind them stays where
it is. -/
theorem coalescedRoundTrip_uneven :
    ∃ (carried : List Bytes) (sent received : Channel (Buffered Handle) × Surroundings Host),
      (postAll uneven).Returns (buffered 6 []) (.ok ()) sent ∧ sent.1.transport.pending = [] ∧
      (Link.outbox 0).sent (Buffered.inside (below sent)) = carried ∧
      (acceptAll ((Posting.parcels uneven).map fun parcel =>
        (parcel.request, parcel.options))).Returns (buffered 7 (carried ++ [[255]]))
          (.ok ((Posting.parcels uneven).map Parcel.message)) received ∧
      received.1.transport.unread = [] ∧
      (Link.inbox 0 (carried ++ [[255]])).waiting (Buffered.inside (below received)) = [[255]] ∧
      (Link.inbox 0 (carried ++ [[255]])).lost (Buffered.inside (below received)) = 0 := by
  have hempty : (Text.Utf8.encode "").length = 0 := by decide
  have hletter : (Text.Utf8.encode "é").length = 2 := by decide
  have hprefixed : ∀ parcel ∈ Posting.parcels uneven, parcel.message.isTerminated = false := by
    simp [uneven, Posting.parcels, Parcel.of, Message.isTerminated]
  have hfits : ∀ parcel ∈ Posting.parcels uneven,
      parcel.message.Fits (buffered 6 []).1.config (buffered 6 []).1.config := by
    simp [uneven, Posting.parcels, Parcel.of, Message.Fits, FitsString, buffered, linkedDatagrams,
      mapTransport, opened, maxAnnounced, hempty, hletter]
  obtain ⟨carried, sent, hsend, hpending, hsent, harrive⟩ :=
    @coalescedRoundTrip Host Handle Host Handle _ _ _ _ (Link.outbox 0) uneven
      (buffered 6 []).1.config (buffered 6 []) ⟨⟨_, rfl⟩, _, rfl, rfl, rfl⟩ rfl hprefixed hfits
  obtain ⟨received, haccept, hunread, hrest, hlost⟩ :=
    harrive (Link.inbox 0 (carried ++ [[255]])) (buffered 7 (carried ++ [[255]])) [[255]] rfl
      (show max 6 1 ≤ max 7 1 by decide) rfl ⟨rfl, _, rfl, rfl, rfl, rfl, rfl, [], rfl, rfl⟩ rfl
  exact ⟨carried, sent, received, hsend, hpending, hsent, haccept, hunread, hrest,
    hlost.trans (by simp [Link.inbox, buffered, mapTransport, linkedDatagrams, Link.cutOff,
      Link.rooms, below, Buffered.inside, Surroundings.withLink])⟩

end Channel

end TypedChannel
