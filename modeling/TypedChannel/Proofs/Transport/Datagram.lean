import TypedChannel.Proofs.Transport.Supply
/-!
# TypedChannel.Proofs.Transport.Datagram

Transports that carry datagrams: in order, and none is lost.

1. Into an `Outbox` every write goes as one datagram of its own.
2. From an `Inbox` every read takes one datagram, and cuts off what there is no
   room for; `lost` counts the bytes that were cut off.
3. An outbox takes every transmit whole (`Outbox.intake`), and an inbox serves
   requests that are as long as its datagrams (`Inbox.supply`).  A piece without
   bytes is neither sent nor read.
4. Where nothing waits any more, `Inbox.Ended` says what requests come to.
-/

namespace TypedChannel

open TypedChannel.Action

variable {ω σ : Type}

/-- The datagrams that carry these pieces. -/
def datagrams (pieces : List Bytes) : List Bytes := pieces.filter (!·.isEmpty)

@[simp] theorem datagrams_nil : datagrams [] = [] := rfl

@[simp] theorem datagrams_empty (pieces : List Bytes) :
    datagrams ([] :: pieces) = datagrams pieces := rfl

@[simp] theorem datagrams_cons {piece : Bytes} (hpiece : piece ≠ []) (pieces : List Bytes) :
    datagrams (piece :: pieces) = piece :: datagrams pieces :=
  List.filter_cons_of_pos (by simp [hpiece])

@[simp] theorem datagrams_append (pieces more : List Bytes) :
    datagrams (pieces ++ more) = datagrams pieces ++ datagrams more := List.filter_append ..

/-- Where every write is a datagram. -/
structure Outbox (ω σ : Type) [World ω] [Transport ω σ] where
  Ready : σ × ω → Prop
  /-- The datagrams sent so far, the first one first. -/
  sent : σ × ω → List Bytes
  write : ∀ {state : σ × ω} {bytes : Bytes}, Ready state → bytes ≠ [] → ∃ after,
    (Transport.writeRaw bytes : Action (σ × ω) TransportError Nat).Returns state
        (.ok bytes.length) after ∧
      Ready after ∧ sent after = sent state ++ [bytes]
  flush : ∀ {state : σ × ω}, Ready state → ∃ after,
    (Transport.flushRaw : Action (σ × ω) TransportError Unit).Returns state (.ok ()) after ∧
      Ready after ∧ sent after = sent state
  note : ∀ {transport : σ} {world : ω} (event : Log.Event), Ready (transport, world) →
    Ready (transport, World.note event world) ∧
      sent (transport, World.note event world) = sent (transport, world)

/-- Where every read takes a datagram. -/
structure Inbox (ω σ : Type) [World ω] [Transport ω σ] where
  Ready : σ × ω → Prop
  /-- The datagrams that wait to be read, the first one first. -/
  waiting : σ × ω → List Bytes
  /-- How many bytes of the datagrams read so far were cut off. -/
  lost : σ × ω → Nat
  datagram : ∀ {state : σ × ω}, Ready state → Transport.kind ω state.1 = .datagram
  poll : ∀ {state : σ × ω} (timeout : Option Duration), Ready state → waiting state ≠ [] →
    ∃ after,
      (Transport.pollReadable timeout : Action (σ × ω) TransportError Bool).Returns state
          (.ok true) after ∧
        Ready after ∧ waiting after = waiting state ∧ lost after = lost state
  read : ∀ {state : σ × ω} {room : Nat} {first : Bytes} {others : List Bytes}, Ready state →
    room ≠ 0 → waiting state = first :: others → ∃ after,
      (Transport.readRaw room : Action (σ × ω) TransportError Bytes).Returns state
          (.ok (first.take room)) after ∧
        Ready after ∧ waiting after = others ∧ lost after = lost state + (first.length - room)
  look : ∀ {transport : σ} {world : ω}, Ready (transport, world) →
    Ready (transport, (World.look world).2) ∧
      waiting (transport, (World.look world).2) = waiting (transport, world) ∧
      lost (transport, (World.look world).2) = lost (transport, world)
  note : ∀ {transport : σ} {world : ω} (event : Log.Event), Ready (transport, world) →
    Ready (transport, World.note event world) ∧
      waiting (transport, World.note event world) = waiting (transport, world) ∧
      lost (transport, World.note event world) = lost (transport, world)

variable [World ω] [Transport ω σ]

/-- An outbox that had sent the datagrams `start`. -/
def Outbox.intake (outbox : Outbox ω σ) (start : List Bytes) : Intake ω σ := by
  refine .ofWrites (fun state pieces =>
    outbox.Ready state ∧ outbox.sent state = start ++ datagrams pieces) ?write ?empty ?note
  case write =>
    rintro state pieces piece ⟨hready, hsent⟩ hpiece
    obtain ⟨after, hwrite, hafter, hmore⟩ := outbox.write hready hpiece
    exact ⟨after, hwrite, hafter, by simp [hmore, hsent, hpiece]⟩
  case empty =>
    rintro state pieces ⟨hready, hsent⟩
    exact ⟨hready, by simpa using hsent⟩
  case note =>
    rintro transport world pieces event ⟨hready, hsent⟩
    obtain ⟨hafter, hsame⟩ := outbox.note event hready
    exact ⟨hafter, hsame.trans hsent⟩

/-- An inbox in which the datagrams `rest` wait behind those that are asked for, and that has cut
off `lost` bytes. -/
def Inbox.supply (inbox : Inbox ω σ) (rest : List Bytes) (lost : Nat) : Supply ω σ := by
  refine .ofReads (fun state pieces => inbox.Ready state ∧
    inbox.waiting state = datagrams pieces ++ rest ∧ inbox.lost state = lost)
    ?poll ?read ?empty ?look ?note
  case poll =>
    rintro state piece pieces timeout ⟨hready, hwaiting, hlost⟩ hpiece
    obtain ⟨after, hpoll, hafter, hsame, hkept⟩ :=
      inbox.poll timeout hready (by simp [hwaiting, hpiece])
    exact ⟨after, hpoll, hafter, hsame.trans hwaiting, hkept.trans hlost⟩
  case read =>
    rintro state piece pieces ⟨hready, hwaiting, hlost⟩ hpiece
    rw [datagrams_cons hpiece, List.cons_append] at hwaiting
    have hroom : piece.length ≠ 0 := by simpa using hpiece
    obtain ⟨after, hread, hafter, hothers, hcut⟩ := inbox.read hready hroom hwaiting
    rw [List.take_length] at hread
    exact ⟨after, hread, hafter, hothers, by rw [hcut, hlost, Nat.sub_self, Nat.add_zero]⟩
  case empty =>
    exact fun h => h
  case look =>
    rintro transport world pieces ⟨hready, hwaiting, hlost⟩
    obtain ⟨hafter, hsame, hkept⟩ := inbox.look hready
    exact ⟨hafter, hsame.trans hwaiting, hkept.trans hlost⟩
  case note =>
    rintro transport world pieces event ⟨hready, hwaiting, hlost⟩
    obtain ⟨hafter, hsame, hkept⟩ := inbox.note event hready
    exact ⟨hafter, hsame.trans hwaiting, hkept.trans hlost⟩

/-- A request that is content with the first bytes takes the first datagram, unless that is
empty. -/
theorem Inbox.receive_returns (inbox : Inbox ω σ) {state : σ × ω} {first : Bytes}
    {others : List Bytes} {room : Nat} (timeout : Option Duration) (hready : inbox.Ready state)
    (hroom : room ≠ 0) (hfirst : first ≠ []) (hwaiting : inbox.waiting state = first :: others) :
    ∃ after,
      (Transport.receive room timeout false : Action (σ × ω) TransportError Bytes).Returns state
          (.ok (first.take room)) after ∧
        inbox.Ready after ∧ inbox.waiting after = others ∧
        inbox.lost after = inbox.lost state + (first.length - room) := by
  let Waits (world : ω) : Prop := inbox.Ready (state.1, world) ∧
    inbox.waiting (state.1, world) = first :: others ∧
    inbox.lost (state.1, world) = inbox.lost state
  have hlook : ∀ {world : ω}, Waits world → Waits (World.look world).2 := by
    rintro world ⟨hready, hwaiting, hlost⟩
    obtain ⟨hafter, hsame, hkept⟩ := inbox.look hready
    exact ⟨hafter, hsame.trans hwaiting, hkept.trans hlost⟩
  obtain ⟨hready, hwaiting, hlost⟩ : Waits (Deadline.firstWait timeout state.2).2 :=
    Deadline.firstWait_keeps timeout ⟨hready, hwaiting, rfl⟩ hlook
  obtain ⟨polled, hpoll, hready, hsame, hkept⟩ :=
    inbox.poll (Deadline.firstWait timeout state.2).1 hready (by simp [hwaiting])
  obtain ⟨after, hread, hafter, hothers, hcut⟩ := inbox.read hready hroom (hsame.trans hwaiting)
  have htaken : first.take room ≠ [] := by simp [hroom, hfirst]
  exact ⟨after, (returns_step _).bind (Transport.receive_first hroom htaken hpoll hread), hafter,
    hothers, by rw [hcut, hkept, hlost]⟩

/-- What requests with this timeout come to where nothing waits: their reads fail for the cause, or
without one their time passes. -/
structure Inbox.Ended (inbox : Inbox ω σ) (timeout : Option Duration)
    (cause? : Option TransportError) : Prop where
  final : ∀ cause ∈ cause?, cause.isInterrupted = false
  poll : ∀ {state : σ × ω}, inbox.Ready state → inbox.waiting state = [] → ∃ after,
    (Transport.pollReadable (Deadline.firstWait timeout state.2).1 :
      Action (σ × ω) TransportError Bool).Returns
        (state.1, (Deadline.firstWait timeout state.2).2) (.ok cause?.isSome) after ∧
      inbox.Ready after ∧ inbox.waiting after = []
  read : ∀ {state : σ × ω} {room : Nat}, ∀ cause ∈ cause?, inbox.Ready state →
    inbox.waiting state = [] → room ≠ 0 → ∃ after,
      (Transport.readRaw room : Action (σ × ω) TransportError Bytes).Returns state (.error cause)
          after ∧
        inbox.Ready after ∧ inbox.waiting after = []

end TypedChannel
