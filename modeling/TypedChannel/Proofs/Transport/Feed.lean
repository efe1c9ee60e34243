import TypedChannel.Proofs.Transport.Datagram
/-!
# TypedChannel.Proofs.Transport.Feed

What a reader sees whose reads all have the same size.

1. A `Feed` gives every read with so much room the next piece, and a receive
   that is content with the first bytes too (`Feed.receive_returns`).
2. `Feed.Ends` says what requests come to behind the last piece.
3. To such a reader the pieces of an inbox are the fronts of its datagrams
   (`Inbox.feed`).
-/

namespace TypedChannel

open TypedChannel.Action

/-! ## Feeds -/

/-- How a receive fails that gets nothing: for a cause, or because its time has passed. -/
def shortfall (wanted : Nat) (timeout : Option Duration) (cause? : Option TransportError) :
    TransportError :=
  cause?.getD (.timeout (timeout.getD .zero) wanted 0)

/-- Where every read with so much room takes the next piece. -/
structure Feed (ω σ : Type) [World ω] [Transport ω σ] (room : Nat) where
  Holds : σ × ω → List Bytes → Prop
  datagram : ∀ {state : σ × ω} {pieces : List Bytes}, Holds state pieces →
    Transport.kind ω state.1 = .datagram
  ne_nil : ∀ {state : σ × ω} {piece : Bytes} {pieces : List Bytes}, Holds state (piece :: pieces) →
    piece ≠ []
  poll : ∀ {state : σ × ω} {piece : Bytes} {pieces : List Bytes} (timeout : Option Duration),
    Holds state (piece :: pieces) → ∃ after,
      (Transport.pollReadable timeout : Action (σ × ω) TransportError Bool).Returns state
          (.ok true) after ∧
        Holds after (piece :: pieces)
  read : ∀ {state : σ × ω} {piece : Bytes} {pieces : List Bytes}, Holds state (piece :: pieces) →
    ∃ after,
      (Transport.readRaw room : Action (σ × ω) TransportError Bytes).Returns state (.ok piece)
          after ∧
        Holds after pieces
  look : ∀ {transport : σ} {world : ω} {pieces : List Bytes}, Holds (transport, world) pieces →
    Holds (transport, (World.look world).2) pieces
  note : ∀ {transport : σ} {world : ω} {pieces : List Bytes} (event : Log.Event),
    Holds (transport, world) pieces → Holds (transport, World.note event world) pieces

namespace Feed

variable {ω σ : Type} [World ω] [Transport ω σ] {room : Nat} (feed : Feed ω σ room)

/-- What requests with this timeout come to behind the last piece: their reads fail for the cause,
or without one their time passes. -/
structure Ends (timeout : Option Duration) (cause? : Option TransportError) : Prop where
  final : ∀ cause ∈ cause?, cause.isInterrupted = false
  poll : ∀ {state : σ × ω}, feed.Holds state [] → ∃ after,
    (Transport.pollReadable (Deadline.firstWait timeout state.2).1 :
      Action (σ × ω) TransportError Bool).Returns
        (state.1, (Deadline.firstWait timeout state.2).2) (.ok cause?.isSome) after ∧
      feed.Holds after []
  read : ∀ {state : σ × ω}, ∀ cause ∈ cause?, feed.Holds state [] → ∃ after,
    (Transport.readRaw room : Action (σ × ω) TransportError Bytes).Returns state (.error cause)
        after ∧
      feed.Holds after []

variable {feed}

/-- Starting a receive is only a matter of the clock. -/
theorem waits {state : σ × ω} {pieces : List Bytes} (timeout : Option Duration)
    (hholds : feed.Holds state pieces) :
    feed.Holds (state.1, (Deadline.firstWait timeout state.2).2) pieces :=
  Deadline.firstWait_keeps (P := fun world => feed.Holds (state.1, world) pieces) timeout hholds
    feed.look

/-- A receive that is content with the first bytes gives the next piece. -/
theorem receive_returns (hroom : room ≠ 0) {state : σ × ω} {piece : Bytes} {pieces : List Bytes}
    (timeout : Option Duration) (hholds : feed.Holds state (piece :: pieces)) : ∃ after,
      (Transport.receive room timeout false : Action (σ × ω) TransportError Bytes).Returns state
          (.ok piece) after ∧
        feed.Holds after pieces := by
  obtain ⟨polled, hpoll, hpolled⟩ := feed.poll _ (feed.waits timeout hholds)
  obtain ⟨after, hread, hafter⟩ := feed.read hpolled
  exact ⟨after, (returns_step _).bind
    (Transport.receive_first hroom (feed.ne_nil hholds) hpoll hread), hafter⟩

theorem Ends.receive_returns {timeout : Option Duration} {cause? : Option TransportError}
    (h : feed.Ends timeout cause?) (hroom : room ≠ 0) {state : σ × ω}
    (hholds : feed.Holds state []) : ∃ after,
      (Transport.receive room timeout false : Action (σ × ω) TransportError Bytes).Returns state
          (.error (shortfall room timeout cause?)) after ∧
        feed.Holds after [] := by
  have hmissing : ([] : Bytes).length < room := Nat.pos_of_ne_zero hroom
  obtain ⟨polled, hpoll, hpolled⟩ := h.poll hholds
  cases cause? with
  | some cause =>
      obtain ⟨after, hread, hafter⟩ := h.read cause rfl hpolled
      exact ⟨after, (returns_step _).bind (Loops.returns (.failed (Transport.receiveRound_fails
        timeout false hmissing hpoll hread (h.final cause rfl)))), hafter⟩
  | none =>
      exact ⟨polled, (returns_step _).bind (Loops.returns (.failed
        (Transport.receiveRound_times_out timeout false hmissing hpoll))), hpolled⟩

end Feed

/-! ## Inboxes -/

section Inboxes

variable {ω σ : Type} [World ω] [Transport ω σ]

/-- What of the datagrams before `rest` a reader with so much room sees. -/
def Inbox.feed (inbox : Inbox ω σ) (rest : List Bytes) {room : Nat} (hroom : room ≠ 0) :
    Feed ω σ room where
  Holds state pieces := inbox.Ready state ∧ ∃ front, inbox.waiting state = front ++ rest ∧
    (∀ datagram ∈ front, datagram ≠ []) ∧ pieces = front.map (·.take room)
  datagram h := inbox.datagram h.1
  ne_nil := by
    rintro state piece pieces ⟨hready, front, hwaiting, hnonempty, hpieces⟩
    obtain ⟨first, others, rfl, rfl, -⟩ := List.map_eq_cons_iff.mp hpieces.symm
    simp [hroom, hnonempty first List.mem_cons_self]
  poll := by
    rintro state piece pieces timeout ⟨hready, front, hwaiting, hnonempty, hpieces⟩
    obtain ⟨first, others, rfl, -⟩ := List.map_eq_cons_iff.mp hpieces.symm
    obtain ⟨after, hpoll, hafter, hsame, -⟩ := inbox.poll timeout hready (by simp [hwaiting])
    exact ⟨after, hpoll, hafter, _, hsame.trans hwaiting, hnonempty, hpieces⟩
  read := by
    rintro state piece pieces ⟨hready, front, hwaiting, hnonempty, hpieces⟩
    obtain ⟨first, others, rfl, rfl, rfl⟩ := List.map_eq_cons_iff.mp hpieces.symm
    obtain ⟨after, hread, hafter, hothers, -⟩ := inbox.read hready hroom hwaiting
    exact ⟨after, hread, hafter, others, hothers,
      fun datagram hdatagram => hnonempty datagram (List.mem_cons_of_mem _ hdatagram), rfl⟩
  look := by
    rintro transport world pieces ⟨hready, front, hwaiting, hfront⟩
    obtain ⟨hafter, hsame, -⟩ := inbox.look hready
    exact ⟨hafter, front, hsame.trans hwaiting, hfront⟩
  note := by
    rintro transport world pieces event ⟨hready, front, hwaiting, hfront⟩
    obtain ⟨hafter, hsame, -⟩ := inbox.note event hready
    exact ⟨hafter, front, hsame.trans hwaiting, hfront⟩

theorem Inbox.Ended.feed {inbox : Inbox ω σ} {timeout : Option Duration}
    {cause? : Option TransportError} (h : inbox.Ended timeout cause?) {room : Nat}
    (hroom : room ≠ 0) : (inbox.feed [] hroom).Ends timeout cause? where
  final := h.final
  poll := by
    rintro state ⟨hready, front, hwaiting, -, hpieces⟩
    obtain rfl := List.map_eq_nil_iff.mp hpieces.symm
    obtain ⟨after, hpoll, hafter, hnone⟩ := h.poll hready hwaiting
    exact ⟨after, hpoll, hafter, [], hnone, by simp, rfl⟩
  read := by
    rintro state cause hcause ⟨hready, front, hwaiting, -, hpieces⟩
    obtain rfl := List.map_eq_nil_iff.mp hpieces.symm
    obtain ⟨after, hread, hafter, hnone⟩ := h.read cause hcause hready hwaiting hroom
    exact ⟨after, hread, hafter, [], hnone, by simp, rfl⟩

end Inboxes

end TypedChannel
