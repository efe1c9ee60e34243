import TypedChannel.Proofs.Transport.Supply
/-!
# TypedChannel.Proofs.Transport.Letters

Datagrams that wait to be read, some of them without a byte.

A `Letterbox` gives every read its next datagram, or interrupts it, and says
that it is ready as long as a datagram waits.  A receive that is content with
the first bytes passes over the empty ones and takes the first that is not
empty (`Letterbox.receive_returns`).
-/

namespace TypedChannel

open TypedChannel.Action

/-- Where each read takes one datagram, whichever reads are interrupted. -/
structure Letterbox (ω σ : Type) [World ω] [Transport ω σ] where
  /-- These datagrams are there to be read, the first one first. -/
  Holds : σ × ω → List Bytes → Prop
  /-- How many more times in a row a read can be interrupted. -/
  interruptions : σ × ω → Nat
  datagram : ∀ {state : σ × ω} {queue : List Bytes}, Holds state queue →
    Transport.kind ω state.1 = .datagram
  poll : ∀ {state : σ × ω} {queue : List Bytes} (timeout : Option Duration), Holds state queue →
    queue ≠ [] → ∃ after,
      (Transport.pollReadable timeout : Action (σ × ω) TransportError Bool).Returns state
          (.ok true) after ∧
        Holds after queue ∧ interruptions after ≤ interruptions state
  read : ∀ {state : σ × ω} {first : Bytes} {others : List Bytes} {room : Nat},
    Holds state (first :: others) → room ≠ 0 → ∃ result after,
      (Transport.readRaw room : Action (σ × ω) TransportError Bytes).Returns state result after ∧
        (result = .ok (first.take room) ∧ Holds after others ∨
          ∃ e, result = .error e ∧ e.isInterrupted = true ∧ Holds after (first :: others) ∧
            interruptions after < interruptions state)
  look : ∀ {transport : σ} {world : ω} {queue : List Bytes}, Holds (transport, world) queue →
    Holds (transport, (World.look world).2) queue ∧
      interruptions (transport, (World.look world).2) ≤ interruptions (transport, world)
  note : ∀ {transport : σ} {world : ω} {queue : List Bytes} (event : Log.Event),
    Holds (transport, world) queue → Holds (transport, World.note event world) queue

namespace Letterbox

variable {ω σ : Type} [World ω] [Transport ω σ] {first : Bytes} {others : List Bytes} {room : Nat}

/-- The rounds of a receive.  Each one but the last takes an empty datagram or is interrupted. -/
theorem receive_loops (letters : Letterbox ω σ) (timeout : Option Duration) (deadline : Deadline)
    (hroom : room ≠ 0) (queue : List Bytes) (state : σ × ω)
    (hfirst : queue.dropWhile List.isEmpty = first :: others) (hholds : letters.Holds state queue) :
    ∃ after,
      Loops (Transport.receiveRound room timeout false deadline) [] state (.ok (first.take room))
          after ∧
        letters.Holds after others := by
  have hmissing : ([] : Bytes).length < room := Nat.pos_of_ne_zero hroom
  obtain ⟨next, later, hqueue⟩ : ∃ next later, queue = next :: later :=
    List.exists_cons_of_ne_nil fun hnone => by simp [hnone] at hfirst
  have htime : deadline.InTime true := .inr rfl
  obtain ⟨hlooked, hearlier⟩ := Deadline.remainingNow_keeps
    (P := fun world => letters.Holds (state.1, world) queue ∧
      letters.interruptions (state.1, world) ≤ letters.interruptions state)
    htime ⟨hholds, Nat.le_refl _⟩ fun _ => letters.look hholds
  obtain ⟨polled, hpoll, hpolled, hfewer⟩ :=
    letters.poll (deadline.remainingNow state.2).1 hlooked (by simp [hqueue])
  obtain ⟨result, between, hread, ⟨rfl, htaken⟩ | ⟨e, rfl, he, hsame, hless⟩⟩ :=
    letters.read (hqueue ▸ hpolled) hroom
  · rw [hqueue] at hfirst
    by_cases hnext : next = []
    · subst hnext
      have hshorter : later.length < queue.length := by simp [hqueue]
      obtain ⟨after, hloops, hafter⟩ :=
        letters.receive_loops timeout deadline hroom later between hfirst htaken
      have hround := Transport.receiveRound_again timeout false hmissing hpoll hread
        (.inl ⟨rfl, .inr List.take_nil⟩)
      rw [List.take_nil, List.nil_append] at hround
      exact ⟨after, .again hround hloops, hafter⟩
    · rw [List.dropWhile_cons_of_neg (by simpa using hnext)] at hfirst
      obtain ⟨rfl, rfl⟩ := List.cons.inj hfirst
      have hround := Transport.receiveRound_first timeout hmissing (by simp [hroom, hnext]) hpoll
        hread
      exact ⟨between, .done hround, htaken⟩
  · have hlater : letters.interruptions between < letters.interruptions state := by omega
    obtain ⟨after, hloops, hafter⟩ :=
      letters.receive_loops timeout deadline hroom queue between hfirst (hqueue ▸ hsame)
    have hround := Transport.receiveRound_again timeout false hmissing hpoll hread
      (.inr ⟨e, rfl, he, rfl⟩)
    exact ⟨after, .again hround hloops, hafter⟩
  termination_by (queue.length, letters.interruptions state)

/-- A receive that is content with the first bytes takes the first datagram that has any. -/
theorem receive_returns (letters : Letterbox ω σ) (timeout : Option Duration) (hroom : room ≠ 0)
    {queue : List Bytes} {state : σ × ω} (hfirst : queue.dropWhile List.isEmpty = first :: others)
    (hholds : letters.Holds state queue) : ∃ after,
      (Transport.receive room timeout false : Action (σ × ω) TransportError Bytes).Returns state
          (.ok (first.take room)) after ∧
        letters.Holds after others := by
  have htime : InTime true timeout := .inr rfl
  have hstarted := Deadline.startNow_keeps
    (P := fun world => letters.Holds (state.1, world) queue) htime hholds
    fun _ => (letters.look hholds).1
  obtain ⟨after, hloops, hafter⟩ := letters.receive_loops timeout _ hroom queue _ hfirst hstarted
  exact ⟨after, (returns_step _).bind hloops.returns, hafter⟩

end Letterbox

end TypedChannel
