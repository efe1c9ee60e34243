import TypedChannel.Proofs.Action
import TypedChannel.Transport.Basic
/-!
# TypedChannel.Proofs.Transport.Contract

Transports that cut the bytes as they like, but lose none and do not fail.

1. A `Sink` accepts at least one of the bytes that a write offers it, or is
   interrupted.
2. A `Source` gives a read at least one of the bytes that are still to come and
   no more than there is room for, or is interrupted.
3. Neither is interrupted for ever: `interruptions` bounds how many more times
   in a row it can be.

`Sink.transmit_returns`: into a sink a transmit ends, and moves exactly what it
is asked to.
-/

namespace TypedChannel

open TypedChannel.Action

variable {ω σ : Type}

/-- Where bytes can be written to. -/
structure Sink (ω σ : Type) [World ω] [Transport ω σ] where
  Ready : σ × ω → Prop
  /-- All bytes that were accepted so far. -/
  accepted : σ × ω → Bytes
  interruptions : σ × ω → Nat
  write : ∀ {state : σ × ω} (bytes : Bytes), Ready state → bytes ≠ [] → ∃ result after,
    (Transport.writeRaw bytes : Action (σ × ω) TransportError Nat).Returns state result after ∧
      Ready after ∧
      ((∃ n, result = .ok n ∧ n ≠ 0 ∧ accepted after = accepted state ++ bytes.take n) ∨
        ∃ e, result = .error e ∧ e.isInterrupted = true ∧ accepted after = accepted state ∧
          interruptions after < interruptions state)
  /-- Telling the log of an event is no concern of the transport. -/
  note : ∀ {transport : σ} {world : ω} (event : Log.Event), Ready (transport, world) →
    Ready (transport, World.note event world) ∧
      accepted (transport, World.note event world) = accepted (transport, world)

/-- Where bytes can be read from. -/
structure Source (ω σ : Type) [World ω] [Transport ω σ] where
  Ready : σ × ω → Prop
  /-- All bytes that are still to come. -/
  incoming : σ × ω → Bytes
  interruptions : σ × ω → Nat
  /-- It is a stream or a pipe. -/
  continuous : ∀ {state : σ × ω}, Ready state → Transport.kind ω state.1 ≠ .datagram
  /-- Without a timeout nobody waits for readiness. -/
  poll : ∀ {state : σ × ω}, Ready state → ∃ after,
    (Transport.pollReadable none : Action (σ × ω) TransportError Bool).Returns state (.ok true)
        after ∧
      Ready after ∧ incoming after = incoming state ∧ interruptions after ≤ interruptions state
  read : ∀ {state : σ × ω} (room : Nat), Ready state → room ≠ 0 → incoming state ≠ [] →
    ∃ result after,
      (Transport.readRaw room : Action (σ × ω) TransportError Bytes).Returns state result after ∧
        Ready after ∧
        ((∃ chunk, result = .ok chunk ∧ chunk ≠ [] ∧ chunk.length ≤ room ∧
            incoming state = chunk ++ incoming after) ∨
          ∃ e, result = .error e ∧ e.isInterrupted = true ∧ incoming after = incoming state ∧
            interruptions after < interruptions state)
  note : ∀ {transport : σ} {world : ω} (event : Log.Event), Ready (transport, world) →
    Ready (transport, World.note event world) ∧
      incoming (transport, World.note event world) = incoming (transport, world)

variable [World ω] [Transport ω σ]

/-! ## Transmits -/

/-- How a round that offers `bytes` ends when its write has come back with this result. -/
def Transport.roundEnd (bytes : Bytes) :
    Except TransportError Nat → Except TransportError (Round Bytes Unit)
  | .error e => if e.isInterrupted then .ok (.again bytes) else .error e
  | .ok n => if n = 0 then .error .closed else .ok (.again (bytes.drop n))

omit [World ω] in
/-- A round that has something to offer ends as its write does. -/
theorem Transport.transmitRound_returns {bytes : Bytes} {state after : σ × ω}
    {result : Except TransportError Nat} (hbytes : bytes ≠ [])
    (hwrite : (Transport.writeRaw bytes : Action (σ × ω) TransportError Nat).Returns state result
      after) :
    (Transport.transmitRound bytes : Action (σ × ω) TransportError _).Returns state
      (roundEnd bytes result) after := by
  unfold Transport.transmitRound
  rw [if_neg (by simpa using hbytes)]
  refine hwrite.attempt.bind ?_
  unfold roundEnd
  cases result with
  | error e =>
      cases he : e.isInterrupted with
      | true =>
          simp only [he, if_true]
          exact returns_pure _
      | false =>
          simp only [he, Bool.false_eq_true, if_false]
          exact returns_fail _
  | ok n =>
      by_cases hn : n = 0
      · simp only [if_pos hn]
        exact returns_fail _
      · simp only [if_neg hn]
        exact returns_pure _

namespace Sink

/-- The rounds of a transmit.  Each one leaves fewer bytes, or the same bytes and fewer
interruptions. -/
theorem transmit_loops (sink : Sink ω σ) (bytes : Bytes) (state : σ × ω)
    (hready : sink.Ready state) : ∃ after,
      Loops (Transport.transmitRound (ω := ω)) bytes state (.ok ()) after ∧ sink.Ready after ∧
        sink.accepted after = sink.accepted state ++ bytes := by
  by_cases hdone : bytes = []
  · subst hdone
    exact ⟨state, .done (returns_pure _), hready, by simp⟩
  · obtain ⟨result, between, hwrite, hbetween, hend⟩ := sink.write bytes hready hdone
    obtain ⟨n, hresult, hn, haccepted⟩ | ⟨e, hresult, he, haccepted, hfewer⟩ := hend
    · have hshorter : (bytes.drop n).length < bytes.length := by
        have hlength := List.length_pos_iff.mpr hdone
        rw [List.length_drop]
        omega
      obtain ⟨after, hloops, hafter, hrest⟩ := sink.transmit_loops (bytes.drop n) between hbetween
      have hround := Transport.transmitRound_returns hdone hwrite
      simp only [hresult, Transport.roundEnd, if_neg hn] at hround
      have hall : sink.accepted after = sink.accepted state ++ bytes := by
        rw [hrest, haccepted, List.append_assoc, List.take_append_drop]
      exact ⟨after, .again hround hloops, hafter, hall⟩
    · obtain ⟨after, hloops, hafter, hrest⟩ := sink.transmit_loops bytes between hbetween
      have hround := Transport.transmitRound_returns hdone hwrite
      simp only [hresult, Transport.roundEnd, he, if_true] at hround
      have hall : sink.accepted after = sink.accepted state ++ bytes := by
        rw [hrest, haccepted]
      exact ⟨after, .again hround hloops, hafter, hall⟩
  termination_by (bytes.length, sink.interruptions state)

theorem transmit_returns (sink : Sink ω σ) (bytes : Bytes) {state : σ × ω}
    (hready : sink.Ready state) : ∃ after,
      (Transport.transmit bytes : Action (σ × ω) TransportError Unit).Returns state (.ok ()) after ∧
        sink.Ready after ∧ sink.accepted after = sink.accepted state ++ bytes := by
  obtain ⟨after, hloops, hafter, haccepted⟩ := sink.transmit_loops bytes state hready
  exact ⟨after, hloops.returns, hafter, haccepted⟩

end Sink

end TypedChannel
