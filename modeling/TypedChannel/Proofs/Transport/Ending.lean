import TypedChannel.Proofs.Transport.Supply
/-!
# TypedChannel.Proofs.Transport.Ending

Streams that end behind their last byte, read for as long as it takes.

A receive takes what it asks for, however the reads cut that, or runs into the
end and fails with what the transport says there.
-/

namespace TypedChannel

open TypedChannel.Action

/-- A source and what lies behind its last byte. -/
structure FiniteSource (ω σ : Type) [World ω] [Transport ω σ] where
  source : Source ω σ
  terminus : Terminus ω σ
  ends : ∀ {state : σ × ω}, source.Ready state → source.incoming state = [] → terminus.Holds state

namespace FiniteSource

variable {ω σ : Type} [World ω] [Transport ω σ] {wanted : Nat}

/-- The rounds of a receive that asks for more than is still to come.  Each one but the last
leaves fewer bytes, or the same bytes and fewer interruptions. -/
theorem receive_loops (stream : FiniteSource ω σ) (got text : Bytes) (state : σ × ω)
    (hready : stream.source.Ready state) (hincoming : stream.source.incoming state = text)
    (hshort : got.length + text.length < wanted) : ∃ e after,
      Loops (Transport.receiveRound wanted none true ⟨none⟩) got state (.error e) after ∧
        stream.terminus.Tells e ∧ stream.terminus.Holds after := by
  have hmissing : got.length < wanted := by omega
  by_cases hnone : text = []
  · exact stream.terminus.receive_loops none ⟨none⟩ (.inl rfl) hmissing state
      (stream.ends hready (hincoming.trans hnone))
  · obtain ⟨polled, hpoll, hpolled, hsame, hfewer⟩ := stream.source.poll hready
    obtain ⟨result, between, hread, hbetween, hend⟩ := stream.source.read (wanted - got.length)
      hpolled (by omega) (by rwa [hsame, hincoming])
    rw [hsame, hincoming] at hend
    have hforever : (Transport.pollReadable ((⟨none⟩ : Deadline).remainingNow state.2).1 :
        Action (σ × ω) TransportError Bool).Returns
          (state.1, ((⟨none⟩ : Deadline).remainingNow state.2).2) (.ok true) polled := hpoll
    obtain ⟨chunk, rfl, hchunk, hfits, hsplit⟩ | ⟨e, rfl, he, hkept, hless⟩ := hend
    · have hsome := List.length_pos_iff.mpr hchunk
      have hlength := congrArg List.length hsplit
      rw [List.length_append] at hlength
      have hshorter : (stream.source.incoming between).length < text.length := by omega
      have hrest : (got ++ chunk).length + (stream.source.incoming between).length < wanted := by
        rw [List.length_append]
        omega
      obtain ⟨e, after, hloops, hafter⟩ := stream.receive_loops (got ++ chunk)
        (stream.source.incoming between) between hbetween rfl hrest
      exact ⟨e, after, .again (Transport.receiveRound_again none true hmissing hforever hread
        (.inl ⟨rfl, .inl rfl⟩)) hloops, hafter⟩
    · have hlater : stream.source.interruptions between < stream.source.interruptions state := by
        omega
      obtain ⟨e', after, hloops, hafter⟩ :=
        stream.receive_loops got text between hbetween hkept hshort
      have hround := Transport.receiveRound_again none true hmissing hforever hread
        (.inr ⟨e, rfl, he, rfl⟩)
      rw [List.append_nil] at hround
      exact ⟨e', after, .again hround hloops, hafter⟩
  termination_by (text.length, stream.source.interruptions state)

/-- A receive that asks for more than is still to come fails with what lies behind that. -/
theorem receive_cut (stream : FiniteSource ω σ) {state : σ × ω} (hready : stream.source.Ready state)
    (hshort : (stream.source.incoming state).length < wanted) : ∃ e after,
      (Transport.receive wanted none true : Action (σ × ω) TransportError Bytes).Returns state
          (.error e) after ∧
        stream.terminus.Tells e ∧ stream.terminus.Holds after := by
  obtain ⟨e, after, hloops, hend⟩ :=
    stream.receive_loops [] _ state hready rfl (by simpa using hshort)
  exact ⟨e, after, (returns_step _).bind hloops.returns, hend⟩

end FiniteSource

end TypedChannel
