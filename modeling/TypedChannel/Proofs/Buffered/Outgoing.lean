import TypedChannel.Proofs.Buffered.Writes
import TypedChannel.Proofs.Transport.Outgoing
/-!
# TypedChannel.Proofs.Buffered.Outgoing

Buffers around a transport that comes back from its calls.

1. A drain comes to its end: each of its rounds leaves fewer bytes, or as many
   and fewer interruptions (`drain_completes`).
2. So a write does.  One that is interrupted leaves nothing pending, and if
   nothing was, it has used up an interruption (`writeRaw_completes`).  A
   transmit makes such writes again, and that comes to an end as well.
3. So do flushes and the end of the wrapper.
-/

namespace TypedChannel

namespace Buffered

open TypedChannel.Action

variable {ω σ : Type} [Transport ω σ]

/-! ## Within the buffers -/

section Outlet

variable {outlet : Outlet ω σ} {state : Buffered σ × ω}

/-- One write within leaves the buffers alone. -/
theorem within_writeRaw_completes (bytes : Bytes)
    (hready : outlet.Ready (state.1.inner, state.2)) :
    (within (Transport.writeRaw bytes) :
      Action (Buffered σ × ω) TransportError Nat).Completes state fun result after =>
        outlet.Ready (after.1.inner, after.2) ∧ after.1.pending = state.1.pending ∧
          ∀ e, result = .error e → e.isInterrupted = true →
            outlet.interruptions (after.1.inner, after.2) <
              outlet.interruptions (state.1.inner, state.2) := by
  obtain ⟨result, inner, hwrite⟩ := outlet.write bytes hready
  exact Completes.on ⟨result, inner, hwrite.1, hwrite.2.1, rfl, hwrite.2.2⟩

/-- A drain fails for good or leaves nothing pending, and where nothing is it does nothing. -/
theorem drain_completes (hready : outlet.Ready (state.1.inner, state.2)) :
    (drain : Action (Buffered σ × ω) TransportError Unit).Completes state fun result after =>
      outlet.Ready (after.1.inner, after.2) ∧ (state.1.pending = [] → after = state) ∧
        match result with
        | .ok () => after.1.pending = []
        | .error e => e.isInterrupted = false := by
  refine completes_iterate
    (fun _ between => outlet.Ready (between.1.inner, between.2) ∧
      (state.1.pending = [] → between = state))
    (fun _ between =>
      (between.1.pending.length, outlet.interruptions (between.1.inner, between.2)))
    ?_ ⟨hready, fun _ => rfl⟩
  rintro - between ⟨hbetween, hstill⟩
  unfold drainRound
  refine completes_see_bind ?_
  by_cases hdone : between.1.pending = []
  · rw [if_pos (by simpa using hdone)]
    exact completes_pure ⟨hbetween, hstill, hdone⟩
  · have hsome : state.1.pending ≠ [] := fun h => hdone (by rw [hstill h, h])
    rw [if_neg (by simpa using hdone)]
    refine (within_writeRaw_completes _ hbetween).attempt_bind ?_
    rintro result after ⟨hafter, hpending, hfewer⟩
    cases result with
    | error e =>
        dsimp only
        cases he : e.isInterrupted with
        | false => exact completes_fail ⟨hafter, fun h => absurd h hsome, he⟩
        | true =>
            refine completes_pure ⟨⟨hafter, fun h => absurd h hsome⟩, ?_⟩
            rw [hpending]
            exact .right _ (hfewer e rfl he)
    | ok n =>
        dsimp only
        by_cases hn : n = 0
        · rw [if_pos hn]
          exact completes_fail ⟨hafter, fun h => absurd h hsome, rfl⟩
        · rw [if_neg hn]
          refine completes_change_bind (completes_pure ⟨⟨hafter, fun h => absurd h hsome⟩, ?_⟩)
          have hlength := List.length_pos_iff.mpr hdone
          have hshorter : (after.1.pending.drop n).length < between.1.pending.length := by
            rw [List.length_drop, hpending]
            omega
          exact .left _ _ hshorter

/-- What a write does once nothing is in its way. -/
theorem place_completes (bytes : Bytes) (capacity : Nat)
    (hready : outlet.Ready (state.1.inner, state.2)) :
    (if capacity ≤ bytes.length then
        (within (Transport.writeRaw bytes) : Action (Buffered σ × ω) TransportError Nat)
      else do
        changeBuffers fun b => { b with pending := b.pending ++ bytes, drainsOnClose := true }
        return bytes.length).Completes state
      fun result after => outlet.Ready (after.1.inner, after.2) ∧
        ∀ e, result = .error e → e.isInterrupted = true →
          capacity ≤ bytes.length ∧ after.1.pending = state.1.pending ∧
            outlet.interruptions (after.1.inner, after.2) <
              outlet.interruptions (state.1.inner, state.2) := by
  by_cases hlarge : capacity ≤ bytes.length
  · rw [if_pos hlarge]
    refine (within_writeRaw_completes bytes hready).mono ?_
    rintro result after ⟨hafter, hpending, hfewer⟩
    exact ⟨hafter, fun e h he => ⟨hlarge, hpending, hfewer e h he⟩⟩
  · rw [if_neg hlarge]
    refine completes_change_bind (completes_pure ⟨hready, fun e h => ?_⟩)
    contradiction

variable (outlet) in
theorem writeRaw_completes (bytes : Bytes) (hready : outlet.Ready (state.1.inner, state.2)) :
    (writeRaw bytes : Action (Buffered σ × ω) TransportError Nat).Completes state
      fun result after => outlet.Ready (after.1.inner, after.2) ∧
        ∀ e, result = .error e → e.isInterrupted = true → after.1.pending = [] ∧
          (state.1.pending = [] → outlet.interruptions (after.1.inner, after.2) <
            outlet.interruptions (state.1.inner, state.2)) := by
  unfold writeRaw
  refine completes_see_bind ?_
  by_cases hfull : state.1.capacity < state.1.pending.length + bytes.length
  · rw [if_pos hfull]
    refine (drain_completes hready).bind ?_ ?_
    · rintro ⟨⟩ between ⟨hbetween, hstill, hdrained⟩
      refine (place_completes bytes _ hbetween).mono ?_
      rintro result after ⟨hafter, hinterrupted⟩
      refine ⟨hafter, fun e h he => ?_⟩
      obtain ⟨-, hpending, hfewer⟩ := hinterrupted e h he
      refine ⟨hpending.trans hdrained, fun hnone => ?_⟩
      rwa [hstill hnone] at hfewer
    · rintro e after ⟨hafter, -, hfinal⟩
      refine ⟨hafter, fun e' h he => ?_⟩
      cases h
      rw [hfinal] at he
      contradiction
  · rw [if_neg hfull]
    refine (place_completes bytes _ hready).mono ?_
    rintro result after ⟨hafter, hinterrupted⟩
    refine ⟨hafter, fun e h he => ?_⟩
    obtain ⟨hlarge, hpending, hfewer⟩ := hinterrupted e h he
    have hnone : state.1.pending = [] := List.length_eq_zero_iff.mp (by omega)
    exact ⟨hpending.trans hnone, fun _ => hfewer⟩

end Outlet

/-! ## Flushes and the end -/

section FullOutlet

variable [World ω] {outlet : FullOutlet ω σ} {state : Buffered σ × ω}

variable (outlet) in
theorem flushRaw_completes (hready : outlet.Ready (state.1.inner, state.2)) :
    (flushRaw : Action (Buffered σ × ω) TransportError Unit).Completes state
      fun _ after => outlet.Ready (after.1.inner, after.2) := by
  refine (drain_completes hready).bind ?_ fun _ _ hend => hend.1
  rintro - between ⟨hbetween, -⟩
  exact Completes.on (outlet.flush hbetween)

theorem settle_completes (hready : outlet.Ready (state.1.inner, state.2)) :
    (settle : Action (Buffered σ × ω) Empty Unit).Completes state
      fun _ after => outlet.Ready (after.1.inner, after.2) := by
  unfold settle
  refine completes_see_bind ?_
  split
  · exact completes_pure hready
  · refine (drain_completes hready).attempt_bind ?_
    rintro result between ⟨hbetween, -⟩
    cases result with
    | ok _ => exact completes_pure hbetween
    | error e => exact completes_see_bind (Transport.completes_note (outlet.note _ hbetween))

variable (outlet) in
theorem close_completes (hready : outlet.Ready (state.1.inner, state.2)) :
    (close : Action (Buffered σ × ω) Empty Unit).Completes state fun _ _ => True := by
  refine (settle_completes hready).bind ?_ fun e => e.elim
  rintro - between hbetween
  exact Completes.on (outlet.close hbetween)

end FullOutlet

end Buffered

end TypedChannel
