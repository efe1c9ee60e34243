import TypedChannel.Proofs.Buffered.Reads
import TypedChannel.Proofs.Transport.Transmit
/-!
# TypedChannel.Proofs.Buffered.Paths

The paths that bytes take through a buffered transport on their way out.

Bytes are held back, or they pass the buffer while nothing is pending, and what
was held back is offered until all of it was accepted or a write fails.
`Account w` says that `w` tells what was taken on between two states along each
of these paths; then it tells so for whole writes, flushes and drains.
-/

namespace TypedChannel

namespace Buffered

variable {ω σ : Type} [Transport ω σ]

/-- `w` tells which bytes the wrapper has taken on between two states. -/
structure Account (ω : Type) [Transport ω σ] (w : Bytes → Buffered σ → Buffered σ → Prop) :
    Prop where
  nothing : ∀ b, w [] b b
  append : ∀ {bytes more : Bytes} {b between after : Buffered σ}, w bytes b between →
    w more between after → w (bytes ++ more) b after
  /-- The pending bytes are offered, and those that are not accepted are left. -/
  offered : ∀ state : Buffered σ × ω, (Transport.writeRaw state.1.pending :
    Action (σ × ω) TransportError Nat).Ensures (inside state) fun result after => ∀ left,
      (TransportCall.write state.1.pending result).accepted ++ left = state.1.pending →
      w [] state.1 { state.1 with inner := after.1, pending := left }
  /-- Bytes go past the buffer while nothing is pending. -/
  passed : ∀ bytes (state : Buffered σ × ω), state.1.pending = [] →
    (Transport.writeRaw bytes : Action (σ × ω) TransportError Nat).Ensures (inside state)
      fun result after => w (TransportCall.write bytes result).accepted state.1
        { state.1 with inner := after.1 }
  held : ∀ b bytes, w bytes b { b with pending := b.pending ++ bytes, drainsOnClose := true }
  flush : ∀ state : Buffered σ × ω, (Transport.flushRaw :
    Action (σ × ω) TransportError Unit).Ensures (inside state) fun _ after =>
      w [] state.1 { state.1 with inner := after.1 }

variable {w : Bytes → Buffered σ → Buffered σ → Prop} (hw : Account ω w)

include hw

/-- A drain takes nothing on, and if it does not fail it leaves nothing pending. -/
theorem Account.drain (state : Buffered σ × ω) :
    (Buffered.drain : Action (Buffered σ × ω) TransportError Unit).Ensures state
      fun result after => w [] state.1 after.1 ∧
        (failure? result = none → after.1.pending = []) := by
  refine Action.ensures_iterate (fun _ between => w [] state.1 between.1) (hw.nothing _) ?_
  intro _ between hmid
  unfold drainRound
  refine Action.ensures_see_bind ?_
  by_cases hdone : between.1.pending = []
  · rw [if_pos (by simp [hdone])]
    exact Action.ensures_pure ⟨hmid, fun _ => hdone⟩
  · rw [if_neg (by simpa using hdone)]
    have hoffer : (within (Transport.writeRaw between.1.pending) :
        Action (Buffered σ × ω) TransportError Nat).Ensures between fun result after =>
          after.1.pending = between.1.pending ∧ ∀ left,
            (TransportCall.write between.1.pending result).accepted ++ left = between.1.pending →
            w [] state.1 { after.1 with pending := left } :=
      Action.Ensures.on <| (hw.offered between).mono fun _ _ hleft =>
        ⟨rfl, fun left h => hw.append hmid (hleft left h)⟩
    refine hoffer.attempt_bind ?_
    rintro result after ⟨hsame, hleft⟩
    rw [← hsame] at hleft
    cases result with
    | error e =>
        have hnothing : w [] state.1 after.1 := hleft _ (List.nil_append _)
        simp only
        cases e.isInterrupted with
        | true => exact Action.ensures_pure hnothing
        | false => exact Action.ensures_fail ⟨hnothing, nofun⟩
    | ok n =>
        simp only
        by_cases hn : n = 0
        · subst hn
          have hnothing : w [] state.1 after.1 := hleft _ (List.nil_append _)
          exact Action.ensures_fail ⟨hnothing, nofun⟩
        · rw [if_neg hn]
          have hnext := hleft _ (List.take_append_drop n _)
          exact Action.ensures_change_bind (Action.ensures_pure hnext)

/-- What a write does once there is room for its bytes or nothing is pending. -/
theorem Account.place (capacity : Nat) (bytes : Bytes) (state : Buffered σ × ω)
    (hroom : capacity ≤ bytes.length → state.1.pending = []) :
    (if capacity ≤ bytes.length then
        (within (Transport.writeRaw bytes) : Action (Buffered σ × ω) TransportError Nat)
      else do
        changeBuffers fun b => { b with pending := b.pending ++ bytes, drainsOnClose := true }
        return bytes.length).Ensures state
      fun result after => w (TransportCall.write bytes result).accepted state.1 after.1 := by
  by_cases hlarge : capacity ≤ bytes.length
  · rw [if_pos hlarge]
    exact Action.Ensures.on (hw.passed bytes state (hroom hlarge))
  · rw [if_neg hlarge]
    have hall : (TransportCall.write bytes (.ok bytes.length)).accepted = bytes :=
      List.take_length
    refine Action.ensures_change_bind (Action.ensures_pure ?_)
    rw [hall]
    exact hw.held state.1 bytes

/-- A write takes on what it reports as accepted, whichever of its paths it takes. -/
theorem Account.writeRaw (bytes : Bytes) (state : Buffered σ × ω) :
    (Buffered.writeRaw bytes : Action (Buffered σ × ω) TransportError Nat).Ensures state
      fun result after => w (TransportCall.write bytes result).accepted state.1 after.1 := by
  unfold Buffered.writeRaw
  refine Action.ensures_see_bind ?_
  by_cases hfull : state.1.capacity < state.1.pending.length + bytes.length
  · rw [if_pos hfull]
    refine (hw.drain state).bind ?_ fun _ _ hend => hend.1
    rintro _ between ⟨hdrained, hnone⟩
    exact (hw.place _ bytes between fun _ => hnone rfl).mono fun _ _ hplaced =>
      hw.append hdrained hplaced
  · rw [if_neg hfull]
    refine hw.place _ bytes state fun hlarge => ?_
    exact List.length_eq_zero_iff.mp (by omega)

/-- A flush takes nothing on, and if it succeeds it leaves nothing pending. -/
theorem Account.flushRaw (state : Buffered σ × ω) :
    (Buffered.flushRaw : Action (Buffered σ × ω) TransportError Unit).Ensures state
      fun result after => w [] state.1 after.1 ∧
        (failure? result = none → after.1.pending = []) := by
  refine (hw.drain state).bind ?_ fun _ _ hend => ⟨hend.1, nofun⟩
  rintro _ between ⟨hdrained, hnone⟩
  refine Action.Ensures.on ((hw.flush between).mono fun _ _ hflushed => ?_)
  exact ⟨hw.append hdrained hflushed, fun _ => hnone rfl⟩

/-- The attempt to hand on what is pending before a handle goes takes nothing on. -/
theorem Account.settle [World ω] (state : Buffered σ × ω) :
    (Buffered.settle : Action (Buffered σ × ω) Empty Unit).Ensures state
      fun _ after => w [] state.1 after.1 := by
  refine Action.ensures_see_bind ?_
  split
  · exact Action.ensures_pure (hw.nothing _)
  · refine (hw.drain state).attempt_bind ?_
    rintro result between ⟨hdrained, -⟩
    cases result with
    | ok _ => exact Action.ensures_pure hdrained
    | error e => exact Action.ensures_see_bind (Transport.ensures_note hdrained)

end Buffered

end TypedChannel
