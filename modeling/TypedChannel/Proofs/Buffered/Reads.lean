import TypedChannel.Proofs.Transport.Recorded
import TypedChannel.Transport.Buffered
/-!
# TypedChannel.Proofs.Buffered.Reads

How one read of a buffered transport goes.

`Reading room b result after` are the ways in which it can: it is served from
what is unread, without a call within; or, when nothing is unread, it makes one
read within and hands out the front of what that gives; or that read fails and
nothing is unread after it either.

A refill lays out zeros before it reads.  `refill_ensures` and `refill_returns`
say that none of them is left once it has ended: the buffer holds what was
read, or nothing.
-/

namespace TypedChannel

namespace Buffered

variable {ω σ : Type}

/-! ## Calls of the transport within -/

/-- The transport within the buffers. -/
def inside (state : Buffered σ × ω) : σ × ω := (state.1.inner, state.2)

theorem returns_within {ε α : Type} {x : Action (σ × ω) ε α} {state : Buffered σ × ω}
    {result : Except ε α} {after : σ × ω} (hx : x.Returns (inside state) result after) :
    (within x).Returns state result ({ state.1 with inner := after.1 }, after.2) :=
  hx.on

/-- A call of the transport within leaves the buffers alone. -/
theorem within_recording {ε α : Type} {call : Except ε α → TransportCall}
    {x : Action (σ × ω) ε α} (state : Buffered (Recorded σ) × ω) :
    (within (Recorded.recording call x)).Ensures state fun result after =>
      ∃ inner, after.1 = { state.1 with inner } ∧
        inner.calls = state.1.inner.calls ++ [call result] := by
  refine Action.Ensures.on ((Recorded.recording_calls call x).mono ?_)
  intro result after hafter
  exact ⟨after.1, rfl, hafter⟩

/-! ## Refills -/

/-- The front of an overwritten slot is what was written there. -/
theorem take_overwrite (front slot : Bytes) : (overwrite front slot).take front.length = front :=
  List.take_left

variable [Transport ω σ]

/-- A refill reads as much as the buffer holds, and leaves there what it got. -/
theorem refill_ensures (state : Buffered (Recorded σ) × ω) :
    (refill : Action (Buffered (Recorded σ) × ω) TransportError Unit).Ensures state
      fun result after => ∃ inner got,
        inner.calls = state.1.inner.calls ++ [.read state.1.capacity got] ∧
        match got with
        | .ok chunk => result = .ok () ∧ after.1 = { state.1 with inner, unread := chunk }
        | .error e => result = .error e ∧ after.1 = { state.1 with inner, unread := [] } := by
  unfold refill
  refine Action.ensures_see_bind (Action.ensures_change_bind ?_)
  refine (within_recording _).attempt_bind ?_
  intro got between hmid
  obtain ⟨inner, hbetween, hcalls⟩ := hmid
  cases got with
  | ok chunk =>
      refine Action.ensures_change ⟨inner, .ok chunk, hcalls, rfl, ?_⟩
      simp only [hbetween, take_overwrite]
  | error e =>
      refine Action.ensures_change_bind (Action.ensures_fail ⟨inner, .error e, hcalls, rfl, ?_⟩)
      simp only [hbetween]

theorem refill_returns {chunk : Bytes} {state : Buffered σ × ω} {after : σ × ω}
    (hread : (Transport.readRaw state.1.capacity : Action (σ × ω) TransportError Bytes).Returns
      (inside state) (.ok chunk) after) :
    (refill : Action (Buffered σ × ω) TransportError Unit).Returns state (.ok ())
      ({ state.1 with inner := after.1, unread := chunk }, after.2) := by
  have hlaid : (within (Transport.readRaw state.1.capacity) :
      Action (Buffered σ × ω) TransportError Bytes).Returns
        ({ state.1 with unread := List.replicate state.1.capacity 0 }, state.2) (.ok chunk)
        ({ state.1 with inner := after.1, unread := List.replicate state.1.capacity 0 },
          after.2) := returns_within hread
  refine (Action.returns_see _).bind ((Action.returns_change _).bind (hlaid.attempt.bind ?_))
  have hfilled : (({ state.1 with inner := after.1, unread := chunk }, after.2) : Buffered σ × ω) =
      ({ state.1 with inner := after.1,
                      unread := (overwrite chunk (List.replicate state.1.capacity 0)).take
                        chunk.length }, after.2) := by
    rw [take_overwrite]
  rw [hfilled]
  exact Action.returns_change _

/-- A refill whose read fails leaves nothing unread. -/
theorem refill_fails {cause : TransportError} {state : Buffered σ × ω} {after : σ × ω}
    (hread : (Transport.readRaw state.1.capacity : Action (σ × ω) TransportError Bytes).Returns
      (inside state) (.error cause) after) :
    (refill : Action (Buffered σ × ω) TransportError Unit).Returns state (.error cause)
      ({ state.1 with inner := after.1, unread := [] }, after.2) := by
  have hlaid : (within (Transport.readRaw state.1.capacity) :
      Action (Buffered σ × ω) TransportError Bytes).Returns
        ({ state.1 with unread := List.replicate state.1.capacity 0 }, state.2) (.error cause)
        ({ state.1 with inner := after.1, unread := List.replicate state.1.capacity 0 },
          after.2) := returns_within hread
  exact (Action.returns_see _).bind ((Action.returns_change _).bind (hlaid.attempt.bind
    ((Action.returns_change _).bind (Action.returns_fail _))))

/-! ## Reads -/

omit [Transport ω σ] in
theorem serve_ensures {ε : Type} (room : Nat) (state : Buffered σ × ω) :
    (serve room : Action (Buffered σ × ω) ε Bytes).Ensures state fun result after =>
      result = .ok (state.1.unread.take room) ∧
        after = ({ state.1 with unread := state.1.unread.drop room }, state.2) :=
  Action.ensures_step ⟨rfl, rfl⟩

/-- A read of at most `room` bytes that finds the buffers `b` ends with a result and with buffers
as these. -/
inductive Reading (room : Nat) (b : Buffered (Recorded σ)) :
    Except TransportError Bytes → Buffered (Recorded σ) → Prop
  /-- From the buffer, while anything is unread there or nothing was asked for. -/
  | served (there : b.unread ≠ [] ∨ room = 0) :
      Reading room b (.ok (b.unread.take room)) { b with unread := b.unread.drop room }
  /-- From within.  What is kept for later was read by a refill. -/
  | filled {asked : Nat} {handed rest : Bytes} {inner : Recorded σ} (empty : b.unread = [])
      (calls : inner.calls = b.inner.calls ++ [.read asked (.ok (handed ++ rest))])
      (kept : rest = [] ∨ asked = b.capacity) :
      Reading room b (.ok handed) { b with inner, unread := rest }
  | failed {asked : Nat} {e : TransportError} {inner : Recorded σ} (empty : b.unread = [])
      (calls : inner.calls = b.inner.calls ++ [.read asked (.error e)]) :
      Reading room b (.error e) { b with inner, unread := [] }

/-- A read goes one of these ways, whatever the transport within answers. -/
theorem readRaw_reading (room : Nat) (state : Buffered (Recorded σ) × ω) :
    (readRaw room : Action (Buffered (Recorded σ) × ω) TransportError Bytes).Ensures state
      fun result after => Reading room state.1 result after.1 := by
  unfold readRaw
  refine Action.ensures_see_bind ?_
  by_cases hroom : room = 0
  · subst hroom
    exact Action.ensures_pure (.served (.inr rfl))
  · rw [if_neg hroom]
    by_cases hunread : state.1.unread = []
    · rw [if_neg (by simp [hunread])]
      by_cases hlarge : state.1.capacity ≤ room
      · rw [if_pos hlarge]
        refine (within_recording state).mono ?_
        intro result after hend
        obtain ⟨inner, hafter, hcalls⟩ := hend
        have hsame : after.1 = { state.1 with inner, unread := [] } := by rw [hafter, ← hunread]
        rw [hsame]
        cases result with
        | ok chunk => exact .filled hunread (by simpa using hcalls) (.inl rfl)
        | error e => exact .failed hunread hcalls
      · rw [if_neg hlarge]
        refine (refill_ensures state).bind ?_ ?_
        · intro _ between hmid
          obtain ⟨inner, got, hcalls, hgot⟩ := hmid
          cases got with
          | error e => cases hgot.1
          | ok chunk =>
              refine (serve_ensures room between).mono ?_
              intro result after hend
              rw [hend.1, hend.2, hgot.2]
              exact .filled hunread (by simpa using hcalls) (.inr rfl)
        · intro e after hend
          obtain ⟨inner, got, hcalls, hgot⟩ := hend
          cases got with
          | ok chunk => cases hgot.1
          | error cause =>
              cases hgot.1
              rw [hgot.2]
              exact .failed hunread hcalls
    · rw [if_pos (by simpa using hunread)]
      refine (serve_ensures room state).mono ?_
      intro result after hend
      rw [hend.1, hend.2]
      exact .served (.inl hunread)

end Buffered

end TypedChannel
