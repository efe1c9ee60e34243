import TypedChannel.Proofs.Buffered.Reads
import TypedChannel.Proofs.Transport.Transmit
/-!
# TypedChannel.Proofs.Buffered.Writes

What a buffered transport does with the bytes it has accepted.

The buffers stand around a recorded transport, so that `inner.calls` tells
which bytes went on; `outside` are the calls that the wrapper itself has
answered.  `InOrder capacity outside b` is the invariant:

1. what went on and then what is pending is what was reported as accepted;
2. the pending bytes fit in the buffer;
3. while bytes are pending, closing the handle drains them;
4. a write went on either with all that was pending, or as the caller's own
   write at a moment when nothing was (`Forwarded`).

`drain_ensures` is the specification of a drain, `writeRaw_inOrder` and
`flushRaw_inOrder` are the two steps that move bytes.
-/

namespace TypedChannel

namespace Buffered

/-- Every write in `inside` was made in step with the calls `outside`: it offered all that had been
reported as accepted and had not gone on, or it passed on the caller's own write when nothing was
left to go on. -/
def Forwarded (outside inside : List TransportCall) : Prop :=
  ∀ before offered result rest, inside = before ++ .write offered result :: rest →
    ∃ reported, reported <+: outside ∧
      (accepted reported = accepted before ++ offered ∨
        accepted reported = accepted before ∧ reported ++ [.write offered result] <+: outside)

theorem forwarded_nil (outside : List TransportCall) : Forwarded outside [] := by
  intro before offered result rest h
  simp at h

/-- The calls that the wrapper answers later do not matter. -/
theorem Forwarded.extend {outside inside : List TransportCall} (h : Forwarded outside inside)
    (more : List TransportCall) : Forwarded (outside ++ more) inside := by
  intro before offered result rest hinside
  obtain ⟨reported, hprefix, hcase⟩ := h before offered result rest hinside
  have hmore : outside <+: outside ++ more := List.prefix_append outside more
  refine ⟨reported, hprefix.trans hmore, hcase.imp_right ?_⟩
  intro hown
  obtain ⟨heq, hpassed⟩ := hown
  exact ⟨heq, hpassed.trans hmore⟩

/-- A drain of all that is pending keeps in step. -/
theorem Forwarded.drained {outside inside calls : List TransportCall} {pending left : Bytes}
    {failure : Option TransportError} (h : Forwarded outside inside)
    (hpending : accepted outside = accepted inside ++ pending)
    (hcalls : Transmission pending calls left failure) : Forwarded outside (inside ++ calls) := by
  intro before offered result rest hsplit
  obtain ⟨between, hinside⟩ | ⟨between, hbefore, hmore⟩ := call_of_append hsplit
  · exact h before offered result between hinside
  · have hoffered : accepted outside = accepted before ++ offered := by
      rw [hpending, hbefore, accepted_append, List.append_assoc,
        hcalls.accepted_append_offered hmore]
    exact ⟨outside, List.prefix_rfl, .inl hoffered⟩

/-- A write that is passed on when nothing is pending keeps in step. -/
theorem Forwarded.passed {outside inside : List TransportCall} {bytes : Bytes}
    {result : Except TransportError Nat} (h : Forwarded outside inside)
    (hpending : accepted outside = accepted inside) :
    Forwarded (outside ++ [.write bytes result]) (inside ++ [.write bytes result]) := by
  intro before offered result' rest hsplit
  obtain ⟨between, hinside⟩ | ⟨between, hbefore, hmore⟩ := call_of_append hsplit
  · exact h.extend _ before offered result' between hinside
  · cases between with
    | nil =>
        rw [List.nil_append, List.cons.injEq] at hmore
        rw [List.append_nil] at hbefore
        have hnothing : accepted outside = accepted before := by
          rw [hpending, hbefore]
        have hown : outside ++ [.write offered result'] <+: outside ++ [.write bytes result] :=
          hmore.1 ▸ List.prefix_rfl
        exact ⟨outside, List.prefix_append _ _, .inr ⟨hnothing, hown⟩⟩
    | cons first between => simp at hmore

/-- Calls that offer nothing do not matter. -/
theorem Forwarded.idle {outside inside calls : List TransportCall} (h : Forwarded outside inside)
    (hcalls : ∀ call ∈ calls, call.isWrite = false) : Forwarded outside (inside ++ calls) := by
  intro before offered result rest hsplit
  obtain ⟨between, hinside⟩ | ⟨between, -, hmore⟩ := call_of_append hsplit
  · exact h before offered result between hinside
  · have hwrite := hcalls (.write offered result) (by simp [hmore])
    contradiction

/-! ## The invariant -/

variable {ω σ : Type} {capacity : Nat}

/-- The bytes that the wrapper has reported as accepted in the calls `outside` went on in order,
and those that did not are pending. -/
structure InOrder capacity (outside : List TransportCall) (b : Buffered (Recorded σ)) : Prop where
  reported : accepted outside = accepted b.inner.calls ++ b.pending
  sized : b.capacity = capacity
  fits : b.pending.length ≤ capacity
  armed : b.pending ≠ [] → b.drainsOnClose = true
  forwarded : Forwarded outside b.inner.calls

theorem inOrder_wrap (capacity : Nat) (transport : σ) :
    InOrder (max capacity 1) [] (wrap capacity (⟨transport, []⟩ : Recorded σ)) where
  reported := rfl
  sized := rfl
  fits := Nat.zero_le _
  armed h := absurd rfl h
  forwarded := forwarded_nil []

/-- No byte to be sent was accepted or offered between the two. -/
def Idle (before after : Buffered (Recorded σ)) : Prop :=
  ∃ inner unread calls, after = { before with inner, unread } ∧
    inner.calls = before.inner.calls ++ calls ∧ ∀ call ∈ calls, call.isWrite = false

theorem idle_refl (b : Buffered (Recorded σ)) : Idle b b :=
  ⟨b.inner, b.unread, [], rfl, by simp, by simp⟩

/-- A call of the wrapper that accepts nothing and makes no write within. -/
theorem InOrder.idle {outside : List TransportCall} {b after : Buffered (Recorded σ)}
    {call : TransportCall} (h : InOrder capacity outside b) (hcall : call.accepted = [])
    (hidle : Idle b after) : InOrder capacity (outside ++ [call]) after := by
  obtain ⟨inner, unread, calls, rfl, hinner, hcalls⟩ := hidle
  have hreported : accepted (outside ++ [call]) = accepted inner.calls ++ b.pending := by
    have hout : accepted [call] = [] := by simp [hcall]
    rw [accepted_append, hout, hinner, accepted_append, accepted_eq_nil hcalls,
      List.append_nil, List.append_nil, h.reported]
  have hforwarded : Forwarded (outside ++ [call]) inner.calls := by
    rw [hinner]
    exact (h.forwarded.extend [call]).idle hcalls
  exact ⟨hreported, h.sized, h.fits, h.armed, hforwarded⟩

/-- A drain that has come to its end, well or not, before the call that made it is answered. -/
theorem InOrder.drained {outside calls : List TransportCall} {b : Buffered (Recorded σ)}
    {inner : Recorded σ} {left : Bytes} {failure : Option TransportError}
    (h : InOrder capacity outside b) (hcalls : inner.calls = b.inner.calls ++ calls)
    (hdrain : Transmission b.pending calls left failure) :
    InOrder capacity outside { b with inner, pending := left } where
  reported := by
    rw [h.reported, hcalls, accepted_append, List.append_assoc, hdrain.accepted_append]
  sized := h.sized
  fits := by
    have hlength : (accepted calls).length + left.length = b.pending.length := by
      rw [← List.length_append, hdrain.accepted_append]
    have hfits := h.fits
    show left.length ≤ capacity
    omega
  armed hleft := by
    refine h.armed fun hpending => hleft ?_
    have hnone := hdrain.accepted_append
    rw [hpending, List.append_eq_nil_iff] at hnone
    exact hnone.2
  forwarded := by
    show Forwarded outside inner.calls
    rw [hcalls]
    exact h.forwarded.drained h.reported hdrain

/-- A write that is held back. -/
theorem InOrder.held {outside : List TransportCall} {b : Buffered (Recorded σ)} {bytes : Bytes}
    (h : InOrder capacity outside b) (hroom : b.pending.length + bytes.length ≤ capacity) :
    InOrder capacity (outside ++ [.write bytes (.ok bytes.length)])
      { b with pending := b.pending ++ bytes, drainsOnClose := true } where
  reported := by simp [h.reported]
  sized := h.sized
  fits := by simpa using hroom
  armed _ := rfl
  forwarded := h.forwarded.extend _

/-- A write that is passed on while nothing is pending. -/
theorem InOrder.passed {outside : List TransportCall} {b : Buffered (Recorded σ)} {bytes : Bytes}
    {inner : Recorded σ} {result : Except TransportError Nat} (h : InOrder capacity outside b)
    (hpending : b.pending = []) (hcalls : inner.calls = b.inner.calls ++ [.write bytes result]) :
    InOrder capacity (outside ++ [.write bytes result]) { b with inner } := by
  have hreported : accepted outside = accepted b.inner.calls := by
    rw [h.reported, hpending, List.append_nil]
  have hpassed : Forwarded (outside ++ [.write bytes result]) inner.calls := by
    rw [hcalls]
    exact h.forwarded.passed hreported
  exact ⟨by simp [hcalls, hpending, hreported], h.sized, h.fits, h.armed, hpassed⟩

/-! ## The steps that move bytes -/

variable [Transport ω σ]

omit [Transport ω σ] in
/-- A call of the transport within that is no write offers nothing. -/
theorem within_recording_idle {ε α : Type} {call : Except ε α → TransportCall}
    {x : Action (σ × ω) ε α} (hcall : ∀ result, (call result).isWrite = false)
    (state : Buffered (Recorded σ) × ω) :
    (within (Recorded.recording call x)).Ensures state fun _ after => Idle state.1 after.1 := by
  refine (within_recording state).mono ?_
  intro result after hend
  obtain ⟨inner, hafter, hinner⟩ := hend
  exact ⟨inner, state.1.unread, _, hafter, hinner, by simp [hcall]⟩

/-- A read takes bytes from the buffer or from within. -/
theorem readRaw_idle (room : Nat) (state : Buffered (Recorded σ) × ω) :
    (readRaw room : Action (Buffered (Recorded σ) × ω) TransportError Bytes).Ensures state
      fun _ after => Idle state.1 after.1 := by
  refine (readRaw_reading room state).mono ?_
  intro result after hreading
  generalize after.1 = b at hreading
  cases hreading with
  | served _ => exact ⟨state.1.inner, _, [], rfl, by simp, by simp⟩
  | filled _ hcalls _ | failed _ hcalls =>
      exact ⟨_, _, _, rfl, hcalls, by simp [TransportCall.isWrite]⟩

theorem pollReadable_idle (timeout : Option Duration) (state : Buffered (Recorded σ) × ω) :
    (pollReadable timeout : Action (Buffered (Recorded σ) × ω) TransportError Bool).Ensures state
      fun _ after => Idle state.1 after.1 := by
  unfold pollReadable
  refine Action.ensures_see_bind ?_
  by_cases hunread : state.1.unread = []
  · rw [if_neg (by simp [hunread])]
    exact within_recording_idle (fun _ => rfl) state
  · rw [if_pos (by simpa using hunread)]
    exact Action.ensures_pure (idle_refl _)

/-- A drain makes the writes of a transmission of all that is pending, and what is not accepted
stays pending. -/
theorem drain_ensures (state : Buffered (Recorded σ) × ω) :
    (drain : Action (Buffered (Recorded σ) × ω) TransportError Unit).Ensures state
      fun result after => ∃ inner calls left,
        after.1 = { state.1 with inner, pending := left } ∧
        inner.calls = state.1.inner.calls ++ calls ∧
        Transmission state.1.pending calls left (failure? result) := by
  refine Action.ensures_iterate (fun _ between => ∃ inner calls left,
    between.1 = { state.1 with inner, pending := left } ∧
      inner.calls = state.1.inner.calls ++ calls ∧
      Transmission.Leads state.1.pending calls left)
    ⟨state.1.inner, [], state.1.pending, rfl, by simp, Transmission.leads_refl _⟩ ?_
  intro _ between hmid
  obtain ⟨inner, calls, left, hbetween, hcalls, hleads⟩ := hmid
  unfold drainRound
  refine Action.ensures_see_bind ?_
  rw [hbetween]
  by_cases hdone : left = []
  · subst hdone
    exact Action.ensures_pure ⟨inner, calls, [], hbetween, hcalls, hleads.finish⟩
  · rw [if_neg (by simpa using hdone)]
    refine (within_recording between).attempt_bind ?_
    intro result after hend
    obtain ⟨inner', hafter, hinner⟩ := hend
    rw [hbetween] at hafter hinner
    rw [hcalls, List.append_assoc] at hinner
    cases result with
    | error e =>
        simp only
        cases he : e.isInterrupted with
        | true =>
            exact Action.ensures_pure
              ⟨inner', _, left, hafter, hinner, hleads.interrupted hdone he⟩
        | false =>
            exact Action.ensures_fail
              ⟨inner', _, left, hafter, hinner, hleads _ _ _ (.failed hdone he)⟩
    | ok n =>
        simp only
        by_cases hn : n = 0
        · subst hn
          exact Action.ensures_fail
            ⟨inner', _, left, hafter, hinner, hleads _ _ _ (.refused hdone)⟩
        · rw [if_neg hn]
          refine Action.ensures_change_bind (Action.ensures_pure
            ⟨inner', _, left.drop n, ?_, hinner, hleads.accepted hdone hn⟩)
          simp [hafter]

/-- A drain keeps the order, and leaves nothing pending if it does not fail. -/
theorem drain_inOrder {outside : List TransportCall} (state : Buffered (Recorded σ) × ω)
    (h : InOrder capacity outside state.1) :
    (drain : Action (Buffered (Recorded σ) × ω) TransportError Unit).Ensures state
      fun result after => InOrder capacity outside after.1 ∧
        state.1.inner.calls <+: after.1.inner.calls ∧
        (failure? result = none → after.1.pending = []) := by
  refine (drain_ensures state).mono ?_
  intro result after hend
  obtain ⟨inner, calls, left, hafter, hcalls, hdrain⟩ := hend
  rw [hafter]
  have hgrown : state.1.inner.calls <+: inner.calls := by
    rw [hcalls]
    exact List.prefix_append _ _
  exact ⟨h.drained hcalls hdrain, hgrown, hdrain.failure_eq_none_iff.mp⟩

/-- What a write does once there is room for its bytes or nothing is pending. -/
theorem place_inOrder {outside : List TransportCall} (bytes : Bytes)
    (state : Buffered (Recorded σ) × ω) (h : InOrder capacity outside state.1)
    (hroom : state.1.pending = [] ∨ state.1.pending.length + bytes.length ≤ capacity) :
    (if capacity ≤ bytes.length then
        (within (Transport.writeRaw bytes) :
          Action (Buffered (Recorded σ) × ω) TransportError Nat)
      else do
        changeBuffers fun b => { b with pending := b.pending ++ bytes, drainsOnClose := true }
        return bytes.length).Ensures state
      fun result after => InOrder capacity (outside ++ [.write bytes result]) after.1 ∧
        state.1.inner.calls <+: after.1.inner.calls := by
  by_cases hlarge : capacity ≤ bytes.length
  · rw [if_pos hlarge]
    have hpending : state.1.pending = [] := by
      cases hroom with
      | inl hempty => exact hempty
      | inr hfits =>
          have hlength : state.1.pending.length = 0 := by omega
          exact List.length_eq_zero_iff.mp hlength
    refine (within_recording state).mono ?_
    intro result after hend
    obtain ⟨inner, hafter, hcalls⟩ := hend
    rw [hafter]
    exact ⟨h.passed hpending hcalls, hcalls ▸ List.prefix_append _ _⟩
  · rw [if_neg hlarge]
    refine Action.ensures_change_bind (Action.ensures_pure ⟨h.held ?_, List.prefix_rfl⟩)
    cases hroom with
    | inl hempty => rw [hempty, List.length_nil]; omega
    | inr hfits => exact hfits

/-- A write keeps the order, whichever of its paths it takes and however it ends. -/
theorem writeRaw_inOrder {outside : List TransportCall} (bytes : Bytes)
    (state : Buffered (Recorded σ) × ω) (h : InOrder capacity outside state.1) :
    (writeRaw bytes : Action (Buffered (Recorded σ) × ω) TransportError Nat).Ensures state
      fun result after => InOrder capacity (outside ++ [.write bytes result]) after.1 ∧
        state.1.inner.calls <+: after.1.inner.calls := by
  unfold writeRaw
  refine Action.ensures_see_bind ?_
  rw [h.sized]
  by_cases hfull : capacity < state.1.pending.length + bytes.length
  · rw [if_pos hfull]
    refine (drain_inOrder state h).bind ?_ ?_
    · intro _ after hend
      obtain ⟨hdrained, hgrown, hnone⟩ := hend
      have hplaced := place_inOrder bytes after hdrained (.inl (hnone rfl))
      exact hplaced.mono fun _ _ hend => ⟨hend.1, hgrown.trans hend.2⟩
    · intro e after hend
      obtain ⟨hdrained, hgrown, -⟩ := hend
      exact ⟨hdrained.idle rfl (idle_refl _), hgrown⟩
  · rw [if_neg hfull]
    exact place_inOrder bytes state h (.inr (by omega))

/-- What a write has handed on and what it leaves pending are what was pending before it and what
it reports as accepted: a write that fails, fails in the drain and keeps what that has left, or
finds nothing pending. -/
theorem writeRaw_moves {outside : List TransportCall} (bytes : Bytes)
    (state : Buffered (Recorded σ) × ω) (h : InOrder capacity outside state.1) :
    (writeRaw bytes : Action (Buffered (Recorded σ) × ω) TransportError Nat).Ensures state
      fun result after => ∃ calls, after.1.inner.calls = state.1.inner.calls ++ calls ∧
        accepted calls ++ after.1.pending =
          state.1.pending ++ (TransportCall.write bytes result).accepted := by
  refine (writeRaw_inOrder bytes state h).mono ?_
  intro result after hend
  obtain ⟨hafter, calls, hcalls⟩ := hend
  have hreported := hafter.reported
  rw [← hcalls, accepted_append, accepted_append, h.reported, List.append_assoc,
    List.append_assoc] at hreported
  have hmoved := (List.append_cancel_left hreported).symm
  exact ⟨calls, hcalls.symm, by simpa using hmoved⟩

/-- A flush first drains.  If that fails it goes no further, and what was not accepted stays
pending; otherwise nothing is pending and the transport within is flushed. -/
theorem flushRaw_ensures (state : Buffered (Recorded σ) × ω) :
    (flushRaw : Action (Buffered (Recorded σ) × ω) TransportError Unit).Ensures state
      fun result after => ∃ inner calls left failure,
        after.1 = { state.1 with inner, pending := left } ∧
        Transmission state.1.pending calls left failure ∧
        match failure with
        | some e => result = .error e ∧ inner.calls = state.1.inner.calls ++ calls
        | none => inner.calls = state.1.inner.calls ++ calls ++ [.flush result] := by
  unfold flushRaw
  refine (drain_ensures state).bind ?_ ?_
  · intro _ between hmid
    obtain ⟨inner, calls, left, hbetween, hcalls, hdrain⟩ := hmid
    refine (within_recording between).mono ?_
    intro result after hend
    obtain ⟨inner', hafter, hinner⟩ := hend
    rw [hbetween] at hafter hinner
    rw [hcalls] at hinner
    exact ⟨inner', calls, left, none, hafter, hdrain, hinner⟩
  · intro e after hend
    obtain ⟨inner, calls, left, hafter, hcalls, hdrain⟩ := hend
    exact ⟨inner, calls, left, some e, hafter, hdrain, rfl, hcalls⟩

theorem flushRaw_inOrder {outside : List TransportCall} (state : Buffered (Recorded σ) × ω)
    (h : InOrder capacity outside state.1) :
    (flushRaw : Action (Buffered (Recorded σ) × ω) TransportError Unit).Ensures state
      fun result after => InOrder capacity (outside ++ [.flush result]) after.1 := by
  have hflush : ∀ result, (TransportCall.flush result).isWrite = false := fun _ => rfl
  unfold flushRaw
  refine (drain_inOrder state h).bind ?_ ?_
  · intro _ between hmid
    obtain ⟨hdrained, -, -⟩ := hmid
    refine (within_recording_idle hflush between).mono ?_
    intro result after hidle
    exact hdrained.idle rfl hidle
  · intro e after hend
    obtain ⟨hdrained, -, -⟩ := hend
    exact hdrained.idle rfl (idle_refl _)

/-- Before a wrapper goes it offers exactly what is pending. -/
theorem settle_ensures [World ω] {outside : List TransportCall}
    (state : Buffered (Recorded σ) × ω) (h : InOrder capacity outside state.1) :
    (settle : Action (Buffered (Recorded σ) × ω) Empty Unit).Ensures state
      fun _ after => ∃ calls left failure, Transmission state.1.pending calls left failure ∧
        after.1.inner.calls = state.1.inner.calls ++ calls := by
  unfold settle
  refine Action.ensures_see_bind ?_
  by_cases hpending : state.1.pending = []
  · rw [if_pos (by simp [hpending])]
    have hnothing : Transmission state.1.pending [] [] none := by
      rw [hpending]
      exact .finished
    exact Action.ensures_pure ⟨[], [], none, hnothing, by simp⟩
  · rw [if_neg (by simp [hpending, h.armed hpending])]
    refine (drain_ensures state).attempt_bind ?_
    intro result after hend
    obtain ⟨inner, calls, left, hafter, hcalls, hdrain⟩ := hend
    cases result with
    | ok _ => exact Action.ensures_pure ⟨calls, left, _, hdrain, by rw [hafter, hcalls]⟩
    | error e =>
        refine Action.ensures_see_bind (Transport.ensures_note ?_)
        exact ⟨calls, left, _, hdrain, by rw [hafter, hcalls]⟩

/-- Closing does so too, and then closes the transport within. -/
theorem close_ensures [World ω] {outside : List TransportCall}
    (state : Buffered (Recorded σ) × ω) (h : InOrder capacity outside state.1) :
    (close : Action (Buffered (Recorded σ) × ω) Empty Unit).Ensures state
      fun _ after => ∃ calls left failure, Transmission state.1.pending calls left failure ∧
        after.1.inner.calls = state.1.inner.calls ++ calls ++ [.close] := by
  unfold close
  refine (settle_ensures state h).bind ?_ (fun e => e.elim)
  intro _ between hmid
  obtain ⟨calls, left, failure, hdrain, hcalls⟩ := hmid
  refine (within_recording between).mono ?_
  intro result after hend
  obtain ⟨inner, hafter, hinner⟩ := hend
  exact ⟨calls, left, failure, hdrain, by rw [hafter, hinner, hcalls]⟩

end Buffered

end TypedChannel
