import TypedChannel.Proofs.Buffered.Outgoing
import TypedChannel.Proofs.Transport.Receive
import TypedChannel.Transport.Handle
/-!
# TypedChannel.Proofs.Buffered.Delivery

A buffered transport over its whole life.

The wrapper stands between two records: the outer one holds the calls made of
it, the inner one those it has made in turn.  `Reached capacity state` are the
states that any calls lead to, each of them continued after the failure of the
ones before it, while the rest of the world does as it likes.

In every one of them (`Lossless`) the bytes that went on are followed by the
pending ones in the order in which the wrapper has reported them as accepted,
and a flush or the end of the wrapper offers exactly those that are pending.
Around a transport that comes back from its calls (`FullOutlet`) the wrapper
does from its own, and its end has offered them.
-/

namespace TypedChannel

namespace Buffered

variable {ω σ : Type}

/-- A buffered transport between two records. -/
abbrev Monitored (σ : Type) : Type := Recorded (Buffered (Recorded σ))

/-- One call of a transport, or one of the loops over such calls. -/
inductive Use where
  | write (bytes : Bytes)
  | transmit (bytes : Bytes)
  | flush
  | read (room : Nat)
  | receive (wanted : Nat) (timeout : Option Duration) (everything : Bool)
  | poll (timeout : Option Duration)

/-- Whether a use hands bytes on. -/
def Use.sends : Use → Bool
  | write _ | transmit _ | flush => true
  | read _ | receive .. | poll _ => false

/-- Make a call and look only at the state after it. -/
def Use.perform [World ω] [Transport ω σ] : Use → Action (Monitored σ × ω) TransportError Unit
  | write bytes => do let _ ← Transport.writeRaw bytes
  | transmit bytes => Transport.transmit bytes
  | flush => Transport.flushRaw
  | read room => do let _ ← Transport.readRaw room
  | receive wanted timeout everything => do let _ ← Transport.receive wanted timeout everything
  | poll timeout => do let _ ← Transport.pollReadable timeout

/-- The states that uses of a fresh buffer lead to.  A use may end well or not, and between two of
them the world may become any other. -/
inductive Reached [World ω] [Transport ω σ] (capacity : Nat) : Monitored σ × ω → Prop
  | fresh (transport : σ) (world : ω) :
      Reached capacity (⟨wrap capacity ⟨transport, []⟩, []⟩, world)
  | used {state after : Monitored σ × ω} {result : Except TransportError Unit} (patience : Nat)
      (use : Use) (before : Reached capacity state)
      (run : use.perform patience state = some (result, after)) : Reached capacity after
  | elsewhere {monitored : Monitored σ} {world : ω} (world' : ω)
      (before : Reached capacity (monitored, world)) : Reached capacity (monitored, world')

/-! ## What every use keeps -/

/-- From before to after, a fact about the calls that the wrapper has answered and its buffers. -/
def Keeps (inv : List TransportCall → Buffered (Recorded σ) → Prop) (state : Monitored σ × ω)
    (_ : Option TransportError) (after : Monitored σ × ω) : Prop :=
  inv state.1.calls state.1.inner → inv after.1.calls after.1.inner

variable {inv : List TransportCall → Buffered (Recorded σ) → Prop} {capacity : Nat}

theorem keeps_composes : Action.Composes (Keeps (ω := ω) (σ := σ) inv) where
  refl _ := id
  trans h h' := h' ∘ h

/-- One recorded call of the wrapper keeps what the operation behind it does. -/
theorem recording_keeps {α : Type} {call : Except TransportError α → TransportCall}
    {x : Action (Buffered (Recorded σ) × ω) TransportError α}
    (hx : ∀ outside state, inv outside state.1 → x.Ensures state fun result after =>
      inv (outside ++ [call result]) after.1) :
    (Recorded.recording call x).Obeys (Keeps inv) := by
  intro state patience result after hrun hbefore
  have hcall : (Recorded.recording call x).Ensures state fun _ after =>
      inv after.1.calls after.1.inner := Recorded.ensures_recording (hx _ _ hbefore)
  exact hcall patience result after hrun

variable [World ω] [Transport ω σ]

/-- Every single call of the wrapper keeps it. -/
structure Kept (ω : Type) [World ω] [Transport ω σ]
    (inv : List TransportCall → Buffered (Recorded σ) → Prop) : Prop where
  write : ∀ bytes outside (state : Buffered (Recorded σ) × ω), inv outside state.1 →
    (writeRaw bytes).Ensures state fun result after =>
      inv (outside ++ [.write bytes result]) after.1
  flush : ∀ outside (state : Buffered (Recorded σ) × ω), inv outside state.1 →
    flushRaw.Ensures state fun result after => inv (outside ++ [.flush result]) after.1
  read : ∀ room outside (state : Buffered (Recorded σ) × ω), inv outside state.1 →
    (readRaw room).Ensures state fun result after => inv (outside ++ [.read room result]) after.1
  poll : ∀ timeout outside (state : Buffered (Recorded σ) × ω), inv outside state.1 →
    (pollReadable timeout).Ensures state fun result after =>
      inv (outside ++ [.poll timeout result]) after.1

/-- However a use ends, what every call keeps is kept. -/
theorem Kept.perform (h : Kept ω inv) (use : Use) :
    (use.perform : Action (Monitored σ × ω) TransportError Unit).Obeys (Keeps inv) := by
  have hcomposes : Action.Composes (Keeps (ω := ω) inv) := keeps_composes
  have hpure : ∀ a : Unit, (pure a : Action (Monitored σ × ω) TransportError Unit).Obeys
      (Keeps inv) := Action.obeys_pure hcomposes
  have hwrite : ∀ bytes, (Transport.writeRaw bytes :
      Action (Monitored σ × ω) TransportError Nat).Obeys (Keeps inv) :=
    fun bytes => recording_keeps (h.write bytes)
  have hread : ∀ room, (Transport.readRaw room :
      Action (Monitored σ × ω) TransportError Bytes).Obeys (Keeps inv) :=
    fun room => recording_keeps (h.read room)
  have hpoll : ∀ timeout, (Transport.pollReadable timeout :
      Action (Monitored σ × ω) TransportError Bool).Obeys (Keeps inv) :=
    fun timeout => recording_keeps (h.poll timeout)
  have hworld : ∀ {α : Type} (f : ω → α × ω), (Transport.inWorld f :
      Action (Monitored σ × ω) TransportError α).Obeys (Keeps inv) :=
    fun _ _ => Action.ensures_step id
  cases use with
  | write bytes => exact Action.Obeys.bind hcomposes (hwrite bytes) fun _ => hpure ()
  | transmit bytes => exact Transport.transmit_obeys hcomposes id hwrite bytes
  | flush => exact recording_keeps h.flush
  | read room => exact Action.Obeys.bind hcomposes (hread room) fun _ => hpure ()
  | receive wanted timeout everything =>
      exact Action.Obeys.bind hcomposes
        (Transport.receive_obeys hcomposes id hworld hpoll hread) fun _ => hpure ()
  | poll timeout => exact Action.Obeys.bind hcomposes (hpoll timeout) fun _ => hpure ()

/-- What holds of fresh buffers and is kept by every call holds in every state that is reached. -/
theorem Reached.keeps {state : Monitored σ × ω} (h : Reached capacity state) (hkept : Kept ω inv)
    (hfresh : ∀ transport : σ, inv [] (wrap capacity ⟨transport, []⟩)) :
    inv state.1.calls state.1.inner := by
  induction h with
  | fresh transport world => exact hfresh transport
  | used patience use before run ih => exact hkept.perform use _ _ _ _ run ih
  | elsewhere world' before ih => exact ih

/-! ## Uses that come to their end -/

/-- The transport within the wrapper. -/
def innermost (state : Monitored σ × ω) : σ × ω := (state.1.inner.inner.inner, state.2)

section Sends

variable {outlet : FullOutlet ω σ} {state : Monitored σ × ω}

/-- What the writes that a transmit makes again use up: pending bytes, of which an interrupted write
leaves none, and behind them the interruptions. -/
def fruitless (outlet : FullOutlet ω σ) (state : Monitored σ × ω) : Nat × Nat :=
  (state.1.inner.pending.length, outlet.interruptions (innermost state))

theorem monitored_writeRaw_completes (bytes : Bytes) (hready : outlet.Ready (innermost state)) :
    (Transport.writeRaw bytes : Action (Monitored σ × ω) TransportError Nat).Completes state
      fun result after => outlet.Ready (innermost after) ∧
        ∀ e, result = .error e → e.isInterrupted = true →
          WellFoundedRelation.rel (fruitless outlet after) (fruitless outlet state) := by
  have hwrite : (writeRaw bytes : Action (Buffered (Recorded σ) × ω) TransportError Nat).Completes
      (state.1.inner, state.2) _ :=
    writeRaw_completes outlet.recorded.toOutlet bytes hready
  refine Recorded.completes_recording (hwrite.mono ?_)
  rintro result after ⟨hafter, hinterrupted⟩
  refine ⟨hafter, fun e h he => ?_⟩
  obtain ⟨hnone, hfewer⟩ := hinterrupted e h he
  by_cases hpending : state.1.inner.pending = []
  · have hless := hfewer hpending
    simp only [fruitless, innermost, hnone, hpending]
    exact .right _ hless
  · refine .left _ _ ?_
    rw [hnone]
    exact List.length_pos_iff.mpr hpending

theorem Use.perform_completes {use : Use} (huse : use.sends = true)
    (hready : outlet.Ready (innermost state)) :
    use.perform.Completes state fun _ after => outlet.Ready (innermost after) := by
  cases use with
  | read | receive | poll => contradiction
  | write bytes =>
      exact (monitored_writeRaw_completes bytes hready).bind
        (fun _ _ hend => Action.completes_pure hend.1) fun _ _ hend => hend.1
  | transmit bytes =>
      exact Transport.transmit_completes (fun between => outlet.Ready (innermost between))
        (fruitless outlet) (fun bytes _ => monitored_writeRaw_completes bytes) bytes hready
  | flush =>
      have hflush : (flushRaw : Action (Buffered (Recorded σ) × ω) TransportError Unit).Completes
          (state.1.inner, state.2) _ := flushRaw_completes outlet.recorded hready
      exact Recorded.completes_recording hflush

end Sends

/-! ## Every reachable state -/

theorem inOrder_kept : Kept ω (InOrder (σ := σ) capacity) where
  write bytes _ state h := (writeRaw_inOrder bytes state h).mono fun _ _ hend => hend.1
  flush _ state h := flushRaw_inOrder state h
  read room _ state h :=
    (readRaw_idle room state).mono fun result _ hidle => h.idle (by cases result <;> rfl) hidle
  poll timeout _ state h :=
    (pollReadable_idle timeout state).mono fun _ _ hidle => h.idle rfl hidle

theorem Reached.inOrder {state : Monitored σ × ω} (h : Reached capacity state) :
    InOrder (max capacity 1) state.1.calls state.1.inner :=
  h.keeps inOrder_kept (inOrder_wrap capacity)

/-- What the bytes of a buffered transport can be relied on for. -/
structure Lossless (capacity : Nat) (state : Monitored σ × ω) : Prop where
  /-- What went on and then what is pending is what was reported as accepted, in order. -/
  ordered : accepted state.1.inner.inner.calls ++ state.1.inner.pending = accepted state.1.calls
  bounded : state.1.inner.pending.length ≤ max capacity 1
  /-- No write went around pending bytes. -/
  forwarded : Forwarded state.1.calls state.1.inner.inner.calls
  armed : state.1.inner.pending ≠ [] → state.1.inner.drainsOnClose = true
  /-- A write keeps what it was asked to hand on first and could not; it adds what it accepts. -/
  write : ∀ bytes, (Transport.writeRaw bytes : Action (Monitored σ × ω) TransportError Nat).Ensures
    state fun result after => ∃ calls,
      after.1.inner.inner.calls = state.1.inner.inner.calls ++ calls ∧
      accepted calls ++ after.1.inner.pending =
        state.1.inner.pending ++ (TransportCall.write bytes result).accepted
  /-- A flush offers the pending bytes until none is left or a write fails.  If one fails, the
  flush does with it, and what that write was offered is what stays pending. -/
  flush : (Transport.flushRaw : Action (Monitored σ × ω) TransportError Unit).Ensures
    state fun result after => ∃ calls failure,
      Transmission state.1.inner.pending calls after.1.inner.pending failure ∧
      match failure with
      | some e => result = .error e ∧
          after.1.inner.inner.calls = state.1.inner.inner.calls ++ calls
      | none => after.1.inner.pending = [] ∧
          after.1.inner.inner.calls = state.1.inner.inner.calls ++ calls ++ [.flush result]
  /-- The end of the wrapper offers exactly the pending bytes. -/
  close : (Transport.close : Action (Monitored σ × ω) Empty Unit).Ensures
    state fun _ after => ∃ calls left failure,
      Transmission state.1.inner.pending calls left failure ∧
      after.1.inner.inner.calls = state.1.inner.inner.calls ++ calls ++ [.close]
  /-- Where the transport within comes back from its calls, whatever they answer, every write,
  transmit and flush comes to its end. -/
  sends : ∀ outlet : FullOutlet ω σ, outlet.Ready (innermost state) →
    ∀ use : Use, use.sends = true →
      use.perform.Completes state fun _ after => outlet.Ready (innermost after)
  /-- And so does the end of the wrapper, which then has offered exactly the pending bytes. -/
  ends : ∀ outlet : FullOutlet ω σ, outlet.Ready (innermost state) →
    (Transport.close : Action (Monitored σ × ω) Empty Unit).Completes
      state fun _ after => ∃ calls left failure,
        Transmission state.1.inner.pending calls left failure ∧
        after.1.inner.inner.calls = state.1.inner.inner.calls ++ calls ++ [.close]

/-- Whatever the transport within answers and however its uses end, a buffered transport loses no
byte, sends none twice and keeps their order. -/
theorem Reached.lossless {state : Monitored σ × ω} (h : Reached capacity state) :
    Lossless capacity state where
  ordered := h.inOrder.reported.symm
  bounded := h.inOrder.fits
  forwarded := h.inOrder.forwarded
  armed := h.inOrder.armed
  write bytes := Recorded.ensures_recording (writeRaw_moves bytes _ h.inOrder)
  flush := by
    refine Recorded.ensures_recording ((flushRaw_ensures _).mono ?_)
    intro result after hflush
    obtain ⟨inner, calls, left, failure, hafter, hdrain, hend⟩ := hflush
    rw [hafter]
    cases failure with
    | some e => exact ⟨calls, some e, hdrain, hend⟩
    | none =>
        have hleft : left = [] := hdrain.failure_eq_none_iff.mp rfl
        exact ⟨calls, none, hdrain, hleft, hend⟩
  close := Recorded.ensures_recording (close_ensures _ h.inOrder)
  sends outlet hready use huse := use.perform_completes huse hready
  ends outlet hready := by
    have hclose : (close : Action (Buffered (Recorded σ) × ω) Empty Unit).Completes
        (state.1.inner, state.2) _ := close_completes outlet.recorded hready
    refine Recorded.completes_recording ((hclose.and (close_ensures _ h.inOrder)).mono ?_)
    exact fun _ _ hend => hend.2

/-- A host with one link, which takes two bytes, is interrupted, and breaks. -/
def breaking : Host :=
  { links := [{ writes := [.atMost 2, .failed (.ofErrno .interrupted),
                           .failed (.ofErrno .brokenPipe)] }] }

/-- A buffer of four bytes that holds three and is written two more: the drain breaks off after
the second byte, and the third is still there.  The end of the wrapper hands it on. -/
theorem lossless_half_drained : ∃ state after : Monitored Handle × Host,
    accepted state.1.calls = [1, 2, 3] ∧ accepted state.1.inner.inner.calls = [1, 2] ∧
      state.1.inner.pending = [3] ∧ Lossless 4 state ∧
      (Transport.close : Action (Monitored Handle × Host) Empty Unit).Returns state (.ok ()) after ∧
      accepted after.1.inner.inner.calls = [1, 2, 3] := by
  have hfresh : Reached 4 (⟨wrap 4 ⟨Handle.link 0 .stream, []⟩, []⟩, breaking) := .fresh _ _
  have hheld := Reached.used 1 (.write [1, 2, 3]) hfresh rfl
  have hbroken := Reached.used 4 (.write [4, 5]) hheld rfl
  have hlossless := hbroken.lossless
  obtain ⟨result, after, hreturns, -⟩ :=
    hlossless.ends (Link.fullOutlet 0) ⟨⟨_, rfl⟩, _, rfl⟩
  cases result with
  | error e => exact e.elim
  | ok _ =>
      refine ⟨_, after, rfl, rfl, rfl, hlossless, hreturns, ?_⟩
      obtain ⟨enough, hrun⟩ := hreturns
      cases hrun (enough + 2) (Nat.le_add_right enough 2)
      rfl

end Buffered

end TypedChannel
