import TypedChannel.Proofs.Buffered.Delivery
import TypedChannel.Proofs.Buffered.Paths
import TypedChannel.Proofs.Transport.Supply
/-!
# TypedChannel.Proofs.Buffered.Seamless

A buffered transport as its reader sees it.

`InStep outside inside unread` says how the calls that the wrapper has answered
and those that it has made in turn lie in time: it asks within only while
nothing is unread, what it gets is then unread, and an answer hands out the
front of what is unread.

1. From a record that is in step nothing can be lost, repeated, reordered or
   made up (`InStep.taken_append`).
2. Every call of the wrapper stays in step: reads by the ways in which they can
   go (`Reading`), writes and flushes because they never ask (`Quiet`).
3. So in every state that is reached the buffer cannot be told from the
   transport within but by the calls that it saves (`Seamless`).
-/

namespace TypedChannel

namespace TransportCall

/-- Whether a call takes bytes or asks whether there are any. -/
def asks : TransportCall → Bool
  | read _ _ | poll _ _ => true
  | _ => false

theorem taken_eq_nil_of_asks {call : TransportCall} (h : call.asks = false) : call.taken = [] := by
  cases call with
  | read _ _ | poll _ _ => contradiction
  | write _ _ | flush _ | close => rfl

/-- A read has given no more than there was room for. -/
def Fits : TransportCall → Prop
  | read room (.ok chunk) => chunk.length ≤ room
  | _ => True

end TransportCall

namespace Buffered

/-! ## Two records in step -/

/-- The wrapper has answered the calls `outside` and made the calls `inside`, and `unread` has come
in and not gone out. -/
inductive InStep : List TransportCall → List TransportCall → Bytes → Prop
  | fresh : InStep [] [] []
  /-- It asks only when nothing is unread. -/
  | asked {outside inside : List TransportCall} (call : TransportCall)
      (before : InStep outside inside []) : InStep outside (inside ++ [call]) call.taken
  | passed {outside inside : List TransportCall} {unread : Bytes} {call : TransportCall}
      (other : call.asks = false) (before : InStep outside inside unread) :
      InStep outside (inside ++ [call]) unread
  | answered {outside inside : List TransportCall} {rest : Bytes} {call : TransportCall}
      (before : InStep outside inside (call.taken ++ rest)) :
      InStep (outside ++ [call]) inside rest

variable {ω σ : Type} {capacity : Nat} {outside inside calls : List TransportCall} {unread : Bytes}

/-- What was handed out and then what is unread is what came in. -/
theorem InStep.taken_append (h : InStep outside inside unread) :
    taken outside ++ unread = taken inside := by
  induction h with
  | fresh => rfl
  | asked call before ih => simpa using ih
  | passed other before ih => simpa [TransportCall.taken_eq_nil_of_asks other] using ih
  | answered before ih => simpa using ih

theorem InStep.passedAll (h : InStep outside inside unread)
    (hcalls : ∀ call ∈ calls, call.asks = false) : InStep outside (inside ++ calls) unread := by
  induction calls generalizing inside with
  | nil => simpa using h
  | cons call calls ih =>
      have hfirst : InStep outside (inside ++ [call]) unread :=
        h.passed (hcalls call List.mem_cons_self)
      simpa using ih hfirst fun later hlater => hcalls later (List.mem_cons_of_mem call hlater)

/-! ## The invariant -/

/-- The calls `outside` that the wrapper has answered are in step with its own, and as long as no
read within has given too much, what is unread fits in the buffer. -/
structure InSequence capacity (outside : List TransportCall) (b : Buffered (Recorded σ)) :
    Prop where
  inStep : InStep outside b.inner.calls b.unread
  sized : b.capacity = capacity
  fits : (∀ call ∈ b.inner.calls, call.Fits) → b.unread.length ≤ capacity

theorem inSequence_wrap (capacity : Nat) (transport : σ) :
    InSequence (max capacity 1) [] (wrap capacity (⟨transport, []⟩ : Recorded σ)) where
  inStep := .fresh
  sized := rfl
  fits _ := Nat.zero_le _

/-- Nothing was taken or asked for between the two. -/
def Quiet (before after : Buffered (Recorded σ)) : Prop :=
  ∃ inner pending drainsOnClose calls, after = { before with inner, pending, drainsOnClose } ∧
    inner.calls = before.inner.calls ++ calls ∧ ∀ call ∈ calls, call.asks = false

theorem quiet_refl (b : Buffered (Recorded σ)) : Quiet b b :=
  ⟨b.inner, b.pending, b.drainsOnClose, [], rfl, by simp, by simp⟩

theorem Quiet.trans {before between after : Buffered (Recorded σ)} (h : Quiet before between)
    (h' : Quiet between after) : Quiet before after := by
  obtain ⟨inner, _, _, calls, rfl, hinner, hcalls⟩ := h
  obtain ⟨inner', pending, drainsOnClose, calls', rfl, hinner', hcalls'⟩ := h'
  refine ⟨inner', pending, drainsOnClose, calls ++ calls', rfl, ?_, ?_⟩
  · rw [hinner', hinner, List.append_assoc]
  · intro call hcall
    exact (List.mem_append.mp hcall).elim (hcalls call) (hcalls' call)

/-- A call of the wrapper that takes nothing and does not ask within. -/
theorem InSequence.quiet {b after : Buffered (Recorded σ)} {call : TransportCall}
    (h : InSequence capacity outside b) (hcall : call.taken = []) (hquiet : Quiet b after) :
    InSequence capacity (outside ++ [call]) after := by
  obtain ⟨inner, pending, drainsOnClose, calls, rfl, hinner, hcalls⟩ := hquiet
  have hall : InStep outside inner.calls b.unread := by
    rw [hinner]
    exact h.inStep.passedAll hcalls
  refine ⟨.answered (by simpa [hcall] using hall), h.sized, fun hfits => h.fits ?_⟩
  intro earlier hearlier
  exact hfits earlier (by simp [hinner, hearlier])

/-- A read, whichever way it goes. -/
theorem InSequence.read {b after : Buffered (Recorded σ)} {room : Nat}
    {result : Except TransportError Bytes} (h : InSequence capacity outside b)
    (hread : Reading room b result after) :
    InSequence capacity (outside ++ [.read room result]) after := by
  have hempty : b.unread = [] → InStep outside b.inner.calls [] := fun hnone => hnone ▸ h.inStep
  cases hread with
  | served _ =>
      have hsplit : InStep outside b.inner.calls (b.unread.take room ++ b.unread.drop room) := by
        simpa using h.inStep
      refine ⟨.answered hsplit, h.sized, fun hfits => ?_⟩
      have hbound := h.fits hfits
      show (b.unread.drop room).length ≤ capacity
      rw [List.length_drop]
      omega
  | @filled asked handed rest inner hnone hcalls hkept =>
      have hgot : InStep outside inner.calls (handed ++ rest) := by
        rw [hcalls]
        exact .asked (.read asked (.ok (handed ++ rest))) (hempty hnone)
      refine ⟨.answered hgot, h.sized, fun hfits => ?_⟩
      show rest.length ≤ capacity
      cases hkept with
      | inl hnothing => simp [hnothing]
      | inr hasked =>
          have hroom : (TransportCall.read asked (.ok (handed ++ rest))).Fits :=
            hfits _ (by simp [hcalls])
          have hlength : handed.length + rest.length ≤ capacity := by
            simpa [TransportCall.Fits, hasked, h.sized] using hroom
          omega
  | @failed asked e inner hnone hcalls =>
      have hgot : InStep outside inner.calls [] := by
        rw [hcalls]
        exact .asked (.read asked (.error e)) (hempty hnone)
      exact ⟨.answered hgot, h.sized, fun _ => Nat.zero_le _⟩

variable [Transport ω σ]

/-- A readiness check, which asks within or is answered from the buffer. -/
theorem pollReadable_inSequence (timeout : Option Duration) (state : Buffered (Recorded σ) × ω)
    (h : InSequence capacity outside state.1) :
    (pollReadable timeout : Action (Buffered (Recorded σ) × ω) TransportError Bool).Ensures state
      fun result after => InSequence capacity (outside ++ [.poll timeout result]) after.1 := by
  unfold pollReadable
  refine Action.ensures_see_bind ?_
  by_cases hunread : state.1.unread = []
  · rw [if_neg (by simp [hunread])]
    refine (within_recording state).mono ?_
    intro result after hend
    obtain ⟨inner, hafter, hcalls⟩ := hend
    have hnone : InStep outside state.1.inner.calls [] := hunread ▸ h.inStep
    have hasked : InStep outside inner.calls state.1.unread := by
      rw [hcalls, hunread]
      exact .asked (.poll timeout result) hnone
    rw [hafter]
    refine ⟨.answered hasked, h.sized, fun _ => ?_⟩
    show state.1.unread.length ≤ capacity
    simp [hunread]
  · rw [if_pos (by simpa using hunread)]
    exact Action.ensures_pure (h.quiet rfl (quiet_refl _))

/-- Nothing that goes out is asked for. -/
theorem quiet_account : Account ω fun _ => Quiet (σ := σ) where
  nothing := quiet_refl
  append h h' := h.trans h'
  offered _ := (Recorded.recording_calls _ _).mono
    fun _ after hcalls left _ => ⟨after.1, left, _, _, rfl, hcalls, by simp [TransportCall.asks]⟩
  passed _ _ _ := (Recorded.recording_calls _ _).mono
    fun _ after hcalls => ⟨after.1, _, _, _, rfl, hcalls, by simp [TransportCall.asks]⟩
  held b _ := ⟨b.inner, _, _, [], rfl, by simp, by simp⟩
  flush _ := (Recorded.recording_calls _ _).mono
    fun _ after hcalls => ⟨after.1, _, _, _, rfl, hcalls, by simp [TransportCall.asks]⟩

/-! ## Every reachable state -/

variable [World ω]

/-- Every call of the wrapper keeps the sequence. -/
theorem inSequence_kept : Kept ω (InSequence (σ := σ) capacity) where
  write bytes _ state h :=
    (quiet_account.writeRaw bytes state).mono fun _ _ hquiet => h.quiet rfl hquiet
  flush _ state h :=
    (quiet_account.flushRaw state).mono fun _ _ hquiet => h.quiet rfl hquiet.1
  read room _ state h := (readRaw_reading room state).mono fun _ _ hread => h.read hread
  poll timeout _ state h := pollReadable_inSequence timeout state h

theorem Reached.inSequence {state : Monitored σ × ω} (h : Reached capacity state) :
    InSequence (max capacity 1) state.1.calls state.1.inner :=
  h.keeps inSequence_kept (inSequence_wrap capacity)

/-! ## Unread bytes are served alone -/

section Served

variable {state : Monitored σ × ω}

/-- A readiness check with unread bytes says yes for any timeout. -/
theorem pollReadable_served (timeout : Option Duration) (hunread : state.1.inner.unread ≠ []) :
    (Transport.pollReadable timeout : Action (Monitored σ × ω) TransportError Bool).Returns state
      (.ok true) (⟨state.1.inner, state.1.calls ++ [.poll timeout (.ok true)]⟩, state.2) := by
  have hready : (pollReadable timeout :
      Action (Buffered (Recorded σ) × ω) TransportError Bool).Returns (state.1.inner, state.2)
        (.ok true) (state.1.inner, state.2) := by
    refine (Action.returns_see _).bind ?_
    rw [if_pos (by simpa using hunread)]
    exact Action.returns_pure true
  exact Recorded.returns_recording hready

/-- A read gives the first of them. -/
theorem readRaw_served (room : Nat) (hunread : state.1.inner.unread ≠ []) : ∃ after,
    (Transport.readRaw room : Action (Monitored σ × ω) TransportError Bytes).Returns state
        (.ok (state.1.inner.unread.take room)) after ∧
      after.1.inner = { state.1.inner with unread := state.1.inner.unread.drop room } := by
  have hserved : (readRaw room : Action (Buffered (Recorded σ) × ω) TransportError Bytes).Returns
      (state.1.inner, state.2) (.ok (state.1.inner.unread.take room))
      ({ state.1.inner with unread := state.1.inner.unread.drop room }, state.2) := by
    refine (Action.returns_see _).bind ?_
    by_cases hroom : room = 0
    · subst hroom
      exact Action.returns_pure []
    · rw [if_neg hroom, if_pos (by simpa using hunread)]
      exact Action.returns_step _
  exact ⟨_, Recorded.returns_recording hserved, rfl⟩

/-- What is unread in the buffers `b` before `rest` serves requests as a supply of its own, which
changes nothing else. -/
def unreadSupply (b : Buffered (Recorded σ)) (rest : Bytes) : Supply ω (Monitored σ) := by
  refine .ofReads (fun state pieces => state.1.inner = { b with unread := pieces.flatten ++ rest })
    ?poll ?read ?empty ?look ?note
  case poll =>
    intro state piece pieces timeout h hpiece
    have hunread : state.1.inner.unread ≠ [] := by simp [h, hpiece]
    exact ⟨_, pollReadable_served timeout hunread, h⟩
  case read =>
    intro state piece pieces h hpiece
    have hunread : state.1.inner.unread = piece ++ (pieces.flatten ++ rest) := by simp [h]
    have hsome : state.1.inner.unread ≠ [] := by simp [hunread, hpiece]
    obtain ⟨after, hread, hafter⟩ := readRaw_served piece.length hsome
    rw [hunread, List.take_left] at hread
    rw [hunread, List.drop_left, h] at hafter
    exact ⟨after, hread, hafter⟩
  case empty => exact fun h => h
  case look => exact fun h => h
  case note => exact fun _ h => h

/-- A receive of no more than is unread gives the first of it, however it is asked. -/
theorem receive_served {wanted : Nat} (timeout : Option Duration) (everything : Bool)
    (hwanted : wanted ≤ state.1.inner.unread.length) : ∃ after,
      (Transport.receive wanted timeout everything :
          Action (Monitored σ × ω) TransportError Bytes).Returns state
        (.ok (state.1.inner.unread.take wanted)) after ∧
      after.1.inner = { state.1.inner with unread := state.1.inner.unread.drop wanted } := by
  have hholds : (unreadSupply state.1.inner (state.1.inner.unread.drop wanted)).Holds state
      [state.1.inner.unread.take wanted] := by
    show state.1.inner = { state.1.inner with
      unread := [state.1.inner.unread.take wanted].flatten ++ state.1.inner.unread.drop wanted }
    simp
  obtain ⟨after, hreceive, hafter⟩ : ∃ after,
      (Transport.receive (state.1.inner.unread.take wanted).length timeout everything :
          Action (Monitored σ × ω) TransportError Bytes).Returns state
        (.ok (state.1.inner.unread.take wanted)) after ∧
      after.1.inner = { state.1.inner with unread := state.1.inner.unread.drop wanted } :=
    (unreadSupply state.1.inner (state.1.inner.unread.drop wanted)).receive hholds
      (.inr rfl) (.inr rfl)
  rw [List.length_take_of_le hwanted] at hreceive
  exact ⟨after, hreceive, hafter⟩

end Served

/-! ## What a reader can rely on -/

/-- What the reader of a buffered transport can rely on. -/
structure Seamless (capacity : Nat) (state : Monitored σ × ω) : Prop where
  /-- What it was given and then what is unread is what the transport within has given. -/
  ordered : taken state.1.calls ++ state.1.inner.unread = taken state.1.inner.inner.calls
  /-- That one was neither read nor asked while anything was unread. -/
  inStep : InStep state.1.calls state.1.inner.inner.calls state.1.inner.unread
  bounded : (∀ call ∈ state.1.inner.inner.calls, call.Fits) →
    state.1.inner.unread.length ≤ max capacity 1
  poll : state.1.inner.unread ≠ [] → ∀ timeout, ∃ after,
    (Transport.pollReadable timeout : Action (Monitored σ × ω) TransportError Bool).Returns state
        (.ok true) after ∧
      after.1.inner = state.1.inner
  read : state.1.inner.unread ≠ [] → ∀ room, ∃ after,
    (Transport.readRaw room : Action (Monitored σ × ω) TransportError Bytes).Returns state
        (.ok (state.1.inner.unread.take room)) after ∧
      after.1.inner = { state.1.inner with unread := state.1.inner.unread.drop room }
  receive : ∀ wanted timeout everything, wanted ≤ state.1.inner.unread.length → ∃ after,
    (Transport.receive wanted timeout everything :
        Action (Monitored σ × ω) TransportError Bytes).Returns state
      (.ok (state.1.inner.unread.take wanted)) after ∧
    after.1.inner = { state.1.inner with unread := state.1.inner.unread.drop wanted }
  /-- A read fails only with one within, when nothing was unread, and then nothing is. -/
  failed : ∀ room, (Transport.readRaw room : Action (Monitored σ × ω) TransportError Bytes).Ensures
    state fun result after => ∀ e, result = .error e →
      state.1.inner.unread = [] ∧ ∃ asked inner,
        inner.calls = state.1.inner.inner.calls ++ [.read asked (.error e)] ∧
        after.1.inner = { state.1.inner with inner, unread := [] }

/-- Whatever the transport within answers and however the uses end, the reader of a buffered
transport gets what that transport gives, and gets it from the buffer first. -/
theorem Reached.seamless {state : Monitored σ × ω} (h : Reached capacity state) :
    Seamless capacity state where
  ordered := h.inSequence.inStep.taken_append
  inStep := h.inSequence.inStep
  bounded := h.inSequence.fits
  poll hunread timeout := ⟨_, pollReadable_served timeout hunread, rfl⟩
  read hunread room := readRaw_served room hunread
  receive _ timeout everything hwanted := receive_served timeout everything hwanted
  failed room := by
    refine Recorded.ensures_recording ((readRaw_reading room _).mono ?_)
    rintro result ⟨b, world⟩ hreading e rfl
    show _ ∧ ∃ asked inner, _ ∧ b = _
    cases hreading with
    | @failed asked _ inner hempty hcalls => exact ⟨hempty, asked, inner, hcalls, rfl⟩

/-- A host with one link, which is interrupted once and then gives five bytes. -/
def faltering : Host :=
  { links := [{ stream := [1, 2, 3, 4, 5], reads := [.failed (.ofErrno .interrupted)] }] }

/-- A buffer of four bytes whose first refill fails and whose second one is full: two bytes are
handed out, two are unread, and the last one has not been asked for. -/
theorem seamless_refilled : ∃ state : Monitored Handle × Host,
    taken state.1.calls = [1, 2] ∧ state.1.inner.unread = [3, 4] ∧
      (∀ call ∈ state.1.inner.inner.calls, call.Fits) ∧ Seamless 4 state := by
  have hfresh : Reached 4 (⟨wrap 4 ⟨Handle.link 0 .stream, []⟩, []⟩, faltering) := .fresh _ _
  have hfailed := Reached.used 1 (.read 2) hfresh rfl
  have hserved := Reached.used 4 (.receive 2 none true) hfailed rfl
  have hcalls : ∀ call ∈ [TransportCall.read 4 (.error (.io (.ofErrno .interrupted))),
      .poll none (.ok true), .read 4 (.ok [1, 2, 3, 4])], call.Fits := by
    simp [TransportCall.Fits]
  exact ⟨_, rfl, rfl, hcalls, hserved.seamless⟩

end Buffered

end TypedChannel
