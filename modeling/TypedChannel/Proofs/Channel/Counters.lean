import Mathlib.Algebra.Ring.Nat
import TypedChannel.Proofs.Channel.Parts
import TypedChannel.Proofs.Host.Link
import TypedChannel.Proofs.Transport.Progress
/-!
# TypedChannel.Proofs.Channel.Counters

What the byte counters of a channel say about the bytes that have moved.

1. A counter grows by the size of a request once the request has succeeded.
2. So the bytes that moved for a request which the transport then cut short are
   in neither counter; they are `Episode.stranded`.
3. Those are the only ones: in every state that operations lead to a counter
   and what all of them have stranded make up all bytes that have moved.
-/

namespace TypedChannel

/-- How an operation on a channel failed, if it did, and the calls of the transport it made. -/
structure Episode where
  failure : Option ChannelError
  calls : List TransportCall

namespace Episode

/-- Whether it was the transport that ended the operation. -/
def cutShort (episode : Episode) : Bool := episode.failure.any ChannelError.isTransport

/-- The bytes that moved for a request which the transport then cut short. -/
def stranded (direction : Direction) (episode : Episode) : Nat :=
  if episode.cutShort then unfinished direction episode.calls else 0

@[simp] theorem stranded_none {direction : Direction} {calls : List TransportCall} :
    stranded direction ⟨none, calls⟩ = 0 := rfl

theorem stranded_le {direction : Direction} (episode : Episode) :
    episode.stranded direction ≤ (moved direction episode.calls).length := by
  unfold stranded
  split
  · exact unfinished_le
  · exact Nat.zero_le _

theorem stranded_of_root {direction : Direction} {e : ChannelError} {cause : TransportError}
    {calls : List TransportCall} (h : e.root = .transport cause) :
    stranded direction ⟨some e, calls⟩ = unfinished direction calls := by
  have hcut : cutShort ⟨some e, calls⟩ = true := by
    simp [cutShort, ChannelError.isTransport, h]
  rw [stranded, if_pos hcut]

end Episode

namespace Channel

variable {σ ω α β : Type}

/-- The counter of a direction. -/
def counter (direction : Direction) (channel : Channel σ) : Nat :=
  match direction with
  | .sent => channel.bytesSent
  | .received => channel.bytesReceived

/-! ## One operation -/

/-- The counters have grown by what the calls of an operation have moved, less what it has
stranded. -/
structure Counts (before after : Channel (Recorded σ)) (episode : Episode) : Prop where
  calls : after.transport.calls = before.transport.calls ++ episode.calls
  counter : ∀ direction, after.counter direction + episode.stranded direction =
    before.counter direction + (moved direction episode.calls).length

/-- An operation counts what it moves. -/
def Balanced (state : Channel (Recorded σ) × Surroundings ω) (failure : Option ChannelError)
    (after : Channel (Recorded σ) × Surroundings ω) : Prop :=
  ∃ calls, Counts state.1 after.1 ⟨failure, calls⟩

/-- And if it succeeds no request of it is left unfinished, so that another one can follow. -/
def Settled (state : Channel (Recorded σ) × Surroundings ω) (failure : Option ChannelError)
    (after : Channel (Recorded σ) × Surroundings ω) : Prop :=
  ∃ calls, Counts state.1 after.1 ⟨failure, calls⟩ ∧
    (failure = none → ∀ direction, unfinished direction calls = 0)

/-- An operation that moves nothing. -/
def Still (state : Channel (Recorded σ) × Surroundings ω) (_ : Option ChannelError)
    (after : Channel (Recorded σ) × Surroundings ω) : Prop :=
  after.1.transport.calls = state.1.transport.calls ∧
    ∀ direction, after.1.counter direction = state.1.counter direction

variable {state after : Channel (Recorded σ) × Surroundings ω} {failure : Option ChannelError}

theorem Settled.balanced (h : Settled state failure after) : Balanced state failure after := by
  obtain ⟨calls, hcounts, -⟩ := h
  exact ⟨calls, hcounts⟩

/-- An operation never makes a counter smaller. -/
theorem Balanced.counter_le (h : Balanced state failure after) (direction : Direction) :
    state.1.counter direction ≤ after.1.counter direction := by
  obtain ⟨calls, hcounts⟩ := h
  have hcounter := hcounts.counter direction
  have hstranded : Episode.stranded direction ⟨failure, calls⟩ ≤ (moved direction calls).length :=
    Episode.stranded_le _
  simp only at hcounter
  omega

theorem Still.settled (h : Still state failure after) : Settled state failure after := by
  refine ⟨[], ⟨by simpa using h.1, fun direction => ?_⟩, fun _ _ => rfl⟩
  simp [Episode.stranded, h.2 direction]

theorem composes_settled : Action.Composes (Settled (σ := σ) (ω := ω)) where
  refl state := Still.settled ⟨rfl, fun _ => rfl⟩
  trans := by
    intro state between after failure hfirst hsecond
    obtain ⟨calls, hcounts, hunfinished⟩ := hfirst
    obtain ⟨more, hmore, hend⟩ := hsecond
    have hcalls : after.1.transport.calls = state.1.transport.calls ++ (calls ++ more) := by
      rw [hmore.calls, hcounts.calls, List.append_assoc]
    have hcounter : ∀ direction,
        after.1.counter direction + Episode.stranded direction ⟨failure, calls ++ more⟩ =
          state.1.counter direction + (moved direction (calls ++ more)).length := by
      intro direction
      have hfirst := hcounts.counter direction
      have hsecond := hmore.counter direction
      have hstranded : Episode.stranded direction ⟨failure, calls ++ more⟩ =
          Episode.stranded direction ⟨failure, more⟩ := by
        unfold Episode.stranded Episode.cutShort
        rw [unfinished_append (hunfinished rfl direction)]
      rw [Episode.stranded_none] at hfirst
      rw [hstranded, moved_append, List.length_append]
      simp only at hfirst hsecond ⊢
      omega
    have hfinished : failure = none → ∀ direction, unfinished direction (calls ++ more) = 0 := by
      intro hnone direction
      rw [unfinished_append (hunfinished rfl direction)]
      exact hend hnone direction
    exact ⟨calls ++ more, ⟨hcalls, hcounter⟩, hfinished⟩

theorem SameButErrors.still (h : SameButErrors state.1 after.1) : Still state failure after := by
  obtain ⟨_, _, hafter⟩ := h
  unfold Still
  rw [hafter]
  exact ⟨rfl, fun direction => by cases direction <;> rfl⟩

theorem record_still [World ω] (direction : Direction) (depth : Nat) (description value : String) :
    (record direction depth description value : ChannelAction (Recorded σ) ω Unit).Obeys Still := by
  intro state
  refine Action.ensures_change ?_
  dsimp only
  split
  · exact ⟨rfl, fun _ => rfl⟩
  · exact ⟨rfl, fun _ => rfl⟩

theorem parts_settled [World ω] : Parts (Settled (σ := σ) (ω := ω)) where
  composes := composes_settled
  fail _ _ _ _ := fail_ensures fun _ _ _ hsame => hsame.still.settled
  inWorld _ _ _ := Action.ensures_step (Still.settled ⟨rfl, fun _ => rfl⟩)
  record direction depth description value :=
    (record_still direction depth description value).mono Still.settled

/-! ## Transmits and receives -/

variable [World ω] [Transport ω σ]

/-- A transmit that succeeds is counted; the bytes of one that fails are stranded. -/
theorem sendBytes_settled (bytes : Bytes) :
    (sendBytes bytes : ChannelAction (Recorded σ) ω Unit).Obeys Settled := by
  intro state
  refine (sendBytes_ensures bytes state).mono ?_
  intro result after hend
  obtain ⟨calls, hend⟩ := hend
  cases result with
  | ok _ =>
      obtain ⟨hall, transport, _, _, hafter, hcalls⟩ := hend
      have hcounter : ∀ direction, after.1.counter direction + 0 =
          state.1.counter direction + (moved direction calls).length := by
        intro direction
        cases direction with
        | sent => simp [counter, hafter, moved, hall.accepted_of_finished]
        | received => simp [counter, hafter, moved, hall.taken_eq_nil]
      have hfinished : ∀ direction, unfinished direction calls = 0 := by
        intro direction
        cases direction with
        | sent => simpa using hall.unfinished_sent
        | received => exact hall.unfinished_received
      exact ⟨calls, ⟨by rw [hafter, hcalls], hcounter⟩, fun _ => hfinished⟩
  | error e =>
      obtain ⟨cause, left, hroot, hpart, transport, _, _, hafter, hcalls⟩ := hend
      refine ⟨calls, ⟨by rw [hafter, hcalls], fun direction => ?_⟩, fun hnone => by simp at hnone⟩
      rw [failure?_error, Episode.stranded_of_root hroot]
      cases direction with
      | sent => simp [counter, hafter, moved, hpart.unfinished_sent]
      | received =>
          simp [counter, hafter, moved, hpart.unfinished_received, hpart.taken_eq_nil]

/-- A receive that succeeds is counted, and if it was one of everything it is finished. -/
theorem acceptBytes_counts (wanted : Nat) (options : ReceiveOptions)
    (state : Channel (Recorded σ) × Surroundings ω) :
    (acceptBytes wanted options : ChannelAction (Recorded σ) ω Bytes).Ensures state
      fun result after => ∃ calls, Counts state.1 after.1 ⟨failure? result, calls⟩ ∧
        (options.everything = true → failure? result = none →
          ∀ direction, unfinished direction calls = 0) := by
  refine call_bind_ensures (Transport.receive_ensures _) ?_ ?_
  · intro bytes calls between hmid hreception
    obtain ⟨transport, _, _, hbetween, hcalls⟩ := hmid
    refine Action.ensures_change_bind (Action.ensures_change_bind (Action.ensures_pure
      ⟨calls, ⟨?_, ?_⟩, ?_⟩))
    · show between.1.transport.calls = _
      rw [hbetween, hcalls]
    · intro direction
      cases direction with
      | sent => simp [counter, hbetween, moved, hreception.accepted_eq_nil]
      | received => simp [counter, hbetween, moved, hreception.ok_eq]
    · intro heverything _ direction
      rw [heverything] at hreception
      cases direction with
      | sent => exact hreception.unfinished_sent
      | received => simpa using hreception.unfinished_received
  · intro e cause calls after hend hroot hreception
    obtain ⟨transport, _, _, hafter, hcalls⟩ := hend
    refine ⟨calls, ⟨?_, ?_⟩, fun _ hnone => by simp at hnone⟩
    · rw [hafter, hcalls]
    · intro direction
      rw [failure?_error, Episode.stranded_of_root hroot]
      cases direction with
      | sent =>
          simp [counter, hafter, moved, hreception.unfinished_sent, hreception.accepted_eq_nil]
      | received => simp [counter, hafter, moved, hreception.unfinished_of_error]

theorem acceptBytes_balanced (wanted : Nat) (options : ReceiveOptions) :
    (acceptBytes wanted options : ChannelAction (Recorded σ) ω Bytes).Obeys Balanced := by
  intro state
  refine (acceptBytes_counts wanted options state).mono ?_
  intro result after hend
  obtain ⟨calls, hcounts, -⟩ := hend
  exact ⟨calls, hcounts⟩

theorem acceptExactly_settled (wanted : Nat) (options : ReceiveOptions) :
    (acceptExactly wanted options : ChannelAction (Recorded σ) ω Bytes).Obeys Settled := by
  rw [acceptExactly_eq]
  intro state
  refine (acceptBytes_counts wanted options.complete state).mono ?_
  intro result after hend
  obtain ⟨calls, hcounts, hfinished⟩ := hend
  exact ⟨calls, hcounts, hfinished rfl⟩

/-! ## Answers -/

/-- An operation that moves nothing and makes no call that could fail. -/
def Harmless (state : Channel (Recorded σ) × Surroundings ω) (failure : Option ChannelError)
    (after : Channel (Recorded σ) × Surroundings ω) : Prop :=
  Still state failure after ∧ failure.any ChannelError.isTransport = false

omit [World ω] [Transport ω σ] in
theorem composes_harmless : Action.Composes (Harmless (σ := σ) (ω := ω)) where
  refl _ := ⟨⟨rfl, fun _ => rfl⟩, rfl⟩
  trans h h' :=
    ⟨⟨h'.1.1.trans h.1.1, fun direction => (h'.1.2 direction).trans (h.1.2 direction)⟩, h'.2⟩

omit [World ω] [Transport ω σ] in
theorem harmless_pure (a : α) : (pure a : ChannelAction (Recorded σ) ω α).Obeys Harmless :=
  fun _ => Action.ensures_pure ⟨⟨rfl, fun _ => rfl⟩, rfl⟩

omit [Transport ω σ] in
theorem record_harmless (direction : Direction) (depth : Nat) (description value : String) :
    (record direction depth description value :
      ChannelAction (Recorded σ) ω Unit).Obeys Harmless := by
  intro state
  refine Action.ensures_change ⟨?_, rfl⟩
  exact record_still direction depth description value state 0 (.ok ()) _ rfl

omit [Transport ω σ] in
theorem decodeText_harmless (bytes : Bytes) :
    (decodeText bytes : ChannelAction (Recorded σ) ω String).Obeys Harmless := by
  unfold decodeText
  cases Text.Utf8.decode bytes with
  | ok text => exact harmless_pure text
  | error fault =>
      intro state
      refine fail_ensures fun e after hroot hsame => ⟨hsame.still, ?_⟩
      exact ChannelError.isTransport_eq_of_root hroot

omit [World ω] [Transport ω σ] in
/-- What moves nothing may follow an operation that counts what it moves. -/
theorem Balanced.followed {x : ChannelAction (Recorded σ) ω α}
    {f : α → ChannelAction (Recorded σ) ω β} (hx : x.Obeys Balanced)
    (hf : ∀ a, (f a).Obeys Harmless) : (x >>= f).Obeys Balanced := by
  refine Action.Obeys.followed hx hf ?_ id
  intro state between after failure hfirst hsecond
  obtain ⟨calls, hcounts⟩ := hfirst
  obtain ⟨⟨hcalls, hcounter⟩, hcause⟩ := hsecond
  have hnothing : ∀ direction, Episode.stranded direction ⟨failure, calls⟩ = 0 := by
    intro direction
    rw [Episode.stranded, Episode.cutShort, hcause]
    rfl
  have hsame : ∀ direction,
      after.1.counter direction + Episode.stranded direction ⟨failure, calls⟩ =
        state.1.counter direction + (moved direction calls).length := by
    intro direction
    rw [hnothing, hcounter direction]
    exact hcounts.counter direction
  exact ⟨calls, hcalls.trans hcounts.calls, hsame⟩

omit [Transport ω σ] in
theorem Balanced.traced {direction : Direction} {depth : Nat} {description : String}
    {shown : α → String} {x : ChannelAction (Recorded σ) ω α} (hx : x.Obeys Balanced) :
    (traced direction depth description shown x).Obeys Balanced :=
  Balanced.followed hx fun value =>
    Action.Obeys.bind composes_harmless (record_harmless _ _ _ _) fun _ => harmless_pure value

omit [World ω] [Transport ω σ] in
theorem Balanced.map {x : ChannelAction (Recorded σ) ω α} (f : α → β) (hx : x.Obeys Balanced) :
    (do return f (← x) : ChannelAction (Recorded σ) ω β).Obeys Balanced :=
  Balanced.followed hx fun value => harmless_pure (f value)

/-! ## Every operation -/

/-- One datagram is one receive that need not be complete. -/
theorem acceptTerminatedDatagram_balanced (terminator : Bytes) (options : ReceiveOptions) :
    (acceptTerminatedDatagram terminator options :
      ChannelAction (Recorded σ) ω Bytes).Obeys Balanced := by
  intro state
  refine Action.ensures_see_bind ?_
  refine Balanced.followed (acceptBytes_balanced _ _) (fun datagram => ?_) state
  cases Bytes.indexOf? terminator datagram with
  | some length => exact harmless_pure _
  | none =>
      intro between
      refine fail_ensures fun e after hroot hsame => ⟨hsame.still, ?_⟩
      exact ChannelError.isTransport_eq_of_root hroot

theorem acceptTerminatedBytes_balanced (terminator : Bytes) (options : ReceiveOptions) :
    (acceptTerminatedBytes terminator options :
      ChannelAction (Recorded σ) ω Bytes).Obeys Balanced := by
  unfold acceptTerminatedBytes
  by_cases hempty : terminator.isEmpty = true
  · rw [if_pos hempty]
    exact (parts_settled.fail _ rfl).mono Settled.balanced
  · rw [if_neg hempty]
    intro state
    refine Action.ensures_see_bind ?_
    have hstream := parts_settled.acceptTerminatedStream (σ := Recorded σ) (ω := ω)
      acceptExactly_settled terminator options
    cases Transport.kind ω state.1.transport with
    | datagram => exact acceptTerminatedDatagram_balanced terminator options state
    | stream | pipe => exact hstream.mono Settled.balanced state

theorem acceptTerminated_balanced (terminator : String) (options : ReceiveOptions) :
    (acceptTerminated terminator options :
      ChannelAction (Recorded σ) ω String).Obeys Balanced :=
  Balanced.followed (acceptTerminatedBytes_balanced _ options) decodeText_harmless

theorem accept_balanced (kind : PrimitiveKind) (options : ReceiveOptions) :
    (accept kind options : ChannelAction (Recorded σ) ω (Primitive kind)).Obeys Balanced :=
  (parts_settled.accept acceptExactly_settled kind options).mono Settled.balanced

theorem acceptArray_balanced (kind : PrimitiveKind) (count : Nat) (options : ReceiveOptions) :
    (acceptArray kind count options :
      ChannelAction (Recorded σ) ω (List (Primitive kind))).Obeys Balanced :=
  (parts_settled.acceptSlots acceptExactly_settled count options _).mono Settled.balanced

theorem acceptString_balanced (options : ReceiveOptions) :
    (acceptString options : ChannelAction (Recorded σ) ω (Option String)).Obeys Balanced :=
  (parts_settled.acceptString acceptExactly_settled options).mono Settled.balanced

theorem acceptStringArray_balanced (options : ReceiveOptions) :
    (acceptStringArray options :
      ChannelAction (Recorded σ) ω (List (Option String))).Obeys Balanced :=
  (parts_settled.acceptStringArray acceptExactly_settled options).mono Settled.balanced

/-- An accept counts what it moves. -/
theorem acceptMessage_balanced (options : ReceiveOptions) (request : Request) :
    (acceptMessage options request : ChannelAction (Recorded σ) ω Message).Obeys Balanced := by
  have hexactly := acceptExactly_settled (σ := σ) (ω := ω)
  cases request with
  | primitive kind => exact Balanced.map _ (accept_balanced kind options)
  | array kind count => exact Balanced.map _ (acceptArray_balanced kind count options)
  | slots kind count =>
      exact (parts_settled.acceptSlots hexactly count options _).mono Settled.balanced
  | bytes count => exact Balanced.map _ (acceptBytes_balanced count options)
  | string => exact Balanced.map _ (acceptString_balanced options)
  | stringBytes =>
      exact Balanced.map _
        ((parts_settled.acceptStringBytes hexactly options).mono Settled.balanced)
  | strings => exact Balanced.map _ (acceptStringArray_balanced options)
  | terminated terminator => exact Balanced.map _ (acceptTerminated_balanced terminator options)
  | terminatedBytes terminator =>
      exact Balanced.map _ (acceptTerminatedBytes_balanced terminator options)

theorem acceptMessageTraced_balanced (depth : Nat) (description : String)
    (options : ReceiveOptions) (request : Request) :
    (acceptMessageTraced depth description options request :
      ChannelAction (Recorded σ) ω Message).Obeys Balanced := by
  cases request with
  | primitive kind => exact Balanced.map _ (Balanced.traced (accept_balanced kind options))
  | array kind count =>
      exact Balanced.map _ (Balanced.traced (acceptArray_balanced kind count options))
  | bytes count => exact Balanced.map _ (Balanced.traced (acceptBytes_balanced count options))
  | string => exact Balanced.map _ (Balanced.traced (acceptString_balanced options))
  | strings => exact Balanced.map _ (Balanced.traced (acceptStringArray_balanced options))
  | terminated terminator =>
      exact Balanced.map _ (Balanced.traced (acceptTerminated_balanced terminator options))
  | slots kind count => exact acceptMessage_balanced options (.slots kind count)
  | stringBytes => exact acceptMessage_balanced options .stringBytes
  | terminatedBytes terminator =>
      exact acceptMessage_balanced options (.terminatedBytes terminator)

omit [Transport ω σ] in
/-- A call that moves nothing has nothing to count. -/
theorem call_balanced {call : Except TransportError α → TransportCall}
    {x : Action (σ × ω) TransportError α}
    (hmoved : ∀ direction result, (call result).moved direction = []) :
    (onTransport (Recorded.recording call x) >>= orFail :
      ChannelAction (Recorded σ) ω α).Obeys Balanced := by
  intro state
  have hcounts : ∀ (failure : Option ChannelError) (result : Except TransportError α)
      (calls : List TransportCall) (after : Channel (Recorded σ) × Surroundings ω),
      Called state.1 calls after.1 → calls = [call result] → Balanced state failure after := by
    intro failure result calls after hcalled hone
    obtain ⟨transport, _, _, hafter, hcalls⟩ := hcalled
    subst hone
    refine ⟨[call result], by rw [hafter]; exact hcalls, fun direction => ?_⟩
    have hnone : (moved direction [call result]).length = 0 := by simp [hmoved]
    have hstranded : Episode.stranded direction ⟨failure, [call result]⟩ ≤ _ :=
      Episode.stranded_le _
    simp only [hnone] at hstranded ⊢
    rw [Nat.le_zero.mp hstranded, hafter]
    cases direction <;> rfl
  have hcall : (Recorded.recording call x).Ensures (state.1.transport, state.2.world)
      fun result after => ∃ calls, after.1.calls = state.1.transport.calls ++ calls ∧
        calls = [call result] :=
    (Recorded.recording_calls call x).mono fun result _ h => ⟨[call result], h, rfl⟩
  exact call_ensures hcall (fun a => hcounts none (.ok a))
    fun e cause calls after hcalled _ => hcounts (some e) (.error cause) calls after hcalled

/-! ## Histories -/

/-- Every operation counts what it moves and does not strand, however it ends. -/
theorem Operation.perform_balanced (operation : Operation) :
    (operation.perform : ChannelAction (Recorded σ) ω Unit).Obeys Balanced := by
  cases operation with
  | send message =>
      exact (parts_settled.sendMessage sendBytes_settled message).mono Settled.balanced
  | sendTraced depth description message =>
      exact (parts_settled.sendMessageTraced sendBytes_settled depth description message).mono
        Settled.balanced
  | accept options request => exact Balanced.map _ (acceptMessage_balanced options request)
  | acceptTraced depth description options request =>
      exact Balanced.map _ (acceptMessageTraced_balanced depth description options request)
  | ready timeout =>
      exact Balanced.map _ (call_balanced fun direction _ => by cases direction <;> rfl)
  | flush => exact call_balanced fun direction _ => by cases direction <;> rfl

/-- The states that operations on a fresh channel lead to, with an account of each of them.  Each
may end well or not, and between two of them the channel may be given other settings and the world
may become any other. -/
inductive History : Channel (Recorded σ) × Surroundings ω → List Episode → Prop
  | opened (transport : σ) (role : Role) (config : ChannelConfig) (around : Surroundings ω) :
      History (Channel.opened ⟨transport, []⟩ role config, around) []
  | ran {state after : Channel (Recorded σ) × Surroundings ω} {episodes : List Episode}
      {calls : List TransportCall} {result : Except ChannelError Unit} (patience : Nat)
      (operation : Operation) (before : History state episodes)
      (run : operation.perform patience state = some (result, after))
      (made : after.1.transport.calls = state.1.transport.calls ++ calls) :
      History after (episodes ++ [⟨failure? result, calls⟩])
  | elsewhere {channel : Channel (Recorded σ)} {around : Surroundings ω} {episodes : List Episode}
      (config : ChannelConfig) (around' : Surroundings ω)
      (before : History (channel, around) episodes) :
      History ({ channel with config }, around') episodes

/-- All bytes that a sequence of operations has stranded. -/
def strandedIn (direction : Direction) (episodes : List Episode) : Nat :=
  (episodes.map (Episode.stranded direction)).sum

/-- A counter and what was stranded make up all bytes that have moved. -/
theorem History.balance {state : Channel (Recorded σ) × Surroundings ω} {episodes : List Episode}
    (h : History state episodes) (direction : Direction) :
    state.1.counter direction + strandedIn direction episodes =
      (moved direction state.1.transport.calls).length := by
  induction h with
  | opened transport role config around => cases direction <;> rfl
  | @ran state after episodes calls result patience operation before run made ih =>
      obtain ⟨calls', hcounts⟩ := operation.perform_balanced state patience result after run
      have hcalls : calls' = calls := List.append_cancel_left (hcounts.calls.symm.trans made)
      subst hcalls
      have hcounter := hcounts.counter direction
      rw [made, moved_append, List.length_append, ← ih]
      simp only [strandedIn, List.map_append, List.sum_append] at ih ⊢
      simp at hcounter ⊢
      omega
  | elsewhere config around' before ih =>
      rw [← ih]
      cases direction <;> rfl

/-- A counter tells all bytes that have moved exactly if no operation has stranded any: if none was
cut short by the transport in the middle of a request.  It falls short by those that were
stranded, and never goes back. -/
theorem History.counters {state : Channel (Recorded σ) × Surroundings ω} {episodes : List Episode}
    (h : History state episodes) (direction : Direction) :
    (state.1.counter direction = (moved direction state.1.transport.calls).length ↔
      ∀ episode ∈ episodes, episode.stranded direction = 0) ∧
    state.1.counter direction + strandedIn direction episodes =
      (moved direction state.1.transport.calls).length ∧
    ∀ operation : Operation, (operation.perform : ChannelAction (Recorded σ) ω Unit).Ensures state
      fun _ after => state.1.counter direction ≤ after.1.counter direction := by
  have hbalance := h.balance direction
  have hexact : state.1.counter direction = (moved direction state.1.transport.calls).length ↔
      ∀ episode ∈ episodes, episode.stranded direction = 0 := by
    have hnone : strandedIn direction episodes = 0 ↔
        ∀ episode ∈ episodes, episode.stranded direction = 0 := by
      simp [strandedIn, List.sum_eq_zero_iff_forall_eq_nat]
    rw [← hnone]
    omega
  refine ⟨hexact, hbalance, fun operation => ?_⟩
  exact (operation.perform_balanced state).mono fun _ _ hend => hend.counter_le direction

/-- One number goes out, in two pieces, and a second one breaks off after three bytes: seven have
moved, four are counted and three are stranded. -/
theorem counters_broken_off : ∃ (state : Channel (Recorded Handle) × Surroundings Host)
    (episodes : List Episode), History state episodes ∧ state.1.counter .sent = 4 ∧
      strandedIn .sent episodes = 3 ∧
      state.1.counter .sent + strandedIn .sent episodes =
        (moved .sent state.1.transport.calls).length := by
  have hopened : History (overLink 16, Surroundings.withLink
      { writes := [.atMost 1, .atMost 3, .atMost 3, .closed] }) [] := .opened _ _ _ _
  have hfirst := History.ran 3 (.send (.primitive .int32 (.ofInt .int32 7))) hopened rfl rfl
  have hsecond := History.ran 3 (.send (.primitive .int32 (.ofInt .int32 9))) hfirst rfl rfl
  exact ⟨_, _, hsecond, rfl, rfl, (hsecond.counters .sent).2.1⟩

/-- A number breaks off after two bytes, and another one is awaited of which only two come: both
have moved, and neither counter has. -/
theorem counters_fall_short : ∃ (state : Channel (Recorded Handle) × Surroundings Host)
    (episodes : List Episode), History state episodes ∧ ∀ direction,
      (moved direction state.1.transport.calls).length = 2 ∧ state.1.counter direction = 0 := by
  have hopened : History (overLink 16, Surroundings.withLink
      { stream := [1, 2], writes := [.atMost 2, .failed (.ofErrno .brokenPipe)] }) [] :=
    .opened _ _ _ _
  have hsent := History.ran 3 (.send (.primitive .int32 (.ofInt .int32 7))) hopened rfl rfl
  have hasked := History.ran 3 (.accept .blocking (.primitive .int32)) hsent rfl rfl
  exact ⟨_, _, hasked, fun direction => by cases direction <;> exact ⟨rfl, rfl⟩⟩

end Channel

end TypedChannel
