import TypedChannel.Proofs.Channel.Parts
import TypedChannel.Proofs.Transport.Incoming
/-!
# TypedChannel.Proofs.Channel.FullReads

A receive of a fixed size is never short.

What a receive makes of the answers of a transport is that of its calls
(`Gathered`), and one that need be complete does not end well before all of it
is there.  So the error for a read that falls short is there for nothing: no
part of an operation comes upon it, and so none of the operations does
(`Operation.perform_enough`).
-/

namespace TypedChannel

open TypedChannel.Action

/-- Whether an error, or the one that it wraps, says that a read fell short. -/
def ChannelError.fallsShort (e : ChannelError) : Bool :=
  match e.root with
  | shortRead _ _ => true
  | _ => false

theorem ChannelError.fallsShort_of_arises {e : ChannelError} (h : e.arises = true) :
    e.fallsShort = false := by
  cases e with
  | shortRead _ _ | fatal _ => contradiction
  | _ => rfl

theorem ChannelError.fallsShort_of_root {e e' : ChannelError} (h : e.root = e'.root) :
    e.fallsShort = e'.fallsShort := by
  unfold fallsShort
  rw [h]

namespace Channel

variable {σ ω α : Type} [World ω]

/-- If an operation has failed, then not because a read fell short. -/
def Enough (_ : Channel σ × Surroundings ω) (failure : Option ChannelError)
    (_ : Channel σ × Surroundings ω) : Prop :=
  failure.any ChannelError.fallsShort = false

theorem fail_enough {e : ChannelError} (arises : e.arises = true) :
    (fail e : ChannelAction σ ω α).Obeys Enough := by
  intro state
  refine fail_ensures fun e' after hroot _ => ?_
  show e'.fallsShort = false
  rw [ChannelError.fallsShort_of_root hroot, ChannelError.fallsShort_of_arises arises]

theorem parts_enough : Parts (Enough (σ := σ) (ω := ω)) where
  composes := ⟨fun _ => rfl, fun _ h => h⟩
  fail _ _ arises := fail_enough arises
  inWorld _ _ _ := Action.ensures_step rfl
  record _ _ _ _ _ := Action.ensures_change rfl

theorem call_enough (x : Action (σ × ω) TransportError α) :
    (onTransport x >>= orFail : ChannelAction σ ω α).Obeys Enough :=
  parts_enough.call fun _ _ _ _ _ => rfl

variable [Transport ω σ]

/-- No operation fails because a read fell short. -/
theorem Operation.perform_enough (operation : Operation) :
    (operation.perform : ChannelAction σ ω Unit).Obeys Enough := by
  have hsend : ∀ bytes, (sendBytes bytes : ChannelAction σ ω Unit).Obeys Enough :=
    parts_enough.ofTransmit (fun _ => call_enough _) fun _ _ => Action.ensures_change rfl
  have haccept : ∀ wanted options,
      (acceptBytes wanted options : ChannelAction σ ω Bytes).Obeys Enough :=
    parts_enough.ofReceive (fun _ _ _ => call_enough _) fun _ _ => Action.ensures_change rfl
  cases operation with
  | send message => exact parts_enough.sendMessage hsend message
  | sendTraced depth description message =>
      exact parts_enough.sendMessageTraced hsend depth description message
  | accept options request =>
      exact parts_enough.bind (parts_enough.acceptMessage haccept options request)
        fun _ => parts_enough.pure ()
  | acceptTraced depth description options request =>
      exact parts_enough.bind
        (parts_enough.acceptMessageTraced haccept depth description options request)
        fun _ => parts_enough.pure ()
  | ready timeout => exact parts_enough.bind (call_enough _) fun _ => parts_enough.pure ()
  | flush => exact call_enough _

end Channel

/-! ## Every sequence of answers -/

section Loop

variable {ω σ : Type} [World ω] [Transport ω σ]

/-- After any number of rounds a receive has what its reads have given, and its calls so far are
the beginning of some that end well.  When it ends, its calls and its result go together.  From an
inlet it does end.  And no operation on a channel over the transport fails with a short read. -/
theorem receive_faithful (wanted : Nat) (timeout : Option Duration) (everything : Bool)
    (state : Recorded σ × ω) :
    (∀ deadline n got between,
      Continues (Transport.receiveRound wanted timeout everything deadline) n [] state got
        between →
      ∃ calls, between.1.calls = state.1.calls ++ calls ∧ got = taken calls ∧
        ∃ more bytes, Gathered wanted timeout everything (calls ++ more) (.ok bytes)) ∧
    ((Transport.receive wanted timeout everything :
        Action (Recorded σ × ω) TransportError Bytes).Ensures state fun result after =>
      ∃ calls, after.1.calls = state.1.calls ++ calls ∧
        Gathered wanted timeout everything calls result) ∧
    (∀ inlet : Inlet ω σ, inlet.Ready (state.1.inner, state.2) → ∃ result after calls,
      (Transport.receive wanted timeout everything :
        Action (Recorded σ × ω) TransportError Bytes).Returns state result after ∧
        after.1.calls = state.1.calls ++ calls ∧
        Gathered wanted timeout everything calls result) ∧
    ∀ (operation : Channel.Operation) (state : Channel σ × Surroundings ω),
      (operation.perform : ChannelAction σ ω Unit).Ensures state fun result _ =>
        ∀ e, result = .error e → ∀ wanted got, e.root ≠ .shortRead wanted got := by
  have hends : (Transport.receive wanted timeout everything :
      Action (Recorded σ × ω) TransportError Bytes).Ensures state fun result after =>
        ∃ calls, after.1.calls = state.1.calls ++ calls ∧
          Gathered wanted timeout everything calls result := by
    refine (Transport.receive_ensures state).mono ?_
    rintro result after ⟨calls, hcalls, hall⟩
    exact ⟨calls, hcalls, hall.gathered⟩
  refine ⟨?_, hends, ?_, ?_⟩
  · intro deadline n got between hrounds
    obtain ⟨calls, hcalls, hso⟩ := Transport.receive_continues hrounds
    exact ⟨calls, hcalls, hso.gathered⟩
  · intro inlet hready
    obtain ⟨result, after, hreturns⟩ :=
      inlet.recorded.receive_returns wanted timeout everything hready
    obtain ⟨calls, hcalls, hall⟩ := hends.of_returns hreturns
    exact ⟨result, after, calls, hreturns, hcalls, hall⟩
  · intro operation state
    refine (operation.perform_enough state).mono ?_
    rintro result after henough e rfl wanted got hroot
    have hshort : e.fallsShort = true := by
      unfold ChannelError.fallsShort
      rw [hroot]
    rw [show e.fallsShort = false from henough] at hshort
    contradiction

end Loop

/-- A link whose first read gives nothing, whose second is interrupted and whose third gives one
byte; then its check runs out. -/
def Link.faltering : Link where
  stream := [7, 8, 9, 10]
  reads := [.atMost 0, .failed (.ofErrno .interrupted), .atMost 1]
  polls := [.ready true, .ready true, .ready true, .ready false]

/-- Of four bytes that are wanted of it one has come when the receive ends. -/
theorem receive_faithful_faltering : ∃ after,
    (Transport.receive 4 (some (.ofMillis 5)) true :
      Action (Recorded Handle × Host) TransportError Bytes).Returns
        (⟨.link 0 .stream, []⟩, { links := [Link.faltering] })
        (.error (.timeout (.ofMillis 5) 4 1)) after ∧
      taken after.1.calls = [7] ∧
      Gathered 4 (some (.ofMillis 5)) true after.1.calls
        (.error (.timeout (.ofMillis 5) 4 1)) := by
  obtain ⟨result, after, calls, hreturns, hcalls, hall⟩ :=
    (receive_faithful 4 (some (.ofMillis 5)) true
      (⟨.link 0 .stream, []⟩, { links := [Link.faltering] })).2.2.1
      (Link.inlet 0) ⟨⟨_, rfl⟩, _, rfl, nofun⟩
  have hend : result = .error (.timeout (.ofMillis 5) 4 1) ∧ taken after.1.calls = [7] := by
    obtain ⟨enough, hrun⟩ := hreturns
    cases hrun (enough + 4) (Nat.le_add_right enough 4)
    exact ⟨rfl, rfl⟩
  rw [List.nil_append] at hcalls
  subst hcalls
  obtain ⟨rfl, htaken⟩ := hend
  exact ⟨after, hreturns, htaken, hall⟩

end TypedChannel
