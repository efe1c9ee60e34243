import TypedChannel.Proofs.Action
import TypedChannel.Transport.Handle
/-!
# TypedChannel.Proofs.Host.Peer

The peer of a transport, which may be another one later.

1. `Addressed` names the peer, and `KeepsPeer` says that no call but a read
   changes it.
2. A handle keeps its peer like that, in any world (`Handle.keepsPeer`).
3. On a host a datagram handle replies (`Handle.Replies`): a read makes the
   sender of the datagram that it takes the peer, and a write carries its bytes
   to the peer.
-/

namespace TypedChannel

/-- Something that has a peer, which may be another one later. -/
class Addressed (σ : Type) where
  peer : σ → Option SocketAddress

/-- Nothing but a read changes the peer. -/
structure KeepsPeer (ω σ : Type) [Addressed σ] [Transport ω σ] : Prop where
  write : ∀ bytes, (Transport.writeRaw bytes : Action (σ × ω) TransportError Nat).Obeys
    fun state _ after => Addressed.peer after.1 = Addressed.peer state.1
  flush : (Transport.flushRaw : Action (σ × ω) TransportError Unit).Obeys
    fun state _ after => Addressed.peer after.1 = Addressed.peer state.1
  close : (Transport.close : Action (σ × ω) Empty Unit).Obeys
    fun state _ after => Addressed.peer after.1 = Addressed.peer state.1

namespace Handle

instance : Addressed Handle where
  peer
    | .datagram _ _ peer _ => peer
    | _ => none

variable {ω α β ε : Type}

/-! ## In any world -/

/-- The handle stays the same. -/
def Stays (state : Handle × ω) (_ : Option ε) (after : Handle × ω) : Prop := after.1 = state.1

theorem stays_composes : Action.Composes (Stays (ω := ω) (ε := ε)) where
  refl _ := rfl
  trans h h' := h'.trans h

theorem outside_stays (x : Action ω ε α) : (outside x).Obeys Stays :=
  fun _ => Action.Ensures.on fun _ _ _ _ => rfl

variable [HostWorld ω]

theorem changeHost_stays (f : Host → α × Host) :
    (changeHost f : Action (Handle × ω) ε α).Obeys Stays :=
  outside_stays _

theorem call_stays (name : SystemCall) : (call name : HandleAction ω Unit).Obeys Stays := by
  intro state
  exact Action.Ensures.mapError ((outside_stays _ state).mono fun _ _ hsame => hsame)

theorem atStream_stays (number : Nat) (absent : α) (f : Stream → α × Stream) :
    (atStream number absent f : Action (Handle × ω) ε α).Obeys Stays := by
  unfold atStream atNetwork
  exact changeHost_stays _

/-- A write leaves the handle as it is, its peer included. -/
theorem write_stays (bytes : Bytes) : (write bytes : HandleAction ω Nat).Obeys Stays := by
  have hR := stays_composes (ω := ω) (ε := TransportError)
  have hfail : ∀ {β : Type} (e : TransportError), (Action.fail e : HandleAction ω β).Obeys Stays :=
    fun _ => Action.obeys_fail fun _ => rfl
  have hpure : ∀ n : Nat, (pure n : HandleAction ω Nat).Obeys Stays := Action.obeys_pure hR
  refine Action.Obeys.bind hR (Action.obeys_see hR _) fun handle => ?_
  cases handle with
  | link number kind =>
      refine Action.Obeys.bind hR (changeHost_stays _) fun result => ?_
      cases result with
      | ok accepted => exact Action.Obeys.bind hR (changeHost_stays _) fun _ => hpure _
      | error stop =>
          cases stop with
          | closed | failed e => exact hfail _
  | pipe number side descriptor =>
      cases side with
      | reader => exact hfail _
      | writer =>
          dsimp only
          split
          · exact hpure 0
          · refine Action.Obeys.bind hR (changeHost_stays _) fun isOpen => ?_
            cases isOpen with
            | true => exact Action.Obeys.bind hR (changeHost_stays _) fun _ => hpure _
            | false => exact hfail _
  | stream number side descriptor =>
      refine Action.Obeys.bind hR (call_stays _) fun _ => ?_
      refine Action.Obeys.bind hR (atStream_stays _ _ _) fun isOpen => ?_
      cases isOpen with
      | true => exact Action.Obeys.bind hR (atStream_stays _ _ _) fun _ => hpure _
      | false => exact hfail _
  | datagram number role peer descriptor =>
      cases peer with
      | none => exact hfail _
      | some peer =>
          refine Action.Obeys.bind hR (call_stays _) fun _ => ?_
          refine Action.Obeys.bind hR (changeHost_stays _) fun reached => ?_
          cases reached with
          | true => exact Action.Obeys.bind hR (changeHost_stays _) fun _ => hpure _
          | false => exact hfail _

theorem keepsPeer : KeepsPeer ω Handle where
  write bytes := (write_stays bytes).mono fun h => congrArg Addressed.peer h
  flush := by
    have hR := stays_composes (ω := ω) (ε := TransportError)
    have hstays : (Transport.flushRaw : HandleAction ω Unit).Obeys Stays := by
      refine Action.Obeys.bind hR (Action.obeys_see hR _) fun handle => ?_
      cases handle with
      | link number kind => exact changeHost_stays _
      | pipe _ _ _ | stream _ _ _ | datagram _ _ _ _ => exact Action.obeys_pure hR ()
    exact hstays.mono fun h => congrArg Addressed.peer h
  close := by
    have hR := stays_composes (ω := ω) (ε := Empty)
    have hstays : (close : Action (Handle × ω) Empty Unit).Obeys Stays :=
      Action.Obeys.bind hR (Action.obeys_see hR _) fun handle => changeHost_stays _
    exact hstays.mono fun h => congrArg Addressed.peer h

/-! ## On a host -/

/-- Neither the handle nor the network changes. -/
def Untouched (state : Handle × Host) (_ : Option ε) (after : Handle × Host) : Prop :=
  after.1 = state.1 ∧ after.2.network = state.2.network

theorem call_untouched (name : SystemCall) :
    (call name : HandleAction Host Unit).Obeys Untouched := by
  intro state
  have hcheck : (Host.check name).Ensures state.2 fun _ after =>
      after.network = state.2.network := by
    intro patience result after hrun
    simp only [Host.check] at hrun
    split at hrun <;> cases hrun <;> rfl
  refine Action.Ensures.mapError (Action.Ensures.on (Action.Ensures.on (hcheck.mono ?_)))
  exact fun _ _ hsame => ⟨rfl, hsame⟩

theorem await_untouched (ready : Host → Bool) :
    (outside (HostWorld.await ready) : HandleAction Host Unit).Obeys Untouched := by
  rintro ⟨handle, host⟩
  have hrest : (HostWorld.rest ready none : Action Host Empty Bool).Ensures host
      fun _ after => after.network = host.network := by
    intro patience result after hrun
    simp only [HostWorld.rest, Host.rest, Option.map_none] at hrun
    split at hrun <;> cases hrun
    rfl
  have hlift : (Action.lift (HostWorld.rest ready none) : Action Host TransportError Bool).Ensures
      host fun _ after => after.network = host.network := Action.Ensures.mapError hrest
  refine Action.Ensures.on (hlift.bind ?_ ?_)
  · exact fun _ _ hsame => Action.ensures_pure ⟨rfl, hsame⟩
  · exact fun _ _ hsame => ⟨rfl, hsame⟩

/-- What follows a look at the network, or a change of it. -/
theorem atNetwork_bind {state : Handle × Host} {f : Network → α × Network}
    {g : α → Action (Handle × Host) ε β} {post : Except ε β → Handle × Host → Prop}
    (h : (g (f state.2.network).1).Ensures
      (state.1, { state.2 with network := (f state.2.network).2 }) post) :
    (atNetwork f >>= g).Ensures state post := h

/-- How a datagram handle finds its peer and writes to it: on a host, whatever stands there. -/
structure Replies (number : Nat) (role : Role) (peer : Option SocketAddress) (descriptor : Nat)
    (host : Host) : Prop where
  /-- A read takes the first datagram that waits, and its sender is the peer from then on. -/
  read : ∀ room, (read room : HandleAction Host Bytes).Ensures
    (.datagram number role peer descriptor, host) fun result after => match result with
      | .ok bytes => ∃ datagram sender,
          (host.network.takeDatagram number).1 = some (datagram, sender) ∧
          bytes = datagram.take room ∧ after.1 = .datagram number role (some sender) descriptor
      | .error _ => after.1 = .datagram number role peer descriptor
  /-- A write carries all its bytes to the peer. -/
  write : ∀ bytes, (write bytes : HandleAction Host Nat).Ensures
    (.datagram number role peer descriptor, host) fun result after => match result with
      | .ok n => n = bytes.length ∧ ∃ address, peer = some address ∧
          after.2.network = host.network.carry number address bytes
      | .error _ => after.2.network = host.network

theorem replies (number : Nat) (role : Role) (peer : Option SocketAddress) (descriptor : Nat)
    (host : Host) : Replies number role peer descriptor host where
  read room := by
    refine Action.ensures_see_bind ?_
    refine (call_untouched _ _).bind ?_ fun _ _ hend => hend.1
    rintro _ ⟨handle, called⟩ ⟨rfl, hcalled⟩
    refine (await_untouched _ _).bind ?_ fun _ _ hend => hend.1
    rintro _ ⟨handle, awaited⟩ ⟨rfl, hawaited⟩
    have hnetwork : awaited.network = host.network := hawaited.trans hcalled
    refine atNetwork_bind ?_
    rw [hnetwork]
    cases (host.network.takeDatagram number).1 with
    | none => exact Action.ensures_fail rfl
    | some first =>
        obtain ⟨datagram, sender⟩ := first
        dsimp only
        split
        · exact Action.ensures_change_bind (Action.ensures_pure ⟨datagram, sender, rfl, rfl, rfl⟩)
        · exact Action.ensures_change_bind (Action.ensures_pure ⟨datagram, sender, rfl, rfl, rfl⟩)
  write bytes := by
    refine Action.ensures_see_bind ?_
    cases peer with
    | none => exact Action.ensures_fail rfl
    | some address =>
        refine (call_untouched _ _).bind ?_ fun _ _ hend => hend.2
        rintro _ ⟨handle, called⟩ ⟨rfl, hcalled⟩
        refine atNetwork_bind ?_
        dsimp only
        split
        · refine atNetwork_bind (Action.ensures_pure ⟨rfl, address, rfl, ?_⟩)
          exact congrArg (Network.carry number address bytes) hcalled
        · exact Action.ensures_fail hcalled

end Handle

end TypedChannel
