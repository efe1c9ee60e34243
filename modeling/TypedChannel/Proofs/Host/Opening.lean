import TypedChannel.Proofs.Host.Capacity
import TypedChannel.Proofs.Host.Environment
import TypedChannel.Transport.Listener
import TypedChannel.Transport.Pipe
/-!
# TypedChannel.Proofs.Host.Opening

Which moves go with opening and closing something.

1. The system calls and the waits spare the environment, and so does all that is
   done with a socket before it is a handle.
2. A connect and a bind take hold at first, and let go if they fail
   (`Socket.connectAddress_makes`, `SocketListener.bind_makes`); an accept and a
   pipe take hold once nothing can fail any more (`SocketListener.accept_makes`,
   `PipePair.create_makes`).
3. What goes lets go once (`Handle.shifts_release`,
   `SocketListener.acceptOnce_makes`).
-/

namespace TypedChannel

open TypedChannel.Action

/-! ## What the host does -/

namespace Host

theorem check_spares (call : SystemCall) : (check call).Spares := by
  intro host
  refine (check_settles call host).ensures.mono ?_
  rintro result after ⟨faults, rfl⟩
  exact ⟨shifts_nil rfl rfl, fun _ _ => trivial⟩

theorem openDescriptor_spares : openDescriptor.Spares := by
  intro host patience result after hrun
  unfold openDescriptor at hrun
  dsimp only at hrun
  split at hrun
  · cases hrun
    exact ⟨shifts_nil rfl rfl, fun _ _ => trivial⟩
  · cases hrun
    exact ⟨shifts_nil rfl rfl, fun _ _ => trivial⟩

theorem shifts_closeDescriptor (descriptor : Nat) (host : Host) :
    Shifts [] host (host.closeDescriptor descriptor) := shifts_nil rfl rfl

theorem recordLimits_spares : recordLimits.Spares := by
  refine (spares_see _).then fun recorded => ?_
  cases recorded with
  | some limits => exact spares_pure trivial
  | none =>
      refine ((check_spares .getLimits).then fun _ => spares_see _).mapError.then fun limits => ?_
      exact spares_change_bind (fun _ => shifts_nil rfl rfl) (spares_pure trivial)

theorem setLimits_spares (limits : Limits) : (setLimits limits).Spares :=
  (check_spares .setLimits).then fun _ => spares_change fun _ => shifts_nil rfl rfl

theorem ensureCapacity_spares (descriptor : Int) : (ensureCapacity descriptor).Spares := by
  refine recordLimits_spares.then fun limits => ?_
  cases hraise : limits.raiseFor? descriptor with
  | none =>
      dsimp only
      split
      · exact spares_change (shifts_note (by simp))
      · exact spares_pure trivial
  | some target =>
      dsimp only
      refine (setLimits_spares _).attempt_bind fun result => ?_
      cases result with
      | error e =>
          exact spares_change_bind (shifts_note (by simp)) (spares_fail _)
      | ok _ =>
          refine spares_change_bind (shifts_note (by simp)) ?_
          exact spares_change fun _ => shifts_nil rfl rfl

end Host

namespace HostWorld

variable {ω ε : Type} [HostWorld ω] [Discreet ω]

theorem await_spares (ready : Host → Bool) : (await ready : Action ω ε Unit).Spares :=
  (Discreet.rest ready none).mapError.then fun _ => spares_pure trivial

theorem poll_spares (ready : Host → Bool) (millis : Nat) :
    (poll ready millis : Action ω IoError _).Spares := by
  refine (Host.check_spares .poll).onHost.then fun _ => ?_
  refine (Discreet.rest ready _).mapError.then fun answer => ?_
  cases answer with
  | true | false => exact spares_pure trivial

theorem waitReady_spares (ready : Host → Bool) (timeout : Option Duration) :
    (waitReady ready timeout : Action ω IoError Bool).Spares := by
  cases timeout with
  | none => exact spares_pure trivial
  | some limit =>
      refine spares_step_bind (fun world => Discreet.look world) fun deadline => ?_
      have hremaining : ∀ world : ω,
          Host.Shifts [] (host world) (host (deadline.remainingNow world).2) := by
        intro world
        unfold Deadline.remainingNow
        cases deadline.at? with
        | none => exact Host.shifts_nil rfl rfl
        | some _ => exact Discreet.look world
      refine Spares.iterate (fun _ => spares_step_bind hremaining fun left => ?_) ()
      refine (poll_spares ready _).attempt_bind fun result => ?_
      cases result with
      | error e =>
          dsimp only
          split
          · exact spares_pure trivial
          · exact spares_fail _
      | ok found =>
          cases found with
          | idle | ready => exact spares_pure trivial
          | invalid => exact spares_fail _

end HostWorld

/-! ## Sockets -/

/-- Whether a handle has a descriptor, and so holds the environment. -/
def Handle.Held (handle : Handle) : Prop := handle.descriptor?.isSome = true

namespace Socket

variable {ω α ε : Type} [HostWorld ω] [Discreet ω] {P : α → Prop}

theorem note_spares {event : Log.Event} (h : event.origin ≠ .environment) :
    (note event : Action ω ε Unit).Spares :=
  spares_change fun world => Discreet.note event world h

theorem lookup_spares (name : String) : (lookup name).Spares := by
  unfold lookup
  split
  · exact spares_fail_bind _ _
  · refine (spares_see _).then fun names => ?_
    split
    · exact spares_fail _
    · exact spares_fail _
    · exact spares_pure trivial

theorem resolve_spares (name : String) (port : UInt16) :
    (resolve name port : Action ω TransportError SocketAddress).Spares := by
  unfold resolve
  cases IpAddress.parse? name with
  | some ip => exact spares_pure trivial
  | none => exact (lookup_spares name).onHost.mapError.then fun ip => spares_pure trivial

theorem holding_spares {descriptor : Nat} {x : Action ω ε α} (hx : x.Spares P) :
    (holding descriptor x).Spares P :=
  hx.undoing (shifts_setHost (Host.shifts_closeDescriptor descriptor))

theorem withSocket_spares {wrap : IoError → TransportError}
    {next : Nat → Action ω TransportError α} (hnext : ∀ descriptor, (next descriptor).Spares P) :
    (withSocket wrap next).Spares P := by
  have hopen : (do Host.check .socket; Host.openDescriptor).Spares :=
    (Host.check_spares .socket).then fun _ => Host.openDescriptor_spares
  refine hopen.onHost.mapError.then fun descriptor => holding_spares ?_
  exact (Host.ensureCapacity_spares descriptor).onHost.then fun _ => hnext descriptor

theorem bindAddress_spares (kind : SocketKind) (address : SocketAddress) :
    (bindAddress kind address).Spares := by
  refine (Host.check_spares .bind).then fun _ => (spares_see _).then fun network => ?_
  refine spares_unless _ (spares_step_bind (fun _ => Host.shifts_nil rfl rfl) fun port => ?_)
  exact spares_unless _ (spares_pure trivial)

theorem attemptOnHost_spares (address : SocketAddress) : (attemptOnHost address).Spares :=
  (Host.check_spares .connect).then fun _ => spares_step fun _ => Host.shifts_nil rfl rfl

theorem connectWaiting_spares (address : SocketAddress) :
    (connectWaiting address : Action ω IoError Nat).Spares := by
  refine (attemptOnHost_spares address).onHost.then fun attempt => ?_
  cases attempt with
  | established stream => exact spares_pure trivial
  | refused errno => exact spares_fail _
  | unanswered =>
      dsimp only
      split
      · exact spares_fail _
      · exact spares_never

theorem pollUnderWay_spares : (pollUnderWay : Action ω IoError Bool).Spares := by
  refine (Host.check_spares .poll).onHost.attempt_bind fun result => ?_
  cases result with
  | ok _ => exact spares_pure trivial
  | error e =>
      dsimp only
      split
      · exact spares_pure trivial
      · exact spares_fail _

theorem pendingRound_spares (timeout : Duration) (start : Instant) (attempt : Option Attempt) :
    (pendingRound timeout start attempt () : Action ω IoError _).Spares := by
  refine spares_step_bind (fun world => Discreet.look world) fun now => ?_
  cases attempt with
  | none => exact spares_unless _ (spares_fail _)
  | some attempt =>
      cases attempt with
      | established stream => exact spares_unless _ (spares_pure trivial)
      | refused errno =>
          refine spares_unless _ (pollUnderWay_spares.then fun found => ?_)
          cases found with
          | true => exact spares_fail _
          | false => exact spares_pure trivial
      | unanswered =>
          refine spares_unless _ (pollUnderWay_spares.then fun found => ?_)
          cases found with
          | true => exact (Discreet.rest _ _).mapError.then fun _ => spares_fail _
          | false => exact spares_pure trivial

theorem startConnecting_spares (address : SocketAddress) : (startConnecting address).Spares := by
  refine (attemptOnHost_spares address).attempt_bind fun result => ?_
  cases result with
  | ok attempt => exact spares_pure trivial
  | error e =>
      dsimp only
      split
      · exact spares_pure trivial
      · exact spares_fail _

theorem shifts_abandon (attempt : Option Attempt) (host : Host) :
    Host.Shifts [] host (abandon attempt host) := by
  unfold abandon
  split <;> exact Host.shifts_nil rfl rfl

theorem connectWithin_spares (address : SocketAddress) (timeout : Duration) :
    (connectWithin address timeout : Action ω IoError Nat).Spares := by
  refine (startConnecting_spares address).onHost.then fun attempt => ?_
  split
  · exact spares_fail _
  · refine spares_step_bind (fun world => Discreet.look world) fun start => ?_
    refine Spares.undoing ?_ (shifts_setHost (shifts_abandon _))
    refine Spares.iterate (fun _ => ?_) ()
    exact (pendingRound_spares timeout start _).mono fun round _ => by cases round <;> trivial

theorem connectStream_spares (address : SocketAddress) (timeout : Option Duration) :
    (connectStream address timeout : Action ω TransportError Handle).Spares
      Handle.Held := by
  refine withSocket_spares fun descriptor => ?_
  have hend : ∀ stream : Nat, (do
      note { level := .debug, origin := .sockets, message := "connected stream socket",
             fields := [("addr", .shown address.text), ("fd", .number descriptor)] }
      return .stream stream .client descriptor : Action ω TransportError Handle).Spares
        Handle.Held :=
    fun stream => (note_spares (by simp)).then fun _ => spares_pure rfl
  cases timeout with
  | none => exact (connectWaiting_spares address).mapError.then hend
  | some limit => exact (connectWithin_spares address limit).mapError.then hend

theorem connectDatagram_spares (address : SocketAddress) :
    (connectDatagram address : Action ω TransportError Handle).Spares
      Handle.Held := by
  refine withSocket_spares fun descriptor => ?_
  refine (bindAddress_spares _ _).onHost.mapError.then fun bound => ?_
  refine (note_spares (by simp)).then fun _ => ?_
  refine (spares_step fun _ => Host.shifts_nil rfl rfl).onHost.then fun number => ?_
  exact spares_pure rfl

end Socket

/-! ## Opening and closing -/

open Environment (Move)

variable {ω α ε : Type} [HostWorld ω] [Discreet ω]

theorem Handle.shifts_release {handle : Handle} (h : handle.Held) (host : Host) :
    Host.Shifts [.release] host (handle.release host) := by
  cases handle with
  | link number kind => contradiction
  | pipe _ _ _ | stream _ _ _ | datagram _ _ _ _ =>
      exact (Host.shifts_release _).of_same rfl rfl

namespace Socket

theorem note_bind_makes {event : Log.Event} {f : Unit → Action ω ε α}
    {R : Except ε α → List Move → Prop} (h : event.origin ≠ .environment) (hf : (f ()).Makes R) :
    (note event >>= f).Makes R := by
  intro world patience result after hrun
  obtain ⟨moves, hmoves, hafter⟩ := hf _ patience result after hrun
  exact ⟨moves, hmoves, (Discreet.note event world h).trans hafter⟩

theorem holdingEnvironment_makes {P : α → Prop} {x : Action ω ε α} (hx : x.Spares P) :
    (holdingEnvironment x).Makes (Ending P [.acquire] [[.acquire, .release]]) := by
  refine makes_change_bind Host.shifts_acquire fun world => Ensures.undoing ((hx world).mono ?_)
  rintro (e | a) after ⟨hafter, hgiven⟩
  · exact ⟨[.release], List.mem_singleton_self _,
      hafter.trans (shifts_setHost Host.shifts_release after)⟩
  · exact ⟨[], ⟨hgiven a rfl, rfl⟩, hafter⟩

theorem connectAddress_makes (address : SocketAddress) (kind : SocketKind)
    (timeout : Option Duration) :
    (connectAddress address kind timeout : Action ω TransportError Handle).Makes
      (Ending Handle.Held [.acquire] [[.acquire, .release]]) := by
  refine holdingEnvironment_makes ?_
  cases kind with
  | stream => exact connectStream_spares address timeout
  | datagram => exact connectDatagram_spares address

/-- A name that is not found is not connected to. -/
theorem connect_makes (name : String) (port : UInt16) (kind : SocketKind)
    (timeout : Option Duration) :
    (connect name port kind timeout : Action ω TransportError Handle).Makes
      (Ending Handle.Held [.acquire] [[], [.acquire, .release]]) := by
  refine (resolve_spares name port).bind_makes (fun address => ?_) fun _ => List.mem_cons_self
  refine (connectAddress_makes address kind timeout).mono ?_
  rintro (e | handle) moves hmoves
  · exact List.mem_cons_of_mem _ hmoves
  · exact hmoves

end Socket

namespace SocketListener

theorem bind_makes (kind : SocketKind) (address : SocketAddress) :
    (bind kind address : Action ω TransportError SocketListener).Makes
      (Ending (fun _ => True) [.acquire] [[.acquire, .release]]) := by
  refine Socket.holdingEnvironment_makes (Socket.withSocket_spares fun descriptor => ?_)
  refine Spares.then (Spares.onHost (Spares.mapError ?_)) fun bound => ?_
  · refine (Host.check_spares _).then fun _ => (Socket.bindAddress_spares kind address).then
      fun bound => ?_
    have hend : (do Host.check .localAddress; return bound : Action Host IoError _).Spares :=
      (Host.check_spares _).then fun _ => spares_pure trivial
    split
    · exact (Host.check_spares _).then fun _ => hend
    · exact hend
  · refine (Spares.onHost (spares_step fun host => ?_)).then fun number => ?_
    · cases kind with
      | stream | datagram => exact Host.shifts_nil rfl rfl
    · exact (Socket.note_spares (by simp)).then fun _ => spares_pure trivial

theorem acceptStream_spares (listener : SocketListener) : listener.acceptStream.Spares := by
  refine (Host.check_spares _).then fun _ => Host.openDescriptor_spares.then fun descriptor => ?_
  refine spares_step_bind (fun _ => Host.shifts_nil rfl rfl) fun next => ?_
  cases next with
  | some stream => exact spares_pure trivial
  | none => exact spares_never

theorem acceptRound_makes (listener : SocketListener) :
    (acceptRound listener () : Action ω TransportError _).Makes
      (Last (Ending Handle.Held [.acquire] [[]])) := by
  refine (HostWorld.await_spares _).bind_makes (fun _ => ?_) last_unmoved
  have haccept : (HostWorld.onHost listener.acceptStream : Action ω IoError _).Spares :=
    (acceptStream_spares listener).onHost
  refine haccept.makes.attempt_bind ?_
  rintro (e | ⟨stream, descriptor⟩) moves hmoves
  · obtain rfl := List.mem_singleton.mp hmoves
    dsimp only
    split
    · exact makes_pure rfl
    · exact makes_fail (List.mem_singleton_self _)
  · obtain ⟨-, rfl⟩ := hmoves
    have hroom : (HostWorld.onHost (Host.ensureCapacity descriptor) :
        Action ω TransportError Unit).Spares := (Host.ensureCapacity_spares descriptor).onHost
    have hundo : ∀ host : Host, Host.Shifts [] host
        (({ host with network := host.network.changeStream stream (Stream.closeSide .server) } :
          Host).closeDescriptor descriptor) := fun _ => Host.shifts_nil rfl rfl
    refine (hroom.undoing (shifts_setHost hundo)).bind_makes (fun _ => ?_) last_unmoved
    refine (spares_see _).onHost.bind_makes (fun peer => ?_) last_unmoved
    refine Socket.note_bind_makes (by simp) ?_
    exact makes_change_bind Host.shifts_acquire (makes_pure ⟨rfl, rfl⟩)

theorem acceptWithin_makes (listener : SocketListener) (timeout : Option Duration) :
    (acceptWithin listener timeout : Action ω TransportError Handle).Makes
      (Ending Handle.Held [.acquire] [[]]) := by
  refine (HostWorld.waitReady_spares _ timeout).mapError.bind_makes (fun found => ?_) ending_unmoved
  cases found with
  | true => exact Makes.iterate () fun _ => acceptRound_makes listener
  | false => exact makes_fail (List.mem_singleton_self _)

theorem duplicate_makes (listener : SocketListener) :
    (duplicate listener : Action ω TransportError Handle).Makes
      (Ending Handle.Held [.acquire] [[]]) := by
  refine Host.openDescriptor_spares.onHost.mapError.bind_makes (fun descriptor => ?_) ending_unmoved
  refine (Socket.holding_spares (Host.ensureCapacity_spares descriptor).onHost).bind_makes
    (fun _ => ?_) ending_unmoved
  have hacquire : ∀ host : Host, Host.Shifts [.acquire] host
      ({ host with
          network := host.network.changeDatagrams listener.number
            fun d => { d with holders := d.holders + 1 } } : Host).acquireEnvironment :=
    fun host => (Host.shifts_acquire _).of_same rfl rfl
  exact makes_change_bind hacquire (makes_pure ⟨rfl, rfl⟩)

theorem accept_makes (listener : SocketListener) (timeout : Option Duration) :
    (accept listener timeout : Action ω TransportError Handle).Makes
      (Ending Handle.Held [.acquire] [[]]) := by
  unfold accept
  cases listener.kind with
  | stream => exact acceptWithin_makes listener timeout
  | datagram => exact duplicate_makes listener

theorem shifts_release (listener : SocketListener) (host : Host) :
    Host.Shifts [.release] host (listener.release host) :=
  (Host.shifts_release _).of_same rfl rfl

/-- The listener goes, whether there is a handle in its place or not. -/
theorem acceptOnce_makes (listener : SocketListener) (timeout : Option Duration) :
    (acceptOnce listener timeout : Action ω TransportError Handle).Makes
      (Ending Handle.Held [.acquire, .release] [[.release]]) := by
  unfold acceptOnce
  cases listener.kind with
  | stream =>
      refine (acceptWithin_makes listener timeout).attempt_bind ?_
      rintro (e | handle) moves hmoves
      · obtain rfl := List.mem_singleton.mp hmoves
        exact makes_change_bind listener.shifts_release (makes_fail (List.mem_singleton_self _))
      · obtain ⟨hheld, rfl⟩ := hmoves
        refine Socket.note_bind_makes (by simp) ?_
        exact makes_change_bind listener.shifts_release (makes_pure ⟨hheld, rfl⟩)
  | datagram =>
      refine makes_change_bind Host.shifts_acquire (Socket.note_bind_makes (by simp) ?_)
      exact makes_change_bind Host.shifts_release (makes_pure ⟨rfl, rfl⟩)

end SocketListener

namespace PipePair

theorem openDescriptors_spares : openDescriptors.Spares := by
  refine (Host.check_spares _).then fun _ => Host.openDescriptor_spares.then fun reader => ?_
  refine (Host.openDescriptor_spares.undoing (Host.shifts_closeDescriptor reader)).then
    fun writer => ?_
  exact spares_pure trivial

theorem create_makes : (create : Action ω TransportError (Handle × Handle)).Makes
    (Ending (fun ends => ends.1.Held ∧ ends.2.Held) [.acquire, .acquire] [[]]) := by
  refine openDescriptors_spares.onHost.mapError.bind_makes (fun ends => ?_) ending_unmoved
  obtain ⟨reader, writer⟩ := ends
  refine (Socket.holding_spares (Socket.holding_spares
    ((Host.ensureCapacity_spares reader).onHost.then fun _ =>
      (Host.ensureCapacity_spares writer).onHost))).bind_makes (fun _ => ?_) ending_unmoved
  refine Socket.note_bind_makes (by simp) ?_
  have hpipe : ∀ host : Host, Host.Shifts [.acquire, .acquire] host
      ({ host with pipes := host.pipes ++ [{}] } : Host).acquireEnvironment.acquireEnvironment :=
    fun host => ((Host.shifts_acquire _).trans (Host.shifts_acquire _)).of_same rfl rfl
  exact makes_step_bind hpipe fun number => makes_pure ⟨⟨rfl, rfl⟩, rfl⟩

end PipePair

namespace PipeEnd

theorem wrap_makes (pipeEnd : PipeEnd) : (pipeEnd.wrap : Action ω ε Handle).Makes
    (Ending Handle.Held [.acquire] []) :=
  makes_change_bind Host.shifts_acquire (makes_pure ⟨rfl, rfl⟩)

theorem unwrap_makes (pipeEnd : PipeEnd) : (pipeEnd.unwrap : Action ω ε PipeEnd).Makes
    (Ending (fun _ => True) [.release] []) :=
  makes_change_bind Host.shifts_release (makes_pure ⟨trivial, rfl⟩)

end PipeEnd

end TypedChannel
