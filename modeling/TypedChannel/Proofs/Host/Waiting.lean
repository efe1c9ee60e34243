import TypedChannel.Channel.Receive
import TypedChannel.Proofs.Channel.Parts
import TypedChannel.Proofs.Readiness
import TypedChannel.Transport.Handle
import TypedChannel.Transport.Listener
/-!
# TypedChannel.Proofs.Host.Waiting

How soon a host's pipes, sockets and listeners give up waiting.

All of them wait by polls of whole milliseconds, so what holds of a wait
(`Readiness.wait_ensures`) holds of each: none of them gives up a millisecond
or more before its timeout, as long as that is one that a poll can wait for
and a clock can tell (`HostClock.patience`).
-/

namespace TypedChannel

open TypedChannel.Action TypedChannel.Readiness

/-- The time of a world with a host in it.  What changes the host but not its clock does not turn it
back, and a rest that does not end with what it waits for lasts as long as it may. -/
structure HostClock (ω : Type) [HostWorld ω] extends Clock ω where
  setHost : ∀ {host : Host} {world : ω}, host.clock = (HostWorld.host world).clock →
    now world ≤ now (HostWorld.setHost host world)
  rest : ∀ (ready : Host → Bool) (limit : Duration) (world : ω),
    (HostWorld.rest ready (some limit)).Ensures world fun result after =>
      now world ≤ now after ∧ (result = .ok false → now world + limit.nanos ≤ now after)

/-! ## Polls -/

namespace HostClock

variable {ω : Type} [HostWorld ω] (clock : HostClock ω) {t : Duration}

/-- Whether a system call fails does not depend on the time. -/
theorem check_forward (call : SystemCall) (world : ω) :
    (HostWorld.onHost (Host.check call) : Action ω IoError Unit).Ensures world fun _ after =>
      clock.now world ≤ clock.now after := by
  refine Ensures.on fun patience result after hrun => clock.setHost ?_
  unfold Host.check at hrun
  cases hstrike : Fault.strike call (HostWorld.host world).faults with
  | mk errno faults =>
      rw [hstrike] at hrun
      cases errno with
      | none | some _ =>
          cases hrun
          rfl

theorem poll_keepsTime (ready : Host → Bool) :
    KeepsTime clock.toClock (HostWorld.poll ready) := by
  intro millis world
  refine (clock.check_forward .poll world).bind ?_ fun e after hforward =>
    ⟨hforward, fun h => nomatch h⟩
  intro _ between hforward
  have hrest : (lift (HostWorld.rest ready (some (.ofMillis millis))) :
      Action ω IoError Bool).Ensures between fun result after =>
        clock.now between ≤ clock.now after ∧
          (result = .ok false → clock.now between + millis * 1000000 ≤ clock.now after) := by
    refine Ensures.mapError ((clock.rest ready _ between).mono fun result after hrested => ?_)
    obtain ⟨hlater, hidle⟩ := hrested
    refine ⟨hlater, fun h => hidle ?_⟩
    cases result with
    | ok answer =>
        cases h
        rfl
    | error e => exact e.elim
  refine hrest.bind ?_ fun e after hrested => ⟨Nat.le_trans hforward hrested.1, fun h => nomatch h⟩
  intro answer after hrested
  obtain ⟨hlater, hidle⟩ := hrested
  cases answer with
  | true => exact ensures_pure ⟨Nat.le_trans hforward hlater, fun h => nomatch h⟩
  | false =>
      have hended := hidle rfl
      exact ensures_pure ⟨Nat.le_trans hforward hlater, fun _ => by omega⟩

theorem waitReady_ensures (ready : Host → Bool) {world : ω}
    (htold : (World.look world).1.after? t ≠ none) :
    (HostWorld.waitReady ready (some t)).Ensures world fun result after =>
      result = .ok false → Lasted t (clock.now after - clock.now world) :=
  wait_ensures clock.toClock (clock.poll_keepsTime ready) htold

theorem waitDescriptor_ensures (descriptor : Int) {world : ω}
    (htold : (World.look world).1.after? t ≠ none) :
    (HostWorld.waitDescriptor descriptor (some t)).Ensures world fun result after =>
      result = .ok false → Lasted t (clock.now after - clock.now world) := by
  unfold HostWorld.waitDescriptor
  by_cases hnegative : descriptor < 0
  · rw [if_pos hnegative]
    exact clock.waitReady_ensures _ htold
  · rw [if_neg hnegative]
    refine wait_ensures clock.toClock (fun _ world => ?_) htold
    refine (clock.check_forward .poll world).bind ?_ fun e after hforward =>
      ⟨hforward, fun h => nomatch h⟩
    exact fun _ after hforward => ensures_pure ⟨hforward, fun h => nomatch h⟩

theorem pollReadable_ensures {handle : Handle} {world : ω}
    (hlink : ∀ number kind, handle ≠ .link number kind)
    (htold : (World.look world).1.after? t ≠ none) :
    (Transport.pollReadable (some t) : Action (Handle × ω) TransportError Bool).Ensures
      (handle, world) fun result after =>
        result = .ok false → Lasted t (clock.now after.2 - clock.now world) := by
  have hwait : ∀ ready : Host → Bool,
      ((Handle.outside (HostWorld.waitReady ready (some t)) :
        Action (Handle × ω) IoError Bool).mapError TransportError.io).Ensures
          (handle, world) fun result after =>
            result = .ok false → Lasted t (clock.now after.2 - clock.now world) := by
    intro ready
    refine Ensures.mapError (Ensures.on ?_)
    refine (clock.waitReady_ensures ready htold).mono fun result after hlasted h => hlasted ?_
    cases result with
    | ok answer =>
        cases h
        rfl
    | error e => contradiction
  refine ensures_see_bind ?_
  cases handle with
  | link number kind => exact absurd rfl (hlink number kind)
  | pipe | stream | datagram => exact hwait _

/-- A pipe or a socket is not found ready. -/
theorem messageReady_ensures {state : Channel Handle × Surroundings ω}
    (hlink : ∀ number kind, state.1.transport ≠ .link number kind)
    (htold : (World.look state.2.world).1.after? t ≠ none) :
    (Channel.messageReady (some t)).Ensures state fun result after =>
      result = .ok false → Lasted t (clock.now after.2.world - clock.now state.2.world) := by
  have hpoll := clock.pollReadable_ensures hlink htold
  refine Channel.onTransport_orFail_ensures (hpoll.mono fun result after hlasted => ?_)
  cases result with
  | ok answer =>
      rintro ⟨⟩
      exact hlasted rfl
  | error cause => exact fun _ _ _ _ h => nomatch h

end HostClock

/-! ## Accepting -/

/-- Nobody has come in time. -/
def TransportError.IsLate : TransportError → Prop
  | acceptTimeout _ => True
  | _ => False

theorem Host.ensureCapacity_neverLate (descriptor : Int) :
    (Host.ensureCapacity descriptor).Obeys (Never TransportError.IsLate) := by
  have hrecord : (Host.recordLimits).Obeys (Never TransportError.IsLate) := by
    refine Obeys.bind composes_never (obeys_see composes_never _) fun recorded => ?_
    cases recorded with
    | some limits => exact obeys_pure composes_never limits
    | none =>
        refine Obeys.bind composes_never (never_mapError _ fun _ => nofun) fun limits => ?_
        exact Obeys.bind composes_never (never_change _) fun _ =>
          obeys_pure composes_never limits
  refine Obeys.bind composes_never hrecord fun limits => ?_
  cases limits.raiseFor? descriptor with
  | none =>
      dsimp only
      split
      · exact never_change _
      · exact obeys_pure composes_never ()
  | some target =>
      refine never_attempt_bind _ fun result => ?_
      cases result with
      | error e =>
          exact Obeys.bind composes_never (never_change _) fun _ =>
            never_fail nofun
      | ok _ =>
          exact Obeys.bind composes_never (never_change _) fun _ => never_change _

namespace SocketListener

variable {ω : Type} [HostWorld ω] (listener : SocketListener)

theorem acceptRound_neverLate :
    (listener.acceptRound () : Action ω TransportError (Round Unit Handle)).Obeys
      (Never TransportError.IsLate) := by
  have hawait : (HostWorld.await listener.isReady : Action ω TransportError Unit).Obeys
      (Never TransportError.IsLate) :=
    Obeys.bind composes_never (never_mapError _ fun e => e.elim) fun _ =>
      obeys_pure composes_never ()
  refine Obeys.bind composes_never hawait fun _ => never_attempt_bind _ fun result => ?_
  cases result with
  | error e =>
      dsimp only
      split
      · exact obeys_pure composes_never _
      · exact never_fail nofun
  | ok accepted =>
      refine Obeys.bind composes_never (never_undoing (never_on
        (Host.ensureCapacity_neverLate _))) fun _ => ?_
      refine Obeys.bind composes_never (never_on (obeys_see composes_never _))
        fun peer => ?_
      refine Obeys.bind composes_never (never_change _) fun _ => ?_
      exact Obeys.bind composes_never (never_on (never_change _)) fun _ =>
        obeys_pure composes_never _

theorem duplicate_neverLate :
    (listener.duplicate : Action ω TransportError Handle).Obeys (Never TransportError.IsLate) := by
  refine Obeys.bind composes_never (never_mapError _ fun _ => nofun) fun descriptor => ?_
  refine Obeys.bind composes_never (never_undoing (never_on
    (Host.ensureCapacity_neverLate _))) fun _ => ?_
  exact Obeys.bind composes_never (never_on (never_change _)) fun _ =>
    obeys_pure composes_never _

end SocketListener

/-- A listener reports that nobody has come. -/
theorem HostClock.accept_ensures {ω : Type} [HostWorld ω] (clock : HostClock ω)
    (listener : SocketListener) {t : Duration} {world : ω}
    (htold : (World.look world).1.after? t ≠ none) :
    (listener.accept (some t)).Ensures world fun result after =>
      ∀ d, result = .error (.acceptTimeout d) →
        d = t ∧ Lasted t (clock.now after - clock.now world) := by
  have hnever : ∀ {x : Action ω TransportError Handle}, x.Obeys (Never TransportError.IsLate) →
      ∀ between, x.Ensures between fun result after => ∀ d, result = .error (.acceptTimeout d) →
        d = t ∧ Lasted t (clock.now after - clock.now world) := by
    intro x hx between
    refine (hx between).mono fun result after hfailure d hsame => ?_
    subst hsame
    exact (hfailure _ rfl trivial).elim
  unfold SocketListener.accept
  cases listener.kind with
  | datagram => exact hnever listener.duplicate_neverLate world
  | stream =>
      have hwait : ((HostWorld.waitReady listener.isReady (some t)).mapError
          TransportError.accept : Action ω TransportError Bool).Ensures world fun result after =>
            (result = .ok false → Lasted t (clock.now after - clock.now world)) ∧
              ∀ d, failure? result ≠ some (.acceptTimeout d) := by
        refine Ensures.mapError ((clock.waitReady_ensures _ htold).mono fun result after h => ?_)
        cases result with
        | ok answer => exact ⟨fun hsame => h (by cases hsame; rfl), fun _ => nofun⟩
        | error e => exact ⟨nofun, fun _ => nofun⟩
      refine hwait.bind ?_ fun e after hend d hsame =>
        absurd (congrArg failure? hsame) (hend.2 d)
      intro answer between hend
      cases answer with
      | true =>
          exact hnever (obeys_iterate composes_never
            (fun _ => listener.acceptRound_neverLate) ()) between
      | false =>
          refine ensures_fail fun d hsame => ?_
          cases hsame
          exact ⟨rfl, hend.1 rfl⟩

/-! ## Together -/

/-- A wait for `t` that finds nothing has lasted until a poll and as long as that was given: less
than a millisecond short of `t`, if one poll can wait for as many milliseconds.  This holds of every
poll that keeps time, whatever it answers and however often it is interrupted, and is how early a
pipe, a socket or a listener gives up at the most.  A `t` whose end no clock can tell is no time. -/
theorem HostClock.patience {ω : Type} [HostWorld ω] (clock : HostClock ω) (t : Duration)
    (world : ω) :
    ((World.look world).1.after? t ≠ none →
      (∀ poll, KeepsTime clock.toClock poll → (wait poll (some t)).Ensures world
        fun result after => result = .ok false → Lasted t (clock.now after - clock.now world)) ∧
      (∀ ready, (HostWorld.waitReady ready (some t)).Ensures world
        fun result after => result = .ok false → Lasted t (clock.now after - clock.now world)) ∧
      (∀ descriptor, (HostWorld.waitDescriptor descriptor (some t)).Ensures world
        fun result after => result = .ok false → Lasted t (clock.now after - clock.now world)) ∧
      (∀ state : Channel Handle × Surroundings ω, state.2.world = world →
        (∀ number kind, state.1.transport ≠ .link number kind) →
        (Channel.messageReady (some t)).Ensures state fun result after =>
          result = .ok false → Lasted t (clock.now after.2.world - clock.now world)) ∧
      ∀ listener : SocketListener, (listener.accept (some t)).Ensures world fun result after =>
        ∀ d, result = .error (.acceptTimeout d) →
          d = t ∧ Lasted t (clock.now after - clock.now world)) ∧
    ((World.look world).1.after? t = none → ∀ poll patience,
      wait poll (some t) patience world = wait (fun _ => poll 0) (some t) patience world) := by
  refine ⟨fun htold => ⟨fun poll hpoll => wait_ensures clock.toClock hpoll htold,
    fun ready => clock.waitReady_ensures ready htold,
    fun descriptor => clock.waitDescriptor_ensures descriptor htold, ?_,
    fun listener => clock.accept_ensures listener htold⟩, fun huntold poll => wait_untold huntold⟩
  rintro state rfl hlink
  exact clock.messageReady_ensures hlink htold

/-- A host alone has such a clock. -/
def Host.hostClock : HostClock Host where
  now := Host.clock
  look world := ⟨Nat.le_refl _, Nat.le_succ world.clock⟩
  setHost h := Nat.le_of_eq h.symm
  rest ready limit world := by
    intro patience result after hrun
    by_cases hready : ready world = true
    · have hsame : some (.ok true, world) = some (result, after) := by
        rw [← hrun]
        exact (if_pos hready).symm
      cases hsame
      exact ⟨Nat.le_refl _, nofun⟩
    · have hlater : some (.ok false, { world with clock := world.clock + limit.nanos }) =
          some (result, after) := by
        rw [← hrun]
        exact (if_neg hready).symm
      cases hlater
      exact ⟨Nat.le_add_right _ _, fun _ => Nat.le_refl _⟩

/-- Twenty milliseconds are up after more than nineteen. -/
theorem HostClock.patience_twenty : ∃ after : Host,
    (HostWorld.waitDescriptor (-1) (some (.ofMillis 20)) : Action Host IoError Bool).Returns {}
      (.ok false) after ∧
    20000000 < after.clock - ({} : Host).clock + 1000000 := by
  have hreturns : (HostWorld.waitDescriptor (-1) (some (.ofMillis 20)) :
      Action Host IoError Bool).Returns {} (.ok false) { clock := 86400019000002 } :=
    (returns_step _).bind (Loops.returns (.done ⟨0, fun _ _ => rfl⟩))
  have htold : (World.look ({} : Host)).1.after? (.ofMillis 20) ≠ none := by decide
  obtain ⟨enough, hrun⟩ := hreturns
  obtain ⟨-, -, hwait, -⟩ := (Host.hostClock.patience (.ofMillis 20) {}).1 htold
  obtain ⟨_, -, hshort⟩ := hwait (-1) _ _ _ (hrun enough (Nat.le_refl _)) rfl
  exact ⟨_, ⟨enough, hrun⟩, (hshort (by decide)).1⟩

/-- The longest timeout is up at once, and of two milliseconds little more than one is waited. -/
theorem HostClock.patience_cut : ∃ after early : Host,
    (HostWorld.waitDescriptor (-1) (some .longest) : Action Host IoError Bool).Returns {}
      (.ok false) after ∧
    after.clock - ({} : Host).clock < Duration.longest.millis * 1000000 ∧
    (HostWorld.waitDescriptor (-1) (some (.ofMillis 2)) : Action Host IoError Bool).Returns {}
      (.ok false) early ∧
    early.clock - ({} : Host).clock < (Duration.ofMillis 2).millis * 1000000 :=
  ⟨{ clock := 86400000000001 }, { clock := 86400001000002 },
    (returns_step _).bind (Loops.returns (.done ⟨0, fun _ _ => rfl⟩)), by decide,
    (returns_step _).bind (Loops.returns (.done ⟨0, fun _ _ => rfl⟩)), by decide⟩

end TypedChannel
