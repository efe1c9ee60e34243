import TypedChannel.Cli.Echo
import TypedChannel.Proofs.Action
import TypedChannel.Proofs.Channel.Wrapping
import TypedChannel.Proofs.Clock
/-!
# TypedChannel.Proofs.Echo.Arrivals

When a server gives up waiting for peers.

1. What a server does behind its announcement is `serving`, for any way to
   accept a peer and any way to talk to one.  A `Lobby` tells how peers come:
   one that stands in the queue is accepted, and an accept that times out found
   the queue empty, and nobody came while it lasted.
2. A wait takes a peer out of the queue at once, however late it is
   (`nextPeer_returns`).  One that gives up began with an empty queue and ended
   when the accept timeout was over, and nobody came in between
   (`nextPeer_ensures`).
3. The accept timeout runs from the beginning and not from the moment when the
   wait began, so only the first wait must last for as long.  `Awaits` tells
   when a wait may begin: at first, and whenever a peer has gone.
4. Without an accept timeout the server never gives up (`serving_never`), and
   neither does the command, which serves behind everything that can fail in
   another way (`run_ensures`).
-/

namespace TypedChannel.Cli.Echo

open TypedChannel.Action

/-- What ends a server that nobody comes to. -/
def nobodyCame : Failure :=
  { code := timedOut, message := "no peer connected before the accept timeout" }

section Serving

variable {ω γ : Type} [World ω] [Terminal ω]

/-- What a server does from the moment on when the accept timeout begins. -/
def serving (kind : SocketKind) (accept : Duration → Action (Surroundings ω) ChannelError γ)
    (converse : γ → Action (Surroundings ω × Nat) Failure Conversation) (acceptTimeout : Int) :
    Action (Surroundings ω) Failure Unit := do
  let deadline ← Action.step fun around =>
    let (deadline, world) := Deadline.startNow (timeoutOfMillis acceptTimeout) around.world
    (deadline, { around with world })
  (serveAll kind accept converse deadline).on (fun around => (around, 0))
    (fun (around, _) _ => around)

end Serving

theorem serveListener_eq {ω : Type} [HostWorld ω] (arguments : Arguments) (format : OutputFormat)
    (listener : ChannelListener) :
    (serveListener arguments format listener : Action (Surroundings ω) Failure Unit) = (do
      print (renderListening listener.socket.address listener.socket.kind.name format)
      installHandler
      serving listener.socket.kind (fun wait => listener.accept (some wait))
        (converse listener.socket.kind (arguments.settings format)) arguments.acceptTimeout) :=
  rfl

/-- No failure of a channel is told with this text. -/
theorem ofChannel_ne_nobodyCame {context : String}
    (h : ¬ context.toList <+: nobodyCame.message.toList) (e : ChannelError) :
    Failure.ofChannel context e ≠ nobodyCame := by
  intro hsame
  have hbegins := (Failure.ofChannel_reports context e).begins
  rw [hsame] at hbegins
  exact h hbegins

/-! ## Peers that come -/

section Serving

variable {ω γ : Type} [World ω] {accept : Duration → Action (Surroundings ω) ChannelError γ}
  {deadline : Deadline}

/-- Peers that come whenever they like, and a way to accept them: how many have come up to now, and
how many of them stand in the queue. -/
structure Lobby (accept : Duration → Action (Surroundings ω) ChannelError γ) extends Clock ω where
  came : ω → Nat
  queued : ω → Nat
  /-- Whoever comes while one looks at the clock stands in the queue. -/
  look_came : ∀ world, came world ≤ came (World.look world).2 ∧
    came (World.look world).2 + queued world = came world + queued (World.look world).2
  accept_queued : ∀ wait around, 0 < queued around.world →
    ∃ peer after, (accept wait).Returns around (.ok peer) after
  accept_timedOut : ∀ wait around, (accept wait).Ensures around fun result after =>
    ∀ e, result = .error e → e.isTimeout = true →
      queued around.world = 0 ∧ queued after.world = 0 ∧ came after.world = came around.world ∧
        now around.world + wait.nanos ≤ now after.world

namespace Lobby

variable (lobby : Lobby accept) {began between ended : ω}

/-- From one moment to another nobody has come or stood in the queue. -/
structure Deserted (began ended : ω) : Prop where
  later : lobby.now began ≤ lobby.now ended
  came : lobby.came ended = lobby.came began
  none_before : lobby.queued began = 0
  none_after : lobby.queued ended = 0

/-- From one moment to another nobody has left the queue. -/
structure Kept (began between : ω) : Prop where
  later : lobby.now began ≤ lobby.now between
  came : lobby.came began ≤ lobby.came between
  queued : lobby.came between + lobby.queued began = lobby.came began + lobby.queued between

variable {lobby}

theorem kept_refl (world : ω) : lobby.Kept world world where
  later := Nat.le_refl _
  came := Nat.le_refl _
  queued := rfl

theorem Kept.look (h : lobby.Kept began between) : lobby.Kept began (World.look between).2 := by
  obtain ⟨hbefore, hafter⟩ := lobby.toClock.look between
  obtain ⟨hcame, hqueued⟩ := lobby.look_came between
  obtain ⟨hlater, hmore, hkept⟩ := h
  exact ⟨by omega, by omega, by omega⟩

theorem Kept.remainingNow (h : lobby.Kept began between) :
    lobby.Kept began (deadline.remainingNow between).2 := by
  obtain ⟨⟨⟩ | point⟩ := deadline
  · exact h
  · exact h.look

theorem Deserted.kept (h : lobby.Deserted began ended) : lobby.Kept began ended := by
  obtain ⟨hlater, hcame, hbefore, hafter⟩ := h
  exact ⟨hlater, by omega, by omega⟩

/-- What an accept that times out tells of the time before it, if nobody had left the queue. -/
theorem Kept.deserted (h : lobby.Kept began between) (hlater : lobby.now between ≤ lobby.now ended)
    (hcame : lobby.came ended = lobby.came between) (hbefore : lobby.queued between = 0)
    (hafter : lobby.queued ended = 0) : lobby.Deserted began ended := by
  obtain ⟨hearlier, hmore, hkept⟩ := h
  exact ⟨by omega, by omega, by omega, hafter⟩

/-- A wait that began in `began` has ended for good: nobody came until a last look at the clock
showed that the deadline was over. -/
def GaveUp (lobby : Lobby accept) (deadline : Deadline) (began ended : ω) : Prop :=
  ∃ last, lobby.Deserted began last ∧
    deadline.remaining (World.look last).1 = some .zero ∧ ended = (World.look last).2

end Lobby

variable [Terminal ω]

omit [Terminal ω] in
/-- Only a look at the clock can show that no time is left. -/
theorem remainingNow_eq_zero {world : ω} (h : (deadline.remainingNow world).1 = some .zero) :
    deadline.remaining (World.look world).1 = some .zero ∧
      (deadline.remainingNow world).2 = (World.look world).2 := by
  obtain ⟨⟨⟩ | point⟩ := deadline
  · contradiction
  · exact ⟨h, rfl⟩

/-- A round of waiting that goes on leaves the queue as it was, but for those who came. -/
theorem waitRound_ensures (lobby : Lobby accept) {began : ω} {around : Surroundings ω}
    (hkept : lobby.Kept began around.world) :
    (waitRound accept deadline ()).Ensures around fun result after => match result with
      | .ok (.again _) => lobby.Kept began after.world
      | .ok (.done _) => True
      | .error e => e = nobodyCame → lobby.GaveUp deadline began after.world := by
  unfold waitRound
  refine ensures_see_bind ?_
  split
  · exact ensures_pure trivial
  refine ensures_step_bind ?_
  refine (lobby.accept_timedOut _ _).attempt_bind fun result between htimedOut => ?_
  cases result with
  | ok peer => exact ensures_pure trivial
  | error e =>
      dsimp only
      split
      · next htimeout =>
          obtain ⟨hbefore, hafter, hcame, hlasted⟩ := htimedOut e rfl htimeout
          have hlater := Nat.le_trans (Nat.le_add_right _ _) hlasted
          have hdeserted := hkept.remainingNow.deserted hlater hcame hbefore hafter
          refine ensures_step_bind ?_
          by_cases hzero : (deadline.remainingNow between.world).1 = some .zero
          · obtain ⟨hover, hended⟩ := remainingNow_eq_zero hzero
            rw [if_pos hzero]
            exact ensures_fail fun _ => ⟨_, hdeserted, hover, hended⟩
          · rw [if_neg hzero]
            exact ensures_pure hdeserted.kept.remainingNow
      · exact ensures_fail fun h => absurd h (ofChannel_ne_nobodyCame (by decide) e)

/-- A wait that ends without a peer. -/
theorem nextPeer_ensures (lobby : Lobby accept) (began : Surroundings ω) :
    (nextPeer accept deadline).Ensures began fun result after =>
      result = .error nobodyCame → lobby.GaveUp deadline began.world after.world := by
  refine ensures_iterate (fun _ between => lobby.Kept began.world between.world)
    (Lobby.kept_refl began.world) fun _ between hkept => ?_
  refine (waitRound_ensures lobby hkept).mono fun result after hround => ?_
  cases result with
  | error e => exact fun h => hround (Except.error.inj h)
  | ok round =>
      cases round with
      | again next => exact hround
      | done peer => exact fun h => nomatch h

/-- Whoever stands in the queue is accepted, even behind the deadline. -/
theorem nextPeer_returns (lobby : Lobby accept) {around : Surroundings ω}
    (hqueued : 0 < lobby.queued around.world)
    (hgoesOn : Terminal.isInterrupted around.world = false) :
    ∃ peer after, (nextPeer accept deadline).Returns around (.ok (some peer)) after := by
  have hkept : lobby.Kept around.world (deadline.remainingNow around.world).2 :=
    (Lobby.kept_refl _).remainingNow
  have hstill : 0 < lobby.queued (deadline.remainingNow around.world).2 := by
    obtain ⟨-, hcame, hqueue⟩ := hkept
    omega
  have hround (wait : Duration) := lobby.accept_queued wait
    { around with world := (deadline.remainingNow around.world).2 } hstill
  -- Only how long the accept may last depends on the deadline.
  obtain ⟨⟨⟩ | point⟩ := deadline
  · obtain ⟨peer, after, haccept⟩ := hround pollInterval
    refine ⟨peer, after, Loops.returns (.done ((returns_see _).bind ?_))⟩
    rw [hgoesOn]
    exact (returns_step _).bind (haccept.attempt.bind (returns_pure _))
  · obtain ⟨peer, after, haccept⟩ :=
      hround ((point.since (World.look around.world).1).min pollInterval)
    refine ⟨peer, after, Loops.returns (.done ((returns_see _).bind ?_))⟩
    rw [hgoesOn]
    exact (returns_step _).bind (haccept.attempt.bind (returns_pure _))

/-! ## Waits of a run -/

/-- The states in which a server that began in `start` begins to wait: at first, and whenever it has
taken a peer and that one has gone. -/
inductive Awaits (accept : Duration → Action (Surroundings ω) ChannelError γ)
    (converse : γ → Action (Surroundings ω × Nat) Failure Conversation) (deadline : Deadline)
    (start : Surroundings ω × Nat) : Surroundings ω × Nat → Prop
  | first : Awaits accept converse deadline start start
  | next {began gone : Surroundings ω × Nat} {taken : Surroundings ω} {peer : γ}
      (h : Awaits accept converse deadline start began)
      (wait : ∃ patience,
        nextPeer accept deadline patience began.1 = some (.ok (some peer), taken))
      (talk : ∃ patience, converse peer patience (taken, began.2) = some (.ok .ended, gone)) :
      Awaits accept converse deadline start gone

variable {converse : γ → Action (Surroundings ω × Nat) Failure Conversation}

/-- Nobody came in the last of the waits. -/
theorem serveAll_ensures {kind : SocketKind}
    (hconverse : ∀ peer, (converse peer).Obeys (Never (· = nobodyCame)))
    (start : Surroundings ω × Nat) :
    (serveAll kind accept converse deadline).Ensures start fun result after =>
      result = .error nobodyCame → ∃ began, Awaits accept converse deadline start began ∧
        ∃ patience, nextPeer accept deadline patience began.1 =
          some (.error nobodyCame, after.1) := by
  refine ensures_iterate (fun _ between => Awaits accept converse deadline start between) .first
    fun _ began hbegan => ?_
  obtain ⟨around, served⟩ := began
  refine ensures_see_bind ?_
  by_cases hinterrupted : Terminal.isInterrupted around.world = true
  · rw [if_pos hinterrupted]
    exact ensures_pure nofun
  rw [if_neg hinterrupted]
  have hwait : ((nextPeer accept deadline).on Prod.fst fun around (_, served) =>
      (around, served)).Ensures (around, served) fun result between => ∃ patience taken,
        nextPeer accept deadline patience around = some (result, taken) ∧
          between = (taken, served) :=
    Ensures.on ((ensures_run _ _).mono fun result taken hrun =>
      let ⟨patience, hrun⟩ := hrun
      ⟨patience, taken, hrun, rfl⟩)
  refine hwait.bind ?_ ?_
  · rintro next _ ⟨patience, taken, hrun, rfl⟩
    cases next with
    | none => exact ensures_pure nofun
    | some peer =>
        have htalk : (converse peer).Ensures (taken, served) fun result gone =>
            (∃ patience, converse peer patience (taken, served) = some (result, gone)) ∧
              result ≠ .error nobodyCame := by
          intro talking result gone htalked
          refine ⟨⟨talking, htalked⟩, ?_⟩
          rintro rfl
          exact hconverse peer _ _ _ _ htalked _ rfl rfl
        refine htalk.bind ?_ fun e gone h hsame =>
          absurd (congrArg Except.error (Except.error.inj hsame)) h.2
        rintro conversation gone ⟨htalked, -⟩
        cases conversation with
        | stopped => exact ensures_pure nofun
        | ended =>
            dsimp only
            split
            · exact ensures_pure nofun
            · exact ensures_pure (hbegan.next ⟨patience, hrun⟩ htalked)
  · rintro e _ ⟨patience, taken, hrun, rfl⟩ h
    cases h
    exact ⟨(around, served), hbegan, patience, hrun⟩

/-- A server that gives up began with the accept timeout and is behind its end, but it is only in
the last of its waits that nobody came. -/
theorem serving_ensures {kind : SocketKind} (lobby : Lobby accept)
    (hconverse : ∀ peer, (converse peer).Obeys (Never (· = nobodyCame))) (n : Nat)
    (around : Surroundings ω) :
    (serving kind accept converse n).Ensures around fun result after =>
      result = .error nobodyCame → ∃ began last,
        Awaits accept converse (.starting (World.look around.world).1 (some (.ofMillis n)))
          ({ around with world := (World.look around.world).2 }, 0) began ∧
        lobby.Deserted began.1.world last ∧
        (World.look around.world).1.nanos + n * 1000000 ≤ (World.look last).1.nanos ∧
        after.world = (World.look last).2 := by
  refine ensures_step_bind (Ensures.on ?_)
  refine (serveAll_ensures hconverse _).mono fun result after hserved h => ?_
  obtain ⟨began, hawaits, patience, hrun⟩ := hserved h
  obtain ⟨last, hdeserted, hover, hended⟩ := nextPeer_ensures lobby began.1 _ _ _ hrun rfl
  exact ⟨began, last, hawaits, hdeserted, Deadline.over_of_remaining hover, hended⟩

/-! ## Servers that do not give up -/

omit [World ω] [Terminal ω] in
theorem never_ofChannel {s α : Type} {context : String}
    (h : ¬ context.toList <+: nobodyCame.message.toList) (e : ChannelError) :
    (Action.fail (.ofChannel context e) : Action s Failure α).Obeys (Never (· = nobodyCame)) :=
  never_fail (ofChannel_ne_nobodyCame h e)

/-- Without a deadline a wait goes on. -/
theorem nextPeer_never :
    (nextPeer accept ⟨none⟩ : Action (Surroundings ω) Failure (Option γ)).Obeys
      (Never (· = nobodyCame)) := by
  refine obeys_iterate composes_never (fun _ => ?_) ()
  refine Obeys.bind composes_never (obeys_see composes_never _) fun interrupted => ?_
  split
  · exact obeys_pure composes_never _
  refine Obeys.bind composes_never (never_step _) fun left => ?_
  refine never_attempt_bind _ fun result around => ?_
  cases result with
  | ok peer => exact ensures_pure fun _ => nofun
  | error e =>
      dsimp only
      split
      · exact ensures_step_bind (ensures_pure fun _ => nofun)
      · exact never_ofChannel (by decide) e around

theorem serveAll_never {kind : SocketKind}
    (hconverse : ∀ peer, (converse peer).Obeys (Never (· = nobodyCame))) :
    (serveAll kind accept converse ⟨none⟩).Obeys (Never (· = nobodyCame)) := by
  refine obeys_iterate composes_never (fun _ => ?_) ()
  refine Obeys.bind composes_never (obeys_see composes_never _) fun interrupted => ?_
  split
  · exact obeys_pure composes_never _
  refine Obeys.bind composes_never (never_on nextPeer_never) fun next => ?_
  cases next with
  | none => exact obeys_pure composes_never _
  | some peer =>
      refine Obeys.bind composes_never (hconverse peer) fun conversation => ?_
      cases conversation with
      | stopped => exact obeys_pure composes_never _
      | ended =>
          dsimp only
          split <;> exact obeys_pure composes_never _

theorem serving_never {kind : SocketKind}
    (hconverse : ∀ peer, (converse peer).Obeys (Never (· = nobodyCame))) (n : Nat) :
    (serving kind accept converse (.negSucc n)).Obeys (Never (· = nobodyCame)) :=
  fun _ => ensures_step_bind (never_on (serveAll_never hconverse) _)

end Serving

/-! ## The command -/

section Command

variable {σ ω : Type} [World ω] [Transport ω σ] [Terminal ω]

theorem talk_never (settings : EchoSettings) :
    (talk settings : TalkAction σ ω Conversation).Obeys (Never (· = nobodyCame)) := by
  have hon {α : Type} (x : ChannelAction σ ω α) :
      (onChannel x : TalkAction σ ω (Except ChannelError α)).Obeys (Never (· = nobodyCame)) :=
    never_on (never_attempt x)
  have hwarn (message : String) (e : ChannelError) {conversation : Round Unit Conversation} :
      (warn message e >>= fun _ => pure conversation :
        TalkAction σ ω (Round Unit Conversation)).Obeys (Never (· = nobodyCame)) :=
    Obeys.bind composes_never (never_change _) fun _ => obeys_pure composes_never _
  refine obeys_iterate composes_never (fun _ => ?_) ()
  refine Obeys.bind composes_never (obeys_see composes_never _) fun interrupted => ?_
  split
  · exact obeys_pure composes_never _
  refine Obeys.bind composes_never (obeys_see composes_never _) fun enough => ?_
  split
  · exact obeys_pure composes_never _
  refine Obeys.bind composes_never (hon _) fun ready => ?_
  split
  · exact never_ofChannel (by decide) _
  · exact obeys_pure composes_never _
  refine Obeys.bind composes_never (hon _) fun received => ?_
  cases received with
  | ok message =>
      refine Obeys.bind composes_never (hon _) fun replied => ?_
      cases replied with
      | ok _ =>
          exact Obeys.bind composes_never (never_change _) fun _ => obeys_pure composes_never _
      | error e =>
          dsimp only
          split
          · exact obeys_pure composes_never _
          · exact never_ofChannel (by decide) e
  | error e =>
      dsimp only
      split
      · exact obeys_pure composes_never _
      split
      · exact hwarn _ e
      split
      · exact hwarn _ e
      · exact never_ofChannel (by decide) e

end Command

section Host

variable {ω : Type} [HostWorld ω]

theorem converse_never (kind : SocketKind) (settings : EchoSettings) (channel : Channel Handle) :
    (converse kind settings channel : Action (Surroundings ω × Nat) Failure Conversation).Obeys
      (Never (· = nobodyCame)) := by
  rintro ⟨around, served⟩ patience result after hrun
  unfold converse at hrun
  dsimp only at hrun
  split at hrun
  · contradiction
  next talked channel around served htalk =>
    obtain ⟨closed, -, heq⟩ := Option.map_eq_some_iff.mp hrun
    cases heq
    exact talk_never settings _ _ _ _ htalk

/-- Without an accept timeout, and a channel that is talked over, there is no such end. -/
theorem serving_nonneg {kind : SocketKind}
    {accept : Duration → Action (Surroundings ω) ChannelError (Channel Handle)}
    {settings : EchoSettings} {acceptTimeout : Int} {patience : Nat}
    {began ended : Surroundings ω}
    (hrun : serving kind accept (converse kind settings) acceptTimeout patience began =
      some (.error nobodyCame, ended)) : 0 ≤ acceptTimeout := by
  cases acceptTimeout with
  | ofNat n => exact Int.natCast_nonneg n
  | negSucc n =>
      exact absurd rfl
        (serving_never (converse_never kind settings) n _ _ _ _ hrun _ rfl)

theorem installHandler_never :
    (installHandler : Action (Surroundings ω) Failure Unit).Obeys (Never (· = nobodyCame)) := by
  refine Obeys.bind composes_never (obeys_see composes_never _) fun fault => ?_
  cases fault with
  | none => exact obeys_pure composes_never _
  | some reason =>
      refine never_fail fun hsame => ?_
      have hcode : internalFailure = timedOut := congrArg Failure.code hsame
      exact absurd hcode (by decide)

theorem serveListener_ensures (arguments : Arguments) (format : OutputFormat)
    (listener : ChannelListener) (around : Surroundings ω) :
    (serveListener arguments format listener).Ensures around fun result after =>
      result = .error nobodyCame → ∃ began patience,
        serving listener.socket.kind (fun wait => listener.accept (some wait))
          (converse listener.socket.kind (arguments.settings format)) arguments.acceptTimeout
          patience began = some (.error nobodyCame, after) := by
  rw [serveListener_eq]
  refine ensures_change_bind ((installHandler_never _).bind ?_ ?_)
  · intro _ began _
    refine (ensures_run _ began).mono fun result after hrun h => ?_
    subst h
    exact ⟨began, hrun⟩
  · intro e after hnever h
    exact absurd (Except.error.inj h) (hnever e rfl)

/-- The command ends for want of peers only if serving does. -/
theorem run_ensures (arguments : Arguments) (format : OutputFormat) (around : Surroundings ω) :
    (run arguments format).Ensures around fun result _ =>
      result = .error nobodyCame → 0 ≤ arguments.acceptTimeout ∧
        ∃ (listener : ChannelListener) (began ended : Surroundings ω) (patience : Nat),
          serving listener.socket.kind (fun wait => listener.accept (some wait))
            (converse listener.socket.kind (arguments.settings format)) arguments.acceptTimeout
            patience began = some (.error nobodyCame, ended) := by
  refine ensures_step_bind ?_
  have hbind : (Action.mapError (.ofChannel "bind failed")
      (ChannelListener.bind (socketKind arguments.udp) (SocketListener.onPort arguments.port)
        { suppressMessages := true, diagnostics := around.diagnostics.create.1 }) :
      Action (Surroundings ω) Failure ChannelListener).Obeys (Never (· = nobodyCame)) :=
    never_mapError _ (ofChannel_ne_nobodyCame (by decide))
  refine (hbind _).bind ?_ fun e after hnever h => absurd (Except.error.inj h) (hnever e rfl)
  intro listener began _
  refine (serveListener_ensures arguments format listener began).attempt_bind
    fun result between hserved => ?_
  have hclose : (listener.close : Action (Surroundings ω) Failure Unit).Obeys
      (Never (· = nobodyCame)) := by
    unfold ChannelListener.close
    exact never_on (never_on (never_change listener.socket.release))
  cases result with
  | ok _ =>
      refine (hclose between).bind (fun _ _ _ => ensures_pure nofun) ?_
      exact fun e after hnever h => absurd (Except.error.inj h) (hnever e rfl)
  | error e =>
      refine (hclose between).bind (fun _ _ _ => ensures_fail fun h => ?_) ?_
      · obtain ⟨start, patience, hrun⟩ := hserved (congrArg Except.error (Except.error.inj h))
        exact ⟨serving_nonneg hrun, listener, start, between, patience, hrun⟩
      · exact fun e after hnever h => absurd (Except.error.inj h) (hnever e rfl)

end Host

/-! ## Together -/

/-- A server that ends for want of peers began the last of its waits with an empty queue, and nobody
came until the accept timeout was over, which runs from the start of the server; so the wait lasted
for as long if it was the first.  Whoever stands in the queue is accepted, however late it is, and
without an accept timeout the command does not end like this. -/
theorem gives_up {ω γ : Type} [World ω] [Terminal ω]
    {accept : Duration → Action (Surroundings ω) ChannelError γ}
    {converse : γ → Action (Surroundings ω × Nat) Failure Conversation} (lobby : Lobby accept)
    (hconverse : ∀ peer, (converse peer).Obeys (Never (· = nobodyCame))) :
    (∀ (kind : SocketKind) (acceptTimeout : Int) (around : Surroundings ω),
      (serving kind accept converse acceptTimeout).Ensures around fun result after =>
        result = .error nobodyCame → ∃ n : Nat, acceptTimeout = n ∧ ∃ began last,
          Awaits accept converse (.starting (World.look around.world).1 (some (.ofMillis n)))
            ({ around with world := (World.look around.world).2 }, 0) began ∧
          lobby.Deserted began.1.world last ∧
          (World.look around.world).1.nanos + n * 1000000 ≤ (World.look last).1.nanos ∧
          after.world = (World.look last).2) ∧
    (∀ (deadline : Deadline) (around : Surroundings ω), 0 < lobby.queued around.world →
      Terminal.isInterrupted around.world = false →
        ∃ peer after, (nextPeer accept deadline).Returns around (.ok (some peer)) after) ∧
    ∀ {υ : Type} [HostWorld υ] (arguments : Arguments) (format : OutputFormat)
      (around : Surroundings υ), (run arguments format).Ensures around fun result _ =>
        result = .error nobodyCame → 0 ≤ arguments.acceptTimeout ∧
          ∃ (listener : ChannelListener) (began ended : Surroundings υ) (patience : Nat),
            serving listener.socket.kind (fun wait => listener.accept (some wait))
              (Echo.converse listener.socket.kind (arguments.settings format))
              arguments.acceptTimeout patience began = some (.error nobodyCame, ended) := by
  refine ⟨fun kind acceptTimeout around => ?_,
    fun deadline around => nextPeer_returns lobby,
    fun arguments format around => run_ensures arguments format around⟩
  cases acceptTimeout with
  | ofNat n =>
      refine (serving_ensures lobby hconverse n around).mono fun result after hgave h => ?_
      exact ⟨n, rfl, hgave h⟩
  | negSucc n =>
      refine (serving_never hconverse n around).mono fun result after hnever h => ?_
      subst h
      exact absurd rfl (hnever _ rfl)

/-! ### A hall -/

/-- Somewhere to wait for those who stand there from the start. -/
structure Hall where
  clock : Nat := 0
  accepted : Nat := 0
  queued : Nat

namespace Hall

instance : World Hall where
  look hall := (⟨hall.clock⟩, { hall with clock := hall.clock + 1 })
  note _ hall := hall

instance : Terminal Hall where
  print _ hall := hall
  isInterrupted _ := false

def accept (wait : Duration) : Action (Surroundings Hall) ChannelError Unit := fun _ around =>
  let hall := around.world
  if 0 < hall.queued then
    some (.ok (), { around with world :=
      { hall with accepted := hall.accepted + 1, queued := hall.queued - 1 } })
  else
    some (.error (.transport (.acceptTimeout wait)),
      { around with world := { hall with clock := hall.clock + wait.nanos } })

/-- Everybody stays for two seconds. -/
def converse (_ : Unit) : Action (Surroundings Hall × Nat) Failure Conversation :=
  fun _ (around, served) =>
    let hall := around.world
    some (.ok .ended,
      ({ around with world := { hall with clock := hall.clock + 2000000000 } }, served + 1))

theorem converse_never (peer : Unit) : (converse peer).Obeys (Never (· = nobodyCame)) := by
  intro state patience result after hrun
  cases hrun
  exact nofun

def lobby : Lobby accept where
  now := clock
  look hall := ⟨Nat.le_refl _, Nat.le_succ _⟩
  came hall := hall.accepted + hall.queued
  queued := queued
  look_came hall := ⟨Nat.le_refl _, rfl⟩
  accept_queued wait around hqueued := ⟨(), _, 0, fun _ _ => if_pos hqueued⟩
  accept_timedOut wait around patience result after hrun e hfailed _ := by
    subst hfailed
    unfold accept at hrun
    dsimp only at hrun
    split at hrun
    · cases hrun
    · next hempty =>
        cases hrun
        have hnone : around.world.queued = 0 := by omega
        exact ⟨hnone, hnone, rfl, Nat.le_refl _⟩

end Hall

/-- Nobody stands in the hall, and a tenth of a second is waited. -/
theorem gives_up_empty_hall : ∃ after : Surroundings Hall,
    (serving .stream Hall.accept Hall.converse 100).Returns
      { world := { queued := 0 }, diagnostics := .empty } (.error nobodyCame) after ∧
    100 * 1000000 < after.world.clock := by
  have hreturns : (serving .stream Hall.accept Hall.converse 100).Returns
      { world := { queued := 0 }, diagnostics := .empty } (.error nobodyCame)
      { world := { clock := 100000002, queued := 0 }, diagnostics := .empty } := by
    refine ⟨1, fun patience h => ?_⟩
    obtain ⟨patience, rfl⟩ : ∃ k, patience = k + 1 := ⟨patience - 1, by omega⟩
    rfl
  obtain ⟨hgives, -, -⟩ := gives_up Hall.lobby Hall.converse_never
  obtain ⟨n, hn, began, last, -, -, hover, hended⟩ :=
    (hgives .stream 100 _).of_returns hreturns rfl
  obtain rfl : n = 100 := by omega
  refine ⟨_, hreturns, ?_⟩
  rw [hended]
  exact Nat.lt_succ_of_le (Nat.le_trans (Nat.le_add_left _ _) hover)

/-- Somebody stands in the hall and is talked to for two seconds.  Of the second that is to be
waited for peers hardly anything is left to the wait behind that. -/
theorem gives_up_behind_visitor : ∃ after : Surroundings Hall,
    (serving .stream Hall.accept Hall.converse 1000).Returns
      { world := { queued := 1 }, diagnostics := .empty } (.error nobodyCame) after ∧
    ∀ began, Awaits Hall.accept Hall.converse (.starting ⟨0⟩ (some (.ofMillis 1000)))
        ({ world := { clock := 1, queued := 1 }, diagnostics := .empty }, 0) began →
      Hall.lobby.queued began.1.world = 0 →
        after.world.clock < began.1.world.clock + 1000 * 1000000 := by
  have hreturns : (serving .stream Hall.accept Hall.converse 1000).Returns
      { world := { queued := 1 }, diagnostics := .empty } (.error nobodyCame)
      { world := { clock := 2000000004, accepted := 1, queued := 0 }, diagnostics := .empty } := by
    refine ⟨2, fun patience h => ?_⟩
    obtain ⟨patience, rfl⟩ : ∃ k, patience = k + 2 := ⟨patience - 2, by omega⟩
    rfl
  refine ⟨_, hreturns, fun began hawaits hempty => ?_⟩
  cases hawaits with
  | first => contradiction
  | next h wait talk =>
      obtain ⟨patience, htalked⟩ := talk
      cases htalked
      show 2000000004 < _ + 2000000000 + 1000 * 1000000
      omega

end TypedChannel.Cli.Echo
