import TypedChannel.Cli.Echo
import TypedChannel.Proofs.Channel.Wrapping
import TypedChannel.Proofs.RoundTrip.Sending
/-!
# TypedChannel.Proofs.Echo.Rounds

The rounds of a conversation, one lemma for each way that a round can end.

What a round does follows from how the readiness check, the receive and the
reply end, whatever transport they run on.
-/

namespace TypedChannel

/-! ## What kind of error ends a round -/

theorem TransportError.category_of_isPeerGone {e : TransportError} (h : e.isPeerGone = true) :
    e.category = .peerGone := by
  unfold category
  rw [if_pos h]

namespace ChannelError

/-- Only errors about the bytes of a message leave the channel aligned. -/
theorem category_of_leavesAligned {e : ChannelError} (h : e.leavesAligned = true) :
    e.category = .protocol := by
  unfold leavesAligned at h
  unfold category
  cases hroot : e.root <;> simp_all [ownCategory]

end ChannelError

namespace Cli.Echo

open TypedChannel.Action TypedChannel.Channel

variable {ω σ α : Type} [World ω] [Transport ω σ] [Terminal ω] {settings : EchoSettings}
  {state after : (Channel σ × Surroundings ω) × Nat} {between : Channel σ × Surroundings ω}

omit [World ω] [Transport ω σ] [Terminal ω] in
theorem onChannel_returns {x : ChannelAction σ ω α} {result : Except ChannelError α}
    (hx : x.Returns state.1 result between) :
    (onChannel x).Returns state (.ok result) (between, state.2) := hx.attempt.on

omit [Terminal ω] in
/-- What the transport answers with this patience, the channel does. -/
theorem messageReady_eq {timeout : Option Duration} {channel : Channel σ × Surroundings ω}
    {ready : Bool} {polled : σ × ω} {patience : Nat}
    (hpoll : (Transport.pollReadable timeout : Action (σ × ω) TransportError Bool) patience
      (below channel) = some (.ok ready, polled)) :
    (messageReady timeout : ChannelAction σ ω Bool) patience channel = some (.ok ready,
      ({ channel.1 with transport := polled.1 }, { channel.2 with world := polled.2 })) := by
  have hasked : (onTransport (Transport.pollReadable timeout) : ChannelAction σ ω _) patience
      channel = some (.ok (.ok ready),
        ({ channel.1 with transport := polled.1 }, { channel.2 with world := polled.2 })) := by
    show (Action.attempt _ patience (below channel)).map _ = _
    rw [attempt, hpoll]
    rfl
  show andThen _ _ patience channel = _
  rw [andThen, hasked]
  rfl

omit [Terminal ω] in
theorem messageReady_returns {timeout : Option Duration} {channel : Channel σ × Surroundings ω}
    {ready : Bool} {polled : σ × ω}
    (hpoll : (Transport.pollReadable timeout : Action (σ × ω) TransportError Bool).Returns
      (below channel) (.ok ready) polled) :
    (messageReady timeout : ChannelAction σ ω Bool).Returns channel (.ok ready)
      ({ channel.1 with transport := polled.1 }, { channel.2 with world := polled.2 }) := by
  obtain ⟨enough, hends⟩ := hpoll
  exact ⟨enough, fun patience hle => messageReady_eq (hends patience hle)⟩

/-! ## Receives -/

/-- The options that a message is received with. -/
def stalling (settings : EchoSettings) : ReceiveOptions := { timeout := some settings.stallTimeout }

omit [Terminal ω] in
theorem receive_prefixed (h : settings.terminator = none) :
    (receive settings : ChannelAction σ ω String) = do
      return (← acceptString (stalling settings)).getD "" := by
  simp only [receive, h, stalling]

omit [Terminal ω] in
theorem receive_terminated {terminator : String} (h : settings.terminator = some terminator) :
    (receive settings : ChannelAction σ ω String) =
      acceptTerminated terminator (stalling settings) := by
  simp only [receive, h, stalling]

omit [World ω] [Transport ω σ] [Terminal ω] in
theorem encode_ne_nil {terminator : String} (hsome : settings.terminator ≠ some "")
    (h : settings.terminator = some terminator) : Text.Utf8.encode terminator ≠ [] := by
  intro hempty
  rw [Text.Utf8.encode_eq_nil] at hempty
  exact hsome (hempty ▸ h)

/-! ## Exchanges -/

/-- The state after a message was answered. -/
def reported (settings : EchoSettings) (message : String)
    (state : (Channel σ × Surroundings ω) × Nat) : (Channel σ × Surroundings ω) × Nat :=
  ((state.1.1, { state.1.2 with
      world := Terminal.print (renderEcho message (replyLength message) settings.format)
        state.1.2.world }),
    state.2 + 1)

omit [Transport ω σ] [Terminal ω] in
theorem warn_returns (message : String) (e : ChannelError) : ∃ event,
    (warn message e : TalkAction σ ω Unit).Returns state (.ok ())
      ((state.1.1, state.1.2.note event), state.2) := ⟨_, returns_change _⟩

/-- A message that was received is answered, if the reply can be sent. -/
theorem exchange_answers {message : String} {replied : Channel σ × Surroundings ω}
    (hreceive : (receive settings).Returns state.1 (.ok message) between)
    (hreply : (Channel.send (.ofInt .int32 (replyLength message)) :
      ChannelAction σ ω Unit).Returns between (.ok ()) replied) :
    (exchange settings).Returns state (.ok (.again ()))
      (reported settings message (replied, state.2)) := by
  have hreport : (report settings.format message : TalkAction σ ω Unit).Returns
      (replied, state.2) (.ok ()) (reported settings message (replied, state.2)) :=
    returns_change _
  refine (onChannel_returns hreceive).bind ?_
  refine (onChannel_returns hreply).bind ?_
  exact hreport.bind (returns_pure _)

/-- A failure that leaves the channel aligned is no reason to end. -/
theorem exchange_skips {e : ChannelError}
    (hreceive : (receive settings).Returns state.1 (.error e) between)
    (haligned : e.leavesAligned = true) : ∃ event,
    (exchange settings).Returns state (.ok (.again ()))
      ((between.1, between.2.note event), state.2) := by
  have hcategory := ChannelError.category_of_leavesAligned haligned
  have hgone : ¬ e.isPeerGone = true := by simp [ChannelError.isPeerGone, hcategory]
  have htimeout : ¬ e.isTimeout = true := by simp [ChannelError.isTimeout, hcategory]
  obtain ⟨event, hwarn⟩ : ∃ event, (warn "dropping malformed message" e :
      TalkAction σ ω Unit).Returns (between, state.2) _ _ := warn_returns _ e
  refine ⟨event, (onChannel_returns hreceive).bind ?_⟩
  dsimp only
  rw [if_neg hgone, if_neg htimeout, if_pos haligned]
  exact hwarn.bind (returns_pure _)

/-- A peer that has gone ends the conversation. -/
theorem exchange_ends {e : ChannelError}
    (hreceive : (receive settings).Returns state.1 (.error e) between)
    (hgone : e.category = .peerGone) :
    (exchange settings).Returns state (.ok (.done .ended)) (between, state.2) := by
  refine (onChannel_returns hreceive).bind ?_
  dsimp only
  rw [if_pos (by simp [ChannelError.isPeerGone, hgone])]
  exact returns_pure _

/-- And so does one that stalls in the middle of a message. -/
theorem exchange_stalls {e : ChannelError}
    (hreceive : (receive settings).Returns state.1 (.error e) between)
    (htimeout : e.category = .timeout) : ∃ event,
    (exchange settings).Returns state (.ok (.done .ended))
      ((between.1, between.2.note event), state.2) := by
  obtain ⟨event, hwarn⟩ : ∃ event, (warn "peer stalled mid-message, dropping it" e :
      TalkAction σ ω Unit).Returns (between, state.2) _ _ := warn_returns _ e
  refine ⟨event, (onChannel_returns hreceive).bind ?_⟩
  dsimp only
  rw [if_neg (by simp [ChannelError.isPeerGone, htimeout]),
    if_pos (by simp [ChannelError.isTimeout, htimeout])]
  exact hwarn.bind (returns_pure _)

/-! ## Rounds -/

/-- Whether a conversation goes on: nobody asks for its end, and a message is still to be served. -/
structure GoesOn (settings : EchoSettings) (state : (Channel σ × Surroundings ω) × Nat) : Prop where
  running : Terminal.isInterrupted state.1.2.world = false
  unserved : ∀ count, settings.count = some count → state.2 < count

theorem talkRound_stops {count : Nat} (hrunning : Terminal.isInterrupted state.1.2.world = false)
    (hcount : settings.count = some count) (hserved : count ≤ state.2) :
    (talkRound settings ()).Returns state (.ok (.done .stopped)) state := by
  refine (returns_see _).bind ?_
  dsimp only
  rw [hrunning]
  refine (returns_see _).bind ?_
  rw [if_pos (by simp [hcount, hserved])]
  exact returns_pure _

omit [World ω] [Transport ω σ] in
theorem GoesOn.any_eq_false (hgoes : GoesOn settings state) :
    settings.count.any (· ≤ state.2) = false := by
  cases hcount : settings.count with
  | none => rfl
  | some count => simpa using hgoes.unserved count hcount

/-- A round that finds nothing ends with the patience that its readiness check takes. -/
theorem talkRound_idle_eq {patience : Nat} (hgoes : GoesOn settings state)
    (hready : (messageReady (some pollInterval) : ChannelAction σ ω Bool) patience state.1 =
      some (.ok false, between)) :
    talkRound settings () patience state = some (.ok (.again ()), (between, state.2)) := by
  have hasked : (onChannel (messageReady (some pollInterval)) : TalkAction σ ω _) patience state =
      some (.ok (.ok false), (between, state.2)) := by
    rw [onChannel, Action.on, attempt, hready]
    rfl
  simp only [talkRound, bind, andThen, see, hgoes.running, hgoes.any_eq_false, Bool.false_eq_true,
    if_false]
  rw [hasked]
  rfl

theorem talkRound_idles (hgoes : GoesOn settings state)
    (hready : (messageReady (some pollInterval) : ChannelAction σ ω Bool).Returns state.1
      (.ok false) between) :
    (talkRound settings ()).Returns state (.ok (.again ())) (between, state.2) := by
  obtain ⟨enough, hends⟩ := hready
  exact ⟨enough, fun patience hle => talkRound_idle_eq hgoes (hends patience hle)⟩

theorem talkRound_exchanges {round : Round Unit Conversation} (hgoes : GoesOn settings state)
    (hready : (messageReady (some pollInterval) : ChannelAction σ ω Bool).Returns state.1
      (.ok true) between)
    (hexchange : (exchange settings).Returns (between, state.2) (.ok round) after) :
    (talkRound settings ()).Returns state (.ok round) after := by
  refine (returns_see _).bind ?_
  dsimp only
  rw [hgoes.running]
  refine (returns_see _).bind ?_
  rw [hgoes.any_eq_false]
  exact (onChannel_returns hready).bind hexchange

end Cli.Echo

end TypedChannel
