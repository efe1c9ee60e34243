import TypedChannel.Proofs.Echo.Frames
import TypedChannel.Proofs.Echo.Reports
import TypedChannel.Proofs.Echo.Rounds
import TypedChannel.Proofs.Host.StreamLink
/-!
# TypedChannel.Proofs.Echo.Stream

A conversation with a peer that sends frames over a stream and then closes.

1. One exchange takes exactly one frame and, if anything is heard in it, answers
   it (`exchange_serves`).
2. So a conversation serves frame after frame, until the peer has gone or as many
   messages as asked for were served; no byte behind the last frame is taken
   (`talk_serves`).
-/

namespace TypedChannel.Cli

open TypedChannel.Action TypedChannel.Channel

/-- The wire form of frames that are still to come. -/
def Echo.framesWire (settings : EchoSettings) (frames : List (Option Bytes)) : List Bytes :=
  frames.map (frameWire settings)

/-- What can be told of a dialogue in frames. -/
def Dialogue.record {ω σ : Type} [World ω] [Transport ω σ] [Terminal ω] (dialogue : Dialogue ω σ)
    (settings : EchoSettings) : Echo.Record ω σ (Option Bytes) UInt8 where
  Brings state frames := dialogue.Brings state (Echo.framesWire settings frames)
  output := dialogue.output
  hear := Echo.heard? settings
  units := id
  format := settings.format

@[simp] theorem Dialogue.record_hear {ω σ : Type} [World ω] [Transport ω σ] [Terminal ω]
    (dialogue : Dialogue ω σ) (settings : EchoSettings) :
    (dialogue.record settings).hear = Echo.heard? settings := rfl

namespace Echo

variable {ω σ : Type} [World ω] [Transport ω σ] [Terminal ω] {dialogue : Dialogue ω σ}
  {settings : EchoSettings}

/-! ## One frame -/

/-- An exchange takes the next frame and answers what is heard in it. -/
theorem exchange_serves (hsome : settings.terminator ≠ some "")
    (state : (Channel σ × Surroundings ω) × Nat) {frame : Option Bytes}
    {rest : List (Option Bytes)}
    (hbrings : dialogue.Brings (below state.1) (framesWire settings (frame :: rest)))
    (hpauses : dialogue.pauses (below state.1) = 0)
    (hframed : Framed settings state.1.1.config frame) : ∃ after,
      (exchange settings).Returns state (.ok (.again ())) after ∧
        (dialogue.record settings).Served state after [frame] rest := by
  let flow := dialogue.flow (framesWire settings rest) (dialogue.output (below state.1))
  have hholds : flow.supply.Holds (below state.1) ([frameWire settings frame] ++ []) :=
    ⟨by simpa [framesWire] using hbrings, rfl, fun _ => hpauses⟩
  cases hheard : heard? settings state.1.1.config frame with
  | some heard =>
      have hdraws : Draws flow.supply state.1 _ heard.text (receive settings) :=
        receive_draws rfl hsome hframed hheard
      obtain ⟨between, hreceive, ⟨hleft, houtput, -⟩, -, hconfig⟩ := hdraws [] hholds
      let sink := dialogue.sink (framesWire settings rest) (dialogue.output (below state.1)).printed
      have hready : (sink.intake (dialogue.output (below state.1)).written).Holds
          (below between) [] := by
        refine ⟨⟨dialogue.empty.mp hleft, by rw [houtput]⟩, ?_⟩
        show (dialogue.output (below between)).written = _
        rw [houtput, List.flatten_nil, List.append_nil]
      obtain ⟨replied, hexchange, ⟨⟨hbrings, hprinted⟩, hwritten⟩, hkept⟩ :=
        exchange_replies _ hreceive (heard?_eq_some hheard).2 hready
      obtain ⟨hafter, hreported⟩ :=
        dialogue.print (renderEcho heard.text heard.reply settings.format) hbrings
      have hreplied := congrArg Output.written hreported
      have hshown := congrArg Output.printed hreported
      refine ⟨_, hexchange, .replied hafter (hreplied.trans (hwritten.trans ?_))
        (hshown.trans (congrArg (· ++ _) hprinted)) rfl (hkept.trans hconfig) ?_⟩
      · rw [List.flatten_singleton]
        rfl
      · rw [Record.heardIn_singleton]
        exact congrArg Option.toList hheard
  | none =>
      have hbreaks : Breaks flow.supply state.1 _ _ (receive settings) :=
        receive_breaks rfl hsome hframed hheard
      obtain ⟨e, between, hreceive, haligned, ⟨hleft, houtput, -⟩, -, hconfig⟩ := hbreaks [] hholds
      rw [ChannelError.leavesAligned_root] at haligned
      obtain ⟨event, hexchange⟩ := exchange_skips hreceive haligned
      obtain ⟨hafter, hsame, -⟩ := dialogue.note event (dialogue.empty.mp hleft)
      refine ⟨_, hexchange, .silent hafter (hsame.trans houtput) rfl hconfig ?_⟩
      rw [Record.heardIn_singleton]
      exact congrArg Option.toList hheard

/-- Behind the last frame an exchange finds that the peer has gone. -/
theorem exchange_closes (hsome : settings.terminator ≠ some "")
    (state : (Channel σ × Surroundings ω) × Nat) (hbrings : dialogue.Brings (below state.1) [])
    (hpauses : dialogue.pauses (below state.1) = 0) : ∃ after,
      (exchange settings).Returns state (.ok (.done .ended)) after ∧
        (dialogue.record settings).Served state after [] [] := by
  obtain ⟨e, between, hreceive, ⟨source, hroot, hgone⟩, ⟨-, hafter, houtput, -⟩, -, hconfig⟩ :=
    receive_closed dialogue (dialogue.output (below state.1)) hsome state.1 []
      ⟨rfl, hbrings, rfl, hpauses⟩
  have hcategory : e.category = .peerGone := by
    rw [ChannelError.category_of_root hroot, TransportError.category_of_isPeerGone hgone]
  exact ⟨_, exchange_ends hreceive hcategory, .silent hafter houtput rfl hconfig rfl⟩

/-! ## Many frames -/

/-- How a conversation ends, which has taken the frames `answered` and left those `unanswered`. -/
inductive Ending (settings : EchoSettings) (before after : (Channel σ × Surroundings ω) × Nat) :
    List (Option Bytes) → List (Option Bytes) → Conversation → Prop
  /-- The peer has gone before as many messages as asked for were served. -/
  | closed {answered : List (Option Bytes)}
      (hfewer : ∀ count, settings.count = some count → after.2 < count) :
      Ending settings before after answered [] .ended
  /-- So many were served already, and nothing was done. -/
  | satisfied {count : Nat} {unanswered : List (Option Bytes)}
      (hcount : settings.count = some count) (hserved : count ≤ before.2) (hsame : after = before) :
      Ending settings before after [] unanswered .stopped
  /-- The last frame that was taken was answered, and so many are served with it. -/
  | counted {count : Nat} {answered unanswered : List (Option Bytes)} {last : Option Bytes}
      (hcount : settings.count = some count) (hless : before.2 < count) (hserved : after.2 = count)
      (hlast : (heard? settings before.1.1.config last).isSome) :
      Ending settings before after (answered ++ [last]) unanswered .stopped

/-- A step that takes at most one frame leads to the same end. -/
theorem Ending.earlier {before between after : (Channel σ × Surroundings ω) × Nat}
    {step answered unanswered left : List (Option Bytes)} {conversation : Conversation}
    (hgoes : GoesOn settings before)
    (hstep : (dialogue.record settings).Served before between step left) (hsingle : step.length ≤ 1)
    (h : Ending settings between after answered unanswered conversation) :
    Ending settings before after (step ++ answered) unanswered conversation := by
  cases h with
  | closed hfewer => exact .closed hfewer
  | satisfied hcount hserved hsame =>
      -- The step has served the message that was missing before.
      have hless := hgoes.unserved _ hcount
      have hcounted := hstep.counted
      subst hsame
      match step with
      | [] =>
          rw [Record.heardIn_nil, List.length_nil] at hcounted
          omega
      | [frame] =>
          rw [Record.heardIn_singleton, Dialogue.record_hear] at hcounted
          cases hheard : heard? settings before.1.1.config frame with
          | none =>
              rw [hheard, Option.toList_none, List.length_nil] at hcounted
              omega
          | some heard =>
              rw [hheard, Option.toList_some, List.length_singleton] at hcounted
              have hlast : Ending settings before after ([] ++ [frame]) unanswered .stopped :=
                .counted hcount hless (by omega) (by simp [hheard])
              exact hlast
      | _ :: _ :: _ => simp at hsingle
  | counted hcount hless hserved hlast =>
      rw [← List.append_assoc]
      exact .counted hcount (hgoes.unserved _ hcount) hserved (hstep.config ▸ hlast)

omit [World ω] [Transport ω σ] [Terminal ω] in
/-- As many messages as asked for are served at most, unless more were served before. -/
theorem Ending.served_le {before after : (Channel σ × Surroundings ω) × Nat}
    {answered unanswered : List (Option Bytes)} {conversation : Conversation} {count : Nat}
    (h : Ending settings before after answered unanswered conversation)
    (hcount : settings.count = some count) : after.2 ≤ max count before.2 := by
  cases h with
  | closed hfewer => exact Nat.le_trans (Nat.le_of_lt (hfewer count hcount)) (Nat.le_max_left ..)
  | satisfied _ _ hsame => exact hsame ▸ Nat.le_max_right ..
  | counted hcount' _ hserved _ =>
      cases hcount.symm.trans hcount'
      exact hserved ▸ Nat.le_max_left ..

/-- The rounds of a conversation.  Each one but the last takes a frame, or waits in a pause. -/
theorem talk_loops (hsome : settings.terminator ≠ some "") (frames : List (Option Bytes))
    (state : (Channel σ × Surroundings ω) × Nat)
    (hbrings : dialogue.Brings (below state.1) (framesWire settings frames))
    (hframed : ∀ frame ∈ frames, Framed settings state.1.1.config frame) :
    ∃ answered unanswered conversation after, frames = answered ++ unanswered ∧
      Loops (talkRound settings) () state (.ok conversation) after ∧
      (dialogue.record settings).Served state after answered unanswered ∧
      Ending settings state after answered unanswered conversation := by
  have hrunning : Terminal.isInterrupted state.1.2.world = false := dialogue.running hbrings
  -- A round that finds nothing uses up a pause; any other one takes a frame, or is the last one.
  by_cases hgoes : ∀ count, settings.count = some count → state.2 < count
  case neg =>
    obtain ⟨count, hcount, hserved⟩ : ∃ count, settings.count = some count ∧ count ≤ state.2 := by
      simpa using hgoes
    exact ⟨[], frames, .stopped, state, rfl, .done (talkRound_stops hrunning hcount hserved),
      .silent hbrings rfl rfl rfl rfl, .satisfied hcount hserved rfl⟩
  case pos =>
    replace hgoes : GoesOn settings state := ⟨hrunning, hgoes⟩
    obtain ⟨ready, polled, hpoll, hpolled, hsame, -, hpauses⟩ :=
      dialogue.poll (some pollInterval) hbrings
    let between : Channel σ × Surroundings ω :=
      ({ state.1.1 with transport := polled.1 }, { state.1.2 with world := polled.2 })
    have hready : (messageReady (some pollInterval) : ChannelAction σ ω Bool).Returns state.1
        (.ok ready) between := messageReady_returns hpoll
    have hwaited : (dialogue.record settings).Served state (between, state.2) [] frames :=
      .silent hpolled hsame rfl rfl rfl
    cases ready with
    | false =>
        have hfewer : dialogue.pauses (below between) < dialogue.pauses (below state.1) := hpauses
        obtain ⟨answered, unanswered, conversation, after, hall, hloops, hserved, hending⟩ :=
          talk_loops hsome frames (between, state.2) hpolled hframed
        exact ⟨answered, unanswered, conversation, after, hall,
          .again (talkRound_idles hgoes hready) hloops, hwaited.trans hserved,
          hending.earlier hgoes hwaited (Nat.zero_le 1)⟩
    | true =>
        cases frames with
        | nil =>
            obtain ⟨after, hexchange, hserved⟩ :=
              exchange_closes hsome (between, state.2) hpolled hpauses
            have hround := talkRound_exchanges hgoes hready hexchange
            have hdone := hwaited.trans hserved
            refine ⟨[], [], .ended, after, rfl, .done hround, hdone, .closed fun count hcount => ?_⟩
            have hcounted : after.2 = state.2 := hdone.counted
            exact hcounted ▸ hgoes.unserved count hcount
        | cons frame frames =>
            obtain ⟨taken, hexchange, hserved⟩ := exchange_serves hsome (between, state.2) hpolled
              hpauses (hframed frame List.mem_cons_self)
            have hround := talkRound_exchanges hgoes hready hexchange
            have htaken := hwaited.trans hserved
            obtain ⟨answered, unanswered, conversation, after, hall, hloops, hlater, hending⟩ :=
              talk_loops hsome frames taken htaken.brings fun later hlater => by
                rw [htaken.config]
                exact hframed later (List.mem_cons_of_mem frame hlater)
            exact ⟨frame :: answered, unanswered, conversation, after,
              by rw [hall, List.cons_append], .again hround hloops, htaken.trans hlater,
              hending.earlier hgoes htaken (Nat.le_refl 1)⟩
  termination_by (frames.length, dialogue.pauses (below state.1))

/-- A conversation with a peer that sends complete frames and closes ends.  Each frame in which
something is heard is answered once, in their order, with the length of its payload, and a report
that shows both is printed; the others are skipped.  If a number of messages was asked for, no more
than that are served, and no byte behind the last frame that was answered is taken. -/
theorem talk_serves (dialogue : Dialogue ω σ) (frames : List (Option Bytes))
    {state : (Channel σ × Surroundings ω) × Nat} (hsome : settings.terminator ≠ some "")
    (hbrings : dialogue.Brings (below state.1) (framesWire settings frames))
    (hframed : ∀ frame ∈ frames, Framed settings state.1.1.config frame) :
    ∃ answered unanswered conversation after, frames = answered ++ unanswered ∧
      (talk settings).Returns state (.ok conversation) after ∧
      (dialogue.record settings).Served state after answered unanswered ∧
      (∃ report, (dialogue.output (below after.1)).printed =
          (dialogue.output (below state.1)).printed ++ report ∧
        Reports settings.format
          ((dialogue.record settings).heardIn state.1.1.config answered) report) ∧
      Ending settings state after answered unanswered conversation ∧
      ∀ count, settings.count = some count → after.2 ≤ max count state.2 := by
  obtain ⟨answered, unanswered, conversation, after, hall, hloops, hserved, hending⟩ :=
    talk_loops hsome frames state hbrings hframed
  exact ⟨answered, unanswered, conversation, after, hall, hloops.returns, hserved,
    hserved.reports, hending, fun _ hcount => hending.served_le hcount⟩

/-- A channel over the only link of its host, which brings these bytes, three at a time at most. -/
def linkedStream (bytes : Bytes) : Channel Handle × Surroundings Host :=
  (opened (.link 0 .stream) .localEnd { diagnostics := { sink := none, slot := 0 } },
    Surroundings.withLink { stream := bytes, ended := true, readChunk := some 3 })

/-- Two messages are asked for, each ending with a dollar sign. -/
def twoDollars : EchoSettings :=
  { terminator := some "$", count := some 2, stallTimeout := .ofMillis 5000, format := .json }

/-- A frame that is not text, and three that are. -/
def fourFrames : List (Option Bytes) := [some [255], some [104, 34], some [], some [104]]

/-- The first frame is skipped, the next two are answered and reported, and the last one stays where
it is. -/
theorem talk_serves_two : ∃ after,
    (talk twoDollars).Returns (linkedStream (framesWire twoDollars fourFrames).flatten, 0)
        (.ok .stopped) after ∧
      (Link.dialogue 0).Brings (below after.1) [frameWire twoDollars (some [104])] ∧
      (Link.dialogue 0).output (below after.1) =
        { written := int32Wire 2 ++ int32Wire 0,
          printed := "\x7b\"event\":\"echo\",\"message\":\"h\\\"\",\"length\":2\x7d\n" ++
            "\x7b\"event\":\"echo\",\"message\":\"\",\"length\":0\x7d\n" } ∧ after.2 = 2 := by
  have hbrings : (Link.dialogue 0).Brings
      (below (linkedStream (framesWire twoDollars fourFrames).flatten))
      (framesWire twoDollars fourFrames) :=
    ⟨⟨_, by decide, rfl⟩, rfl, _, rfl, ⟨by decide, rfl, by decide, rfl, rfl, rfl, rfl, rfl⟩, rfl⟩
  have hframed : ∀ frame ∈ fourFrames, Framed twoDollars (linkedStream []).1.config frame := by
    intro frame hframe
    simp only [fourFrames, List.mem_cons, List.not_mem_nil, or_false] at hframe
    obtain rfl | rfl | rfl | rfl := hframe <;> exact ⟨_, rfl, by decide⟩
  obtain ⟨answered, unanswered, conversation, after, hall, hreturns, hserved, -, hending, -⟩ :=
    @talk_serves Host Handle _ _ _ twoDollars (Link.dialogue 0) fourFrames (_, 0) (by decide)
      hbrings hframed
  have hsizes : answered.length + unanswered.length = 4 := by
    rw [← List.length_append, ← hall]
    rfl
  have hprefix : answered = fourFrames.take answered.length := by rw [hall, List.take_left]
  have hrest : unanswered = fourFrames.drop answered.length := by rw [hall, List.drop_left]
  have hheard : ∀ k ≤ 4,
      (((Link.dialogue 0).record twoDollars).heardIn (linkedStream []).1.config
        (fourFrames.take k)).length = k - 1 := by
    decide
  have hcounted : after.2 = answered.length - 1 := by
    have htaken : after.2 = 0 + (((Link.dialogue 0).record twoDollars).heardIn
        (linkedStream []).1.config answered).length := hserved.counted
    rw [htaken, hprefix, hheard _ (by omega), ← hprefix, Nat.zero_add]
  have hthree : answered.length = 3 ∧ conversation = .stopped := by
    cases hending with
    | closed hfewer =>
        have hless := hfewer 2 rfl
        rw [List.length_nil] at hsizes
        omega
    | satisfied hcount hle =>
        cases hcount
        contradiction
    | counted hcount hless htwo hlast =>
        cases hcount
        exact ⟨by omega, rfl⟩
  obtain ⟨hlength, rfl⟩ := hthree
  rw [hlength] at hprefix hrest hcounted
  subst hprefix hrest
  exact ⟨after, hreturns, hserved.brings, hserved.output.trans rfl, hcounted⟩

end Echo

end TypedChannel.Cli
