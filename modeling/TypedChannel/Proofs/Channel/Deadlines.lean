import TypedChannel.Proofs.Channel.Parts
import TypedChannel.Proofs.Transport.Stamped
/-!
# TypedChannel.Proofs.Channel.Deadlines

One deadline for all the receives that an accept makes.

The deadline of an accept is handed down as what is left of it: from an array
to its strings, from a string to its length and its bytes, from a terminated
message to each of its bytes, and from each of those to the rounds of a
receive.  What a level is given upholds the deadline of the whole
(`Deadline.Upholds`), so the lowest level, which waits, is given what is left
of that (`Operation.oneDeadline`).
-/

namespace TypedChannel

open TypedChannel.Action

namespace Channel

variable {ω σ α β : Type} [World ω] {clock : StillClock ω} {deadline : Deadline}
  {state : Channel (Stamped clock.toClock σ) × Surroundings ω}

/-- The calls of the transport under a channel and the time of the world around it. -/
def timeline (state : Channel (Stamped clock.toClock σ) × Surroundings ω) : Timeline :=
  ⟨state.1.transport.calls, clock.now state.2.world⟩

/-! ## Parts that take no time -/

theorem fail_paces (e : ChannelError) :
    Paces timeline deadline (fail e : ChannelAction _ ω α) state := by
  refine Paces.idle fun patience result after hrun => ?_
  cases hrun
  exact congrArg (Timeline.mk state.1.transport.calls) (clock.note_still _ _)

theorem note_paces (event : Log.Event) :
    Paces timeline deadline (note event : ChannelAction _ ω Unit) state :=
  Paces.idle (ensures_change
    (congrArg (Timeline.mk state.1.transport.calls) (clock.note_still event state.2.world)))

theorem record_paces (direction : Direction) (depth : Nat) (description value : String) :
    Paces timeline deadline (record direction depth description value : ChannelAction _ ω Unit)
      state := by
  refine Paces.idle (ensures_change ?_)
  dsimp only
  cases state.2.diagnostics.trace (Diagnostics.line direction depth description value)
      state.1.config.diagnostics with
  | mk error diagnostics =>
      cases error with
      | none => rfl
      | some e => exact congrArg (Timeline.mk state.1.transport.calls) (clock.note_still _ _)

theorem traced_paces {direction : Direction} {depth : Nat} {description : String}
    {shown : α → String} {x : ChannelAction _ ω α} (hx : Paces timeline deadline x state) :
    Paces timeline deadline (traced direction depth description shown x) state :=
  hx.bind fun _ _ _ => (record_paces _ _ _ _).bind fun _ _ _ => Paces.pure _

theorem decodeSlot_paces (kind : PrimitiveKind) (wire : Bytes) :
    Paces timeline deadline (decodeSlot kind wire : ChannelAction _ ω (Primitive kind)) state := by
  unfold decodeSlot
  cases Codec.decode kind wire with
  | ok value => exact Paces.pure value
  | error e => exact fail_paces _

theorem decodeText_paces (bytes : Bytes) :
    Paces timeline deadline (decodeText bytes : ChannelAction _ ω String) state := by
  unfold decodeText
  cases Text.Utf8.decode bytes with
  | ok text => exact Paces.pure text
  | error fault => exact fail_paces _

/-- The same of a channel whose caller has slots to fill. -/
def fillTimeline {kind : PrimitiveKind}
    (state : (Channel (Stamped clock.toClock σ) × Surroundings ω) × List (Primitive kind)) :
    Timeline :=
  timeline state.1

section Filling

variable {kind : PrimitiveKind}
  {filling : (Channel (Stamped clock.toClock σ) × Surroundings ω) × List (Primitive kind)}

theorem besideSlots_paces {x : ChannelAction _ ω α} (hx : Paces timeline deadline x filling.1) :
    Paces fillTimeline deadline (besideSlots x : FillAction _ ω kind α) filling :=
  Paces.on rfl (fun _ => rfl) hx

theorem fillSlots_paces (index count : Nat) (wire : Bytes) :
    Paces fillTimeline deadline (fillSlots index count wire : FillAction _ ω kind Unit)
      filling := by
  induction count generalizing index wire filling with
  | zero => exact Paces.pure ()
  | succ count ih =>
      refine (besideSlots_paces (decodeSlot_paces kind _)).bind fun value _ _ => ?_
      exact (Paces.idle (ensures_change rfl)).bind fun _ _ _ => ih _ _

end Filling

/-! ## Looking at the clock -/

/-- What follows starts at the same time and has the deadline of a timeout. -/
theorem startNow_bind_paces {timeout : Option Duration} {f : Deadline → ChannelAction _ ω α}
    (hf : ∀ between, timeline between = timeline state →
      Paces timeline deadline (f (Deadline.starting ⟨(timeline state).now⟩ timeout)) between) :
    Paces timeline deadline (inWorld (Deadline.startNow timeout) >>= f) state := by
  have hsame : Timeline.mk state.1.transport.calls
      (clock.now (Deadline.startNow timeout state.2.world).2) = timeline state :=
    congrArg (Timeline.mk _) (clock.now_startNow state.2.world timeout)
  refine Paces.step_bind hsame ?_
  dsimp only
  rw [clock.startNow_eq state.2.world timeout]
  exact hf _ hsame

/-- What follows starts at the same time and is given what is left of a deadline. -/
theorem optionsWithin_bind_paces {options : ReceiveOptions} {since : Instant} {part : Deadline}
    {f : ReceiveOptions → ChannelAction _ ω α} (hpart : part.Upholds since deadline)
    (hsince : since.nanos ≤ (timeline state).now)
    (hf : ∀ within between, deadline.Grants ⟨(timeline between).now⟩ within.timeout →
      (timeline state).now ≤ (timeline between).now → Paces timeline deadline (f within) between) :
    Paces timeline deadline (optionsWithin options part >>= f) state := by
  have hsame : Timeline.mk state.1.transport.calls
      (clock.now (part.remainingNow state.2.world).2) = timeline state :=
    congrArg (Timeline.mk _) (clock.now_remainingNow state.2.world part)
  unfold optionsWithin
  rw [bind_bind]
  refine Paces.step_bind hsame ?_
  dsimp only
  rw [clock.remainingNow_eq state.2.world part]
  refine hf _ _ ?_ (Nat.le_of_eq (congrArg Timeline.now hsame).symm)
  exact (congrArg Timeline.now hsame) ▸ hpart.grants hsince

/-! ## Accepts -/

variable [Transport ω σ] (forward : Forward clock.toClock σ)
include forward

section Accept

variable {options : ReceiveOptions}
  (hgrants : deadline.Grants ⟨(timeline state).now⟩ options.timeout)
include hgrants

theorem acceptBytes_paces (wanted : Nat) :
    Paces timeline deadline (acceptBytes wanted options : ChannelAction _ ω Bytes) state := by
  have hreceive : Paces timeline deadline
      (onTransport (Transport.receive wanted options.timeout options.everything) :
        ChannelAction _ ω _) state :=
    Paces.on rfl (fun _ => rfl)
      (Paces.attempt (Stamped.receive_paces forward hgrants wanted options.everything))
  refine hreceive.bind fun result between _ => ?_
  refine Paces.bind ?_ fun bytes between _ => ?_
  · cases result with
    | ok bytes => exact Paces.pure bytes
    | error cause => exact fail_paces _
  · refine Paces.bind (Paces.idle (ensures_change rfl)) fun _ between _ => ?_
    exact (note_paces _).bind fun _ _ _ => Paces.pure bytes

theorem acceptExactly_paces (wanted : Nat) :
    Paces timeline deadline (acceptExactly wanted options : ChannelAction _ ω Bytes) state := by
  have hcomplete : deadline.Grants ⟨(timeline state).now⟩ options.complete.timeout := hgrants
  refine (acceptBytes_paces forward hcomplete wanted).bind fun bytes between _ => ?_
  by_cases hshort : bytes.length < wanted
  · rw [if_pos hshort]
    exact fail_paces _
  · rw [if_neg hshort]
    exact Paces.pure bytes

theorem accept_paces (kind : PrimitiveKind) :
    Paces timeline deadline (accept kind options : ChannelAction _ ω (Primitive kind)) state :=
  (acceptExactly_paces forward hgrants _).bind fun wire _ _ => decodeSlot_paces kind wire

theorem acceptSlots_paces {kind : PrimitiveKind} (count : Nat)
    (answer : (Channel (Stamped clock.toClock σ) × Surroundings ω) × List (Primitive kind) → α) :
    Paces timeline deadline
      ((do acceptInto options; Action.see answer : FillAction _ ω kind α).on
        (fun state => (state, List.replicate count (.ofNat kind 0)))
        (fun (state, _) _ => state)) state := by
  refine Paces.on (rfl : fillTimeline (state, _) = timeline state) (fun _ => rfl) ?_
  refine Paces.bind ?_ fun _ _ _ => Paces.idle (ensures_see rfl)
  refine Paces.see_bind ?_
  refine (besideSlots_paces (acceptExactly_paces forward hgrants _)).bind fun wire _ _ => ?_
  exact fillSlots_paces _ _ wire

theorem acceptArray_paces (kind : PrimitiveKind) (count : Nat) :
    Paces timeline deadline
      (acceptArray kind count options : ChannelAction _ ω (List (Primitive kind))) state :=
  acceptSlots_paces forward hgrants count _

theorem acceptStringBytes_paces :
    Paces timeline deadline (acceptStringBytes options : ChannelAction _ ω (Option Bytes))
      state := by
  unfold acceptStringBytes
  refine startNow_bind_paces fun start hstart => ?_
  have hlength : deadline.Grants ⟨(timeline start).now⟩ options.timeout := hstart ▸ hgrants
  refine (accept_paces forward hlength _).bind fun value between hlater => ?_
  rw [hstart] at hlater
  by_cases hnull : value.toInt = nullLength
  · rw [if_pos hnull]
    exact Paces.pure none
  · rw [if_neg hnull]
    by_cases hnegative : value.toInt < nullLength
    · rw [if_pos hnegative]
      exact fail_paces _
    · rw [if_neg hnegative]
      refine Paces.see_bind ?_
      by_cases hlong : between.1.config.maxStringLength < value.toInt.toNat
      · rw [if_pos hlong]
        exact fail_paces _
      · rw [if_neg hlong]
        refine optionsWithin_bind_paces hgrants hlater fun within _ hwithin _ => ?_
        exact (acceptExactly_paces forward hwithin _).bind fun _ _ _ => Paces.pure _

theorem acceptString_paces :
    Paces timeline deadline (acceptString options : ChannelAction _ ω (Option String)) state := by
  refine (acceptStringBytes_paces forward hgrants).bind fun value _ _ => ?_
  cases value with
  | none => exact Paces.pure none
  | some bytes => exact (decodeText_paces bytes).bind fun _ _ _ => Paces.pure _

end Accept

/-! ### Several receives

They come after the deadline `part` was made and are given what is left of that one. -/

section Within

variable {options : ReceiveOptions} {since : Instant} {part : Deadline}
  (hpart : part.Upholds since deadline) (hsince : since.nanos ≤ (timeline state).now)
include hpart hsince

/-- Each string is given what the ones before it have left. -/
theorem acceptStrings_paces (count : Nat) (received : List (Option String)) :
    Paces timeline deadline
      (acceptStrings options part count received : ChannelAction _ ω (List (Option String)))
      state := by
  induction count generalizing received state with
  | zero => exact Paces.pure _
  | succ count ih =>
      refine optionsWithin_bind_paces hpart hsince fun within start hwithin hstart => ?_
      refine (acceptString_paces forward hwithin).bind fun value between hlater => ?_
      exact ih (Nat.le_trans hsince (Nat.le_trans hstart hlater)) _

theorem acceptByte_paces :
    Paces timeline deadline (acceptByte options part : ChannelAction _ ω UInt8) state := by
  refine optionsWithin_bind_paces hpart hsince fun within _ hwithin _ => ?_
  exact (acceptExactly_paces forward hwithin 1).bind fun _ _ _ => Paces.pure _

/-- However many bytes come before the terminator, each is given what the ones before it have
left. -/
theorem terminatedRounds_paces (terminator : Bytes) (start : Nat × Bytes) :
    Paces timeline deadline
      (Action.iterate (terminatedRound terminator options part) start : ChannelAction _ ω _)
      state := by
  refine Paces.iterate start fun found between hlater => ?_
  obtain ⟨room, seen⟩ := found
  cases room with
  | zero => exact Paces.pure _
  | succ room =>
      refine (acceptByte_paces forward hpart (Nat.le_trans hsince hlater)).bind
        fun byte _ _ => ?_
      dsimp only
      split
      · exact Paces.pure _
      · exact Paces.pure _

theorem resyncRounds_paces (terminator : Bytes) (start : Nat × Bytes) :
    Paces timeline deadline
      (Action.iterate (resyncRound terminator options part) start : ChannelAction _ ω Nat)
      state := by
  refine Paces.iterate start fun skipped between hlater => ?_
  obtain ⟨consumed, window⟩ := skipped
  refine (acceptByte_paces forward hpart (Nat.le_trans hsince hlater)).bind fun byte _ _ => ?_
  dsimp only
  split
  · exact Paces.pure _
  · exact Paces.pure _

end Within

section AcceptSeveral

variable {options : ReceiveOptions}
  (hgrants : deadline.Grants ⟨(timeline state).now⟩ options.timeout)
include hgrants

theorem acceptStringArray_paces :
    Paces timeline deadline
      (acceptStringArray options : ChannelAction _ ω (List (Option String))) state := by
  unfold acceptStringArray
  refine startNow_bind_paces fun start hstart => ?_
  have hcount : deadline.Grants ⟨(timeline start).now⟩ options.timeout := hstart ▸ hgrants
  refine (accept_paces forward hcount _).bind fun count between hlater => ?_
  rw [hstart] at hlater
  by_cases hnegative : count.toInt < 0
  · rw [if_pos hnegative]
    exact fail_paces _
  · rw [if_neg hnegative]
    exact acceptStrings_paces forward hgrants hlater _ _

theorem acceptTerminatedStream_paces (terminator : Bytes) :
    Paces timeline deadline
      (acceptTerminatedStream terminator options : ChannelAction _ ω Bytes) state := by
  unfold acceptTerminatedStream
  refine Paces.see_bind (startNow_bind_paces fun start hstart => ?_)
  have hbegun : (timeline state).now ≤ (timeline start).now :=
    Nat.le_of_eq (congrArg Timeline.now hstart).symm
  refine (terminatedRounds_paces forward hgrants hbegun _ _).bind fun found between hlater => ?_
  cases found with
  | inl payload => exact Paces.pure payload
  | inr full =>
      refine Paces.bind ?_ fun _ _ _ => fail_paces _
      exact resyncRounds_paces forward hgrants (Nat.le_trans hbegun hlater) _ _

theorem acceptTerminatedDatagram_paces (terminator : Bytes) :
    Paces timeline deadline
      (acceptTerminatedDatagram terminator options : ChannelAction _ ω Bytes) state := by
  unfold acceptTerminatedDatagram
  have hpartial : deadline.Grants ⟨(timeline state).now⟩ options.partial.timeout := hgrants
  refine Paces.see_bind ((acceptBytes_paces forward hpartial _).bind fun datagram _ _ => ?_)
  cases Bytes.indexOf? terminator datagram with
  | some length => exact Paces.pure _
  | none => exact fail_paces _

theorem acceptTerminatedBytes_paces (terminator : Bytes) :
    Paces timeline deadline
      (acceptTerminatedBytes terminator options : ChannelAction _ ω Bytes) state := by
  unfold acceptTerminatedBytes
  by_cases hempty : terminator.isEmpty = true
  · rw [if_pos hempty]
    exact fail_paces _
  · rw [if_neg hempty]
    refine Paces.see_bind ?_
    cases Transport.kind ω state.1.transport with
    | datagram => exact acceptTerminatedDatagram_paces forward hgrants terminator
    | stream | pipe => exact acceptTerminatedStream_paces forward hgrants terminator

theorem acceptTerminated_paces (terminator : String) :
    Paces timeline deadline
      (acceptTerminated terminator options : ChannelAction _ ω String) state :=
  (acceptTerminatedBytes_paces forward hgrants _).bind fun bytes _ _ => decodeText_paces bytes

theorem acceptMessage_paces (request : Request) :
    Paces timeline deadline (acceptMessage options request : ChannelAction _ ω Message) state := by
  cases request with
  | primitive kind =>
      exact (accept_paces forward hgrants kind).bind fun _ _ _ => Paces.pure _
  | array kind count =>
      exact (acceptArray_paces forward hgrants kind count).bind fun _ _ _ => Paces.pure _
  | slots kind count => exact acceptSlots_paces forward hgrants count _
  | bytes count => exact (acceptBytes_paces forward hgrants count).bind fun _ _ _ => Paces.pure _
  | string => exact (acceptString_paces forward hgrants).bind fun _ _ _ => Paces.pure _
  | stringBytes => exact (acceptStringBytes_paces forward hgrants).bind fun _ _ _ => Paces.pure _
  | strings => exact (acceptStringArray_paces forward hgrants).bind fun _ _ _ => Paces.pure _
  | terminated terminator =>
      exact (acceptTerminated_paces forward hgrants terminator).bind fun _ _ _ => Paces.pure _
  | terminatedBytes terminator =>
      exact (acceptTerminatedBytes_paces forward hgrants terminator).bind fun _ _ _ => Paces.pure _

theorem acceptMessageTraced_paces (depth : Nat) (description : String) (request : Request) :
    Paces timeline deadline
      (acceptMessageTraced depth description options request : ChannelAction _ ω Message)
      state := by
  have hplain := acceptMessage_paces forward hgrants request
  cases request with
  | primitive kind =>
      exact (traced_paces (accept_paces forward hgrants kind)).bind fun _ _ _ => Paces.pure _
  | array kind count =>
      exact (traced_paces (acceptArray_paces forward hgrants kind count)).bind
        fun _ _ _ => Paces.pure _
  | bytes count =>
      exact (traced_paces (acceptBytes_paces forward hgrants count)).bind fun _ _ _ => Paces.pure _
  | string =>
      exact (traced_paces (acceptString_paces forward hgrants)).bind fun _ _ _ => Paces.pure _
  | strings =>
      exact (traced_paces (acceptStringArray_paces forward hgrants)).bind fun _ _ _ => Paces.pure _
  | terminated terminator =>
      exact (traced_paces (acceptTerminated_paces forward hgrants terminator)).bind
        fun _ _ _ => Paces.pure _
  | slots | stringBytes | terminatedBytes => exact hplain

end AcceptSeveral

/-! ## Every accept -/

/-- The options of an accept, traced or not. -/
def Operation.acceptOptions? : Operation → Option ReceiveOptions
  | accept options _ => some options
  | acceptTraced _ _ options _ => some options
  | _ => none

theorem Operation.perform_paces {operation : Operation} {options : ReceiveOptions}
    (haccept : operation.acceptOptions? = some options)
    (hgrants : deadline.Grants ⟨(timeline state).now⟩ options.timeout) :
    Paces timeline deadline (operation.perform : ChannelAction _ ω Unit) state := by
  cases operation with
  | accept options request =>
      cases haccept
      exact (acceptMessage_paces forward hgrants request).bind fun _ _ _ => Paces.pure ()
  | acceptTraced depth description options request =>
      cases haccept
      exact (acceptMessageTraced_paces forward hgrants depth description request).bind
        fun _ _ _ => Paces.pure ()
  | send | sendTraced | ready | flush => contradiction

/-- Every wait of an accept is given what has not passed of the timeout since the accept began, and
nothing once that is longer; without a timeout, or with one whose end cannot be told, it is given
none.  Time passes only in the calls, so an accept lasts no longer than its timeout and what the
calls take beyond what they are given: all of a read, and of a wait what is longer than its own
timeout.  What an accept that does not end asks for, it also asks of a transport that breaks off
there, so this holds of its calls too. -/
theorem Operation.oneDeadline {operation : Operation} {options : ReceiveOptions}
    (haccept : operation.acceptOptions? = some options)
    (state : Channel (Stamped clock.toClock σ) × Surroundings ω) :
    (operation.perform : ChannelAction _ ω Unit).Ensures state fun _ after =>
      ∃ calls, after.1.transport.calls = state.1.transport.calls ++ calls ∧
        Spans (clock.now state.2.world) calls (clock.now after.2.world) ∧
        ((∀ t, options.timeout = some t → Instant.after? ⟨clock.now state.2.world⟩ t = none) →
          ∀ stamped ∈ calls, stamped.Given none) ∧
        ∀ t, options.timeout = some t → Instant.after? ⟨clock.now state.2.world⟩ t ≠ none →
          (∀ stamped ∈ calls, stamped.began < Instant.limit →
            stamped.Given (some ⟨t.nanos - (stamped.began - clock.now state.2.world)⟩)) ∧
          (clock.now after.2.world < Instant.limit →
            clock.now after.2.world ≤ clock.now state.2.world + t.nanos + overtime calls) := by
  have hgrants := Deadline.grants_starting ⟨clock.now state.2.world⟩ options.timeout
  refine (perform_paces forward haccept hgrants).mono fun _ after hcalls => ?_
  obtain ⟨calls, happend, hspans, hontime⟩ := hcalls
  refine ⟨calls, happend, hspans, fun huntold stamped hmem => ?_, fun t htimeout htold => ⟨?_, ?_⟩⟩
  · have hnone : (Deadline.starting ⟨clock.now state.2.world⟩ options.timeout).at? = none := by
      cases htimeout : options.timeout with
      | none => rfl
      | some t => exact huntold t htimeout
    have hgiven := hontime stamped hmem (absurd hnone)
    rwa [Deadline.remaining_of_untold hnone] at hgiven
  · intro stamped hmem hlimit
    have hgiven := hontime stamped hmem fun _ => hlimit
    have hlater : clock.now state.2.world ≤ stamped.began := (hspans.began_mem hmem).1
    rwa [htimeout, Deadline.remaining_starting htold hlater] at hgiven
  · intro hlimit
    rw [htimeout, Deadline.starting_of_told htold] at hontime
    have hlast := hspans.last_le hontime hlimit
    have hlatest : max (clock.now state.2.world) (clock.now state.2.world + t.nanos) =
        clock.now state.2.world + t.nanos := Nat.max_eq_right (Nat.le_add_right _ _)
    exact hlatest ▸ hlast

end Channel

/-! ## A slow peer -/

/-- A world that is nothing but its time. -/
structure Ticks where
  nanos : Nat

instance : World Ticks where
  look ticks := (⟨ticks.nanos⟩, ticks)
  note _ ticks := ticks

def Ticks.clock : StillClock Ticks where
  now := nanos
  look _ := ⟨Nat.le_refl _, Nat.le_refl _⟩
  look_still _ := rfl
  note_still _ _ := rfl

/-- Bytes that come one at a time: the next one is there after two nanoseconds, and to take it is
one more. -/
structure Trickle where
  incoming : Bytes

instance : Transport Ticks Trickle where
  kind _ := .stream
  readRaw room := Action.step fun (trickle, ticks) =>
    (trickle.incoming.take (min room 1),
      (⟨trickle.incoming.drop (min room 1)⟩, ⟨ticks.nanos + 1⟩))
  pollReadable timeout := Action.step fun (trickle, ticks) =>
    match timeout with
    | none => (true, (trickle, ⟨ticks.nanos + 2⟩))
    | some t => (decide (2 ≤ t.nanos), (trickle, ⟨ticks.nanos + min t.nanos 2⟩))
  writeRaw bytes := pure bytes.length
  flushRaw := pure ()
  close := pure ()

theorem Trickle.forward : Forward Ticks.clock.toClock Trickle where
  read room state := ensures_step (Nat.le_succ _)
  poll timeout state := by
    refine ensures_step ?_
    cases timeout with
    | none => exact Nat.le_add_right _ _
    | some t => exact Nat.le_add_right _ _

/-- Two strings for which twenty nanoseconds are not enough. -/
def Trickle.twoStrings : Channel (Stamped Ticks.clock.toClock Trickle) × Surroundings Ticks :=
  (Channel.opened ⟨⟨[0, 0, 0, 2, 0, 0, 0, 1, 97, 0, 0, 0, 0]⟩, []⟩ .localEnd
      { diagnostics := { sink := none, slot := 0 } },
    { world := ⟨0⟩, diagnostics := .empty })

namespace Channel

/-- Each wait is given what is left, the last one nothing. -/
theorem Operation.oneDeadline_twoStrings : ∃ result after,
    (Operation.accept { timeout := some ⟨20⟩ } .strings).perform 8 Trickle.twoStrings =
      some (result, after) ∧
    after.1.transport.calls.length = 15 ∧
    (∀ stamped ∈ after.1.transport.calls, stamped.Given (some ⟨20 - stamped.began⟩)) ∧
    after.2.world.nanos ≤ 20 + overtime after.1.transport.calls := by
  obtain ⟨result, after, hrun, hlength, hended⟩ : ∃ result after,
      (Operation.accept { timeout := some ⟨20⟩ } .strings).perform 8 Trickle.twoStrings =
        some (result, after) ∧
      after.1.transport.calls.length = 15 ∧ after.2.world.nanos = 21 := ⟨_, _, rfl, rfl, rfl⟩
  obtain ⟨calls, hcalls, hspans, -, htold⟩ :=
    Operation.oneDeadline Trickle.forward rfl Trickle.twoStrings 8 result after hrun
  obtain ⟨hgiven, hlast⟩ := htold ⟨20⟩ rfl (by decide)
  have hsame : after.1.transport.calls = calls := hcalls
  have hlimit : after.2.world.nanos < Instant.limit := by
    rw [hended]
    decide
  refine ⟨result, after, hrun, hlength, fun stamped hmem => ?_, hsame ▸ hlast hlimit⟩
  rw [hsame] at hmem
  exact hgiven stamped hmem (Nat.lt_of_le_of_lt (hspans.began_mem hmem).2 hlimit)

end Channel

end TypedChannel
