import TypedChannel.Proofs.Channel.Parts
import TypedChannel.Proofs.Host.Link
import TypedChannel.Proofs.Transport.Transmit
import TypedChannel.Proofs.Wire
/-!
# TypedChannel.Proofs.Channel.Validation

What a send has done when it refuses its argument.

1. Every send but one looks at its whole argument before the first transmit, so
   when it refuses that, nothing has moved.
2. An array of strings looks at each string when its turn comes.  When it
   refuses one, the count and the strings before have been sent and counted,
   and the peer still waits for the rest.
-/

namespace TypedChannel

/-- The strings of a message that sends their number before it looks at them. -/
def Message.announced? : Message → Option (List (Option String))
  | .strings values => if values.length ≤ maxAnnounced then some values else none
  | _ => none

namespace Channel

variable {σ ω : Type} {state : Channel (Recorded σ) × Surroundings ω}

/-! ## Sends that deliver -/

/-- Between the two `bytes` were sent and counted. -/
def Delivered (before after : Channel (Recorded σ)) (bytes : Bytes) : Prop :=
  ∃ calls, after.transport.calls = before.transport.calls ++ calls ∧ accepted calls = bytes ∧
    after.bytesSent = before.bytesSent + bytes.length ∧ after.config = before.config

theorem Delivered.refl (channel : Channel (Recorded σ)) : Delivered channel channel [] :=
  ⟨[], by simp, rfl, rfl, rfl⟩

theorem Delivered.trans {before between after : Channel (Recorded σ)} {bytes more : Bytes}
    (h : Delivered before between bytes) (h' : Delivered between after more) :
    Delivered before after (bytes ++ more) := by
  obtain ⟨calls, hcalls, haccepted, hsent, hconfig⟩ := h
  obtain ⟨calls', hcalls', haccepted', hsent', hconfig'⟩ := h'
  have hboth : after.transport.calls = before.transport.calls ++ (calls ++ calls') := by
    rw [hcalls', hcalls, List.append_assoc]
  have hmoved : accepted (calls ++ calls') = bytes ++ more := by
    rw [accepted_append, haccepted, haccepted']
  have hcounted : after.bytesSent = before.bytesSent + (bytes ++ more).length := by
    rw [hsent', hsent, List.length_append, Nat.add_assoc]
  exact ⟨calls ++ calls', hboth, hmoved, hcounted, hconfig'.trans hconfig⟩

theorem Delivered.failed {before between after : Channel (Recorded σ)} {bytes : Bytes}
    (h : Delivered before between bytes) (hsame : SameButErrors between after) :
    Delivered before after bytes := by
  obtain ⟨_, _, rfl⟩ := hsame
  exact h

theorem SameButErrors.delivered {before after : Channel (Recorded σ)}
    (h : SameButErrors before after) : Delivered before after [] :=
  (Delivered.refl before).failed h

/-- From `state` a send either delivers `bytes` or is ended by the transport. -/
def Delivers (state : Channel (Recorded σ) × Surroundings ω) (bytes : Bytes)
    (x : ChannelAction (Recorded σ) ω Unit) : Prop :=
  x.Ensures state fun result after => match result with
    | .ok () => Delivered state.1 after.1 bytes
    | .error e => e.isTransport = true

theorem Delivers.bind {bytes more : Bytes} {x y : ChannelAction (Recorded σ) ω Unit}
    (hx : Delivers state bytes x)
    (hy : ∀ between : Channel (Recorded σ) × Surroundings ω,
      between.1.config = state.1.config → Delivers between more y) :
    Delivers state (bytes ++ more) (x >>= fun _ => y) := by
  refine Action.Ensures.bind hx ?_ fun _ _ h => h
  intro _ between hmid
  obtain ⟨calls, hcalls, haccepted, hsent, hconfig⟩ := hmid
  refine (hy between hconfig).mono ?_
  intro result after hend
  cases result with
  | error e => exact hend
  | ok _ => exact Delivered.trans ⟨calls, hcalls, haccepted, hsent, hconfig⟩ hend

variable [World ω] [Transport ω σ]

theorem sendBytes_delivers (bytes : Bytes) : Delivers state bytes (sendBytes bytes) := by
  refine (sendBytes_ensures bytes state).mono ?_
  intro result after hend
  obtain ⟨calls, hend⟩ := hend
  cases result with
  | ok _ =>
      obtain ⟨hall, transport, _, _, hafter, hcalls⟩ := hend
      rw [hafter]
      exact ⟨calls, hcalls, hall.accepted_of_finished, rfl, rfl⟩
  | error e =>
      obtain ⟨cause, left, hroot, -⟩ := hend
      simp [ChannelError.isTransport, hroot]

theorem send_delivers {kind : PrimitiveKind} (value : Primitive kind) :
    Delivers state (Codec.wire value) (send value) := by
  unfold send
  rw [Codec.encode_eq_wire]
  exact sendBytes_delivers _

theorem sendArray_delivers {kind : PrimitiveKind} (values : List (Primitive kind)) :
    Delivers state (values.flatMap Codec.wire) (sendArray values) := by
  unfold sendArray
  rw [Codec.foldlM_append_eq]
  exact sendBytes_delivers _

theorem sendStringBytes_delivers {value : Option Bytes}
    (hfits : FitsString state.1.config.maxStringLength value) :
    Delivers state (stringWire value) (sendStringBytes value) := by
  cases value with
  | none => exact send_delivers _
  | some bytes =>
      obtain ⟨hmax, hannounced⟩ := hfits bytes rfl
      refine Action.ensures_see_bind ?_
      rw [if_neg (by simp; omega)]
      exact (send_delivers _).bind fun _ _ => sendBytes_delivers bytes

/-- A string that does not fit is refused, and nothing else happens. -/
theorem sendStringBytes_refused {value : Option Bytes}
    (hlong : ¬ FitsString state.1.config.maxStringLength value) :
    (sendStringBytes value : ChannelAction (Recorded σ) ω Unit).Ensures state fun result after =>
      ∃ e bytes, result = .error e ∧ value = some bytes ∧
        e.root = .stringTooLong bytes.length state.1.config.maxStringLength ∧
        SameButErrors state.1 after.1 := by
  cases value with
  | none => exact absurd (fun bytes h => nomatch h) hlong
  | some bytes =>
      have htoo : state.1.config.maxStringLength < bytes.length ∨ maxAnnounced < bytes.length := by
        by_cases hmax : bytes.length ≤ state.1.config.maxStringLength
        · refine .inr (Nat.lt_of_not_le fun hannounced => hlong ?_)
          intro _ hsame
          cases hsame
          exact ⟨hmax, hannounced⟩
        · exact .inl (Nat.lt_of_not_le hmax)
      refine Action.ensures_see_bind ?_
      rw [if_pos (by simpa using htoo)]
      exact fail_ensures fun e after hroot hsame => ⟨e, bytes, rfl, rfl, hroot, hsame⟩

/-! ## Strings one after another -/

/-- Where a list of strings is refused: the strings before the first one that does not fit were
sent. -/
def BrokenOff (before after : Channel (Recorded σ)) (values : List (Option String))
    (e : ChannelError) : Prop :=
  ∃ sent long rest, values = sent ++ some long :: rest ∧
    (∀ value ∈ sent, FitsString before.config.maxStringLength (value.map Text.Utf8.encode)) ∧
    ¬ FitsString before.config.maxStringLength (some (Text.Utf8.encode long)) ∧
    e.root = .stringTooLong (Text.Utf8.encode long).length before.config.maxStringLength ∧
    Delivered before after (stringsWire sent)

omit [World ω] [Transport ω σ] in
/-- Strings that go before are sent as well. -/
theorem BrokenOff.cons {before between after : Channel (Recorded σ)}
    {value : Option String} {values : List (Option String)} {e : ChannelError}
    (hfits : FitsString before.config.maxStringLength (value.map Text.Utf8.encode))
    (hsent : Delivered before between (stringWire (value.map Text.Utf8.encode)))
    (h : BrokenOff between after values e) : BrokenOff before after (value :: values) e := by
  obtain ⟨sent, long, rest, hvalues, hall, hlong, hroot, hdelivered⟩ := h
  obtain ⟨-, -, -, -, hconfig⟩ := id hsent
  rw [hconfig] at hall hlong hroot
  have hfront : ∀ v ∈ value :: sent,
      FitsString before.config.maxStringLength (v.map Text.Utf8.encode) := by
    intro v hv
    cases hv with
    | head => exact hfits
    | tail _ hv => exact hall v hv
  have hboth : Delivered before after (stringsWire (value :: sent)) := by
    rw [stringsWire_cons]
    exact hsent.trans hdelivered
  exact ⟨value :: sent, long, rest, by rw [hvalues, List.cons_append], hfront, hlong, hroot, hboth⟩

theorem sendStrings_ensures (values : List (Option String))
    (state : Channel (Recorded σ) × Surroundings ω) :
    (sendStrings values : ChannelAction (Recorded σ) ω Unit).Ensures state fun result after =>
      match result with
      | .ok () => Delivered state.1 after.1 (stringsWire values)
      | .error e => e.isTransport = true ∨ BrokenOff state.1 after.1 values e := by
  induction values generalizing state with
  | nil => exact Action.ensures_pure (Delivered.refl state.1)
  | cons value values ih =>
      by_cases hfits : FitsString state.1.config.maxStringLength (value.map Text.Utf8.encode)
      · refine Action.Ensures.bind (sendStringBytes_delivers hfits) ?_ fun _ _ h => .inl h
        intro _ between hsent
        refine (ih between).mono fun result after hend => ?_
        cases result with
        | ok _ =>
            rw [stringsWire_cons]
            exact hsent.trans hend
        | error e => exact hend.imp_right (BrokenOff.cons hfits hsent)
      · refine Action.Ensures.bind (sendStringBytes_refused hfits) ?_ ?_
        · intro _ _ hend
          obtain ⟨_, _, hok, _⟩ := hend
          cases hok
        · intro e after hend
          obtain ⟨_, bytes, he, hvalue, hroot, hsame⟩ := hend
          cases he
          cases value with
          | none => cases hvalue
          | some long =>
              cases hvalue
              exact .inr ⟨[], long, values, rfl, by simp, hfits, hroot, hsame.delivered⟩

/-! ## Refusals -/

/-- What holds after a send that has refused its argument: nothing was asked of the transport and
nothing was counted, unless the number of strings was announced already; then it was sent, and so
were the strings before the first one that does not fit. -/
def Refuses (message : Message) (state : Channel (Recorded σ) × Surroundings ω)
    (result : Except ChannelError Unit) (after : Channel (Recorded σ) × Surroundings ω) : Prop :=
  ∀ e, result = .error e → e.isTransport = false →
    (after.1.transport.calls = state.1.transport.calls ∧ after.1.bytesSent = state.1.bytesSent ↔
      message.announced? = none) ∧
    ∀ values, message.announced? = some values → ∃ between,
      Delivered state.1 between (int32Wire values.length) ∧ BrokenOff between after.1 values e

omit [World ω] [Transport ω σ] in
theorem Delivers.refuses {bytes : Bytes} {x : ChannelAction (Recorded σ) ω Unit}
    (h : Delivers state bytes x) (message : Message) : x.Ensures state (Refuses message state) := by
  refine h.mono fun result after hend e he hcause => ?_
  rw [he] at hend
  have htransport : e.isTransport = true := hend
  rw [hcause] at htransport
  contradiction

omit [Transport ω σ] in
theorem fail_refuses (e : ChannelError) {message : Message} (hnone : message.announced? = none) :
    (fail e : ChannelAction (Recorded σ) ω Unit).Ensures state (Refuses message state) := by
  refine fail_ensures fun e' after _ hsame e'' _ _ => ?_
  obtain ⟨_, _, hafter⟩ := hsame
  rw [hnone, hafter]
  simp

theorem sendStringBytes_refuses (value : Option Bytes) {message : Message}
    (hnone : message.announced? = none) :
    (sendStringBytes value : ChannelAction (Recorded σ) ω Unit).Ensures state
      (Refuses message state) := by
  by_cases hfits : FitsString state.1.config.maxStringLength value
  · exact (sendStringBytes_delivers hfits).refuses message
  · refine (sendStringBytes_refused hfits).mono ?_
    intro result after hend e' _ _
    obtain ⟨e, bytes, -, -, -, _, _, hafter⟩ := hend
    rw [hnone, hafter]
    simp

theorem sendTerminatedBytes_refuses (payload terminator : Bytes) {message : Message}
    (hnone : message.announced? = none) :
    (sendTerminatedBytes payload terminator : ChannelAction (Recorded σ) ω Unit).Ensures state
      (Refuses message state) := by
  unfold sendTerminatedBytes
  by_cases hempty : terminator.isEmpty = true
  · rw [if_pos hempty]
    exact fail_refuses _ hnone
  · rw [if_neg hempty]
    exact (sendBytes_delivers _).refuses message

/-- Once the count has gone out it is too late to refuse a string without a trace. -/
theorem sendStringArray_refuses (values : List (Option String)) :
    (sendStringArray values : ChannelAction (Recorded σ) ω Unit).Ensures state
      (Refuses (.strings values) state) := by
  unfold sendStringArray
  by_cases hmany : maxAnnounced < values.length
  · rw [if_pos hmany]
    have hnone : (Message.strings values).announced? = none := if_neg (by omega)
    exact fail_refuses _ hnone
  · rw [if_neg hmany]
    have hsome : (Message.strings values).announced? = some values := if_pos (by omega)
    refine Action.Ensures.bind (send_delivers _) ?_ ?_
    · intro _ between hcount
      refine (sendStrings_ensures values between).mono fun result after hend e he hcause => ?_
      rw [he] at hend
      have hbroken : BrokenOff between.1 after.1 values e := by
        refine hend.resolve_left ?_
        rw [hcause]
        simp
      constructor
      · rw [hsome]
        obtain ⟨sent, _, _, _, _, _, _, hdelivered⟩ := hbroken
        obtain ⟨_, _, _, hsent, _⟩ := hcount.trans hdelivered
        rw [List.length_append, Codec.length_wire] at hsent
        simp [hsent, PrimitiveKind.width]
      · intro values' hvalues
        rw [hsome] at hvalues
        cases hvalues
        exact ⟨between.1, hcount, hbroken⟩
    · intro e after hend e' he hcause
      cases he
      have htransport : e.isTransport = true := hend
      rw [hcause] at htransport
      contradiction

/-- A send that refuses its argument has moved nothing, unless it is an array of strings whose
number could be announced: one of those has always moved something. -/
theorem sendMessage_refuses (message : Message)
    (state : Channel (Recorded σ) × Surroundings ω) :
    (sendMessage message : ChannelAction (Recorded σ) ω Unit).Ensures state
      (Refuses message state) := by
  cases message with
  | primitive kind value => exact (send_delivers value).refuses _
  | array kind values => exact (sendArray_delivers values).refuses _
  | bytes content => exact (sendBytes_delivers content).refuses _
  | string value => exact sendStringBytes_refuses _ rfl
  | stringBytes value => exact sendStringBytes_refuses value rfl
  | strings values => exact sendStringArray_refuses values
  | terminated payload terminator => exact sendTerminatedBytes_refuses _ _ rfl
  | terminatedBytes payload terminator => exact sendTerminatedBytes_refuses payload terminator rfl

omit [Transport ω σ] in
/-- A trace is written after a success, so it changes nothing about a refusal. -/
theorem traced_refuses {message : Message} {direction : Direction} {depth : Nat}
    {description : String} {shown : Unit → String} {x : ChannelAction (Recorded σ) ω Unit}
    (hx : x.Ensures state (Refuses message state)) :
    (traced direction depth description shown x).Ensures state (Refuses message state) := by
  refine hx.bind ?_ fun _ _ hend => hend
  intro _ between _
  exact Action.ensures_change_bind (Action.ensures_pure fun e he => nomatch he)

/-- What a send has moved when it refuses its argument, traced or not. -/
theorem refusal (message : Message) (state : Channel (Recorded σ) × Surroundings ω) :
    (sendMessage message : ChannelAction (Recorded σ) ω Unit).Ensures state
      (Refuses message state) ∧
    ∀ depth description, (sendMessageTraced depth description message :
      ChannelAction (Recorded σ) ω Unit).Ensures state (Refuses message state) := by
  have hplain := sendMessage_refuses message state
  constructor
  · exact hplain
  · intro depth description
    cases message with
    | primitive | array | bytes | string | strings | terminated => exact traced_refuses hplain
    | stringBytes | terminatedBytes => exact hplain

/-- Two strings of three and four bytes are sent where three are the limit: the second one is
refused, and eleven bytes are gone. -/
theorem refusal_too_late : ∃ (after : Channel (Recorded Handle) × Surroundings Host)
    (e : ChannelError),
    sendMessage (.strings [some "one", some "four"]) 3 (overLink 3, Surroundings.withLink {}) =
      some (.error e, after) ∧
    e.root = .stringTooLong 4 3 ∧ e.isTransport = false ∧ after.1.bytesSent = 11 ∧
    accepted after.1.transport.calls = [0, 0, 0, 2, 0, 0, 0, 3, 111, 110, 101] :=
  ⟨_, _, rfl, rfl, rfl, rfl, rfl⟩

end Channel

end TypedChannel
