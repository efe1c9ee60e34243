import TypedChannel.Proofs.Channel.Parts
import TypedChannel.Proofs.RoundTrip.Messages
/-!
# TypedChannel.Proofs.RoundTrip.Malformed

Accepts that fail, and what they have taken when they do.

1. `Breaks supply state pieces blame x` goes with `Draws`: the accept fails with
   an error that is to blame for it, and takes exactly `pieces`.
2. A string whose bytes are not UTF-8 is taken to its end before it is refused.
3. So is a terminated message that is longer than the buffer: once the buffer
   is full, the bytes that follow are dropped up to the end of the terminator,
   also if that begins in the buffer.
-/

namespace TypedChannel

open TypedChannel.Action

namespace Channel

variable {ω σ α β : Type} [World ω] [Transport ω σ] {supply : Supply ω σ}
  {blame : ChannelError → Prop}

/-- From `state` an accept fails if `pieces` are the next to come, and takes these. -/
def Breaks (supply : Supply ω σ) (state : Channel σ × Surroundings ω) (pieces : List Bytes)
    (blame : ChannelError → Prop) (x : ChannelAction σ ω α) : Prop :=
  ∀ rest, supply.Holds (below state) (pieces ++ rest) →
    ∃ e after, x.Returns state (.error e) after ∧ blame e.root ∧
      Drawn supply state after pieces rest

theorem Breaks.mono {weaker : ChannelError → Prop} {state : Channel σ × Surroundings ω}
    {pieces : List Bytes} {x : ChannelAction σ ω α} (hx : Breaks supply state pieces blame x)
    (h : ∀ cause, blame cause → weaker cause) : Breaks supply state pieces weaker x := by
  intro rest hholds
  obtain ⟨e, after, hreturns, hblame, hdrawn⟩ := hx rest hholds
  exact ⟨e, after, hreturns, h _ hblame, hdrawn⟩

/-- Where the pieces end does not matter to a flow. -/
theorem Breaks.regroup {flow : Flow ω σ} {state : Channel σ × Surroundings ω}
    {pieces pieces' : List Bytes} {x : ChannelAction σ ω α}
    (hx : Breaks flow.supply state pieces blame x) (hpieces : pieces.flatten = pieces'.flatten) :
    Breaks flow.supply state pieces' blame x := by
  intro rest hholds
  have hsame : flow.supply.Holds (below state) (pieces ++ rest) := by
    have hbytes : flow.Holds (below state) (pieces' ++ rest).flatten := hholds
    rwa [List.flatten_append, ← hpieces, ← List.flatten_append] at hbytes
  obtain ⟨e, after, hreturns, hblame, hdrawn⟩ := hx rest hsame
  exact ⟨e, after, hreturns, hblame, hdrawn.regroup hpieces rfl⟩

theorem fail_breaks (cause : ChannelError) (hroot : cause.root = cause) (hblame : blame cause)
    (state : Channel σ × Surroundings ω) :
    Breaks supply state [] blame (fail cause : ChannelAction σ ω α) := by
  intro rest hholds
  have hnoted := supply.note
    { level := state.1.failureLevel cause, origin := .channel,
      message := "channel operation failed", fields := [("error", .shown cause.message)] } hholds
  refine ⟨_, _, ⟨0, fun _ _ => rfl⟩, ?_, hnoted, rfl, rfl⟩
  show blame (state.1.config.escalate cause state.2.diagnostics).1.root
  rw [ChannelConfig.root_escalate, hroot]
  exact hblame

theorem Breaks.bind {state : Channel σ × Surroundings ω} {pieces : List Bytes}
    {x : ChannelAction σ ω α} {f : α → ChannelAction σ ω β}
    (hx : Breaks supply state pieces blame x) :
    Breaks supply state pieces blame (x >>= f) := by
  intro rest hholds
  obtain ⟨e, after, hreturns, hblame, hdrawn⟩ := hx rest hholds
  exact ⟨e, after, hreturns.bind_error, hblame, hdrawn⟩

/-- A failure of the transport is one of the channel. -/
theorem acceptBytes_breaks {wanted : Nat} {options : ReceiveOptions} {e : TransportError}
    {state : Channel σ × Surroundings ω} {received : σ × ω} {rest : List Bytes}
    (hreceive : (Transport.receive wanted options.timeout options.everything :
      Action (σ × ω) TransportError Bytes).Returns (below state) (.error e) received)
    (hholds : supply.Holds received rest) : ∃ cause after,
      (acceptBytes wanted options).Returns state (.error cause) after ∧
        cause.root = .transport e ∧ Drawn supply state after [] rest := by
  have hfail : Breaks supply ({ state.1 with transport := received.1 },
      { state.2 with world := received.2 }) [] (· = .transport e)
        (fail (.transport e) : ChannelAction σ ω Bytes) :=
    fail_breaks _ rfl (by rfl) _
  obtain ⟨cause, after, hreturns, hroot, hafter⟩ := hfail rest hholds
  exact ⟨cause, after, (returns_onTransport hreceive).bind hreturns.bind_error, hroot,
    hafter.holds, hafter.counted, hafter.config⟩

/-- What is accepted before the failure is taken as well. -/
theorem Draws.breaks {state : Channel σ × Surroundings ω} {pieces more : List Bytes} {a : α}
    {x : ChannelAction σ ω α} {f : α → ChannelAction σ ω β} (hx : Draws supply state pieces a x)
    (hf : ∀ between, between.1.config = state.1.config → Breaks supply between more blame (f a)) :
    Breaks supply state (pieces ++ more) blame (x >>= f) := by
  intro rest hholds
  rw [List.append_assoc] at hholds
  obtain ⟨between, hfirst, hbetween⟩ := hx _ hholds
  obtain ⟨e, after, hsecond, hblame, hafter⟩ := hf between hbetween.config rest hbetween.holds
  exact ⟨e, after, hfirst.bind hsecond, hblame, hbetween.trans hafter⟩

/-- What takes nothing may stand before. -/
theorem Draws.then_breaks {state : Channel σ × Surroundings ω} {pieces : List Bytes} {a : α}
    {x : ChannelAction σ ω α} {f : α → ChannelAction σ ω β} (hx : Draws supply state [] a x)
    (hf : ∀ between, between.1.config = state.1.config → Breaks supply between pieces blame (f a)) :
    Breaks supply state pieces blame (x >>= f) :=
  hx.breaks hf

/-- What was taken may be refused afterwards. -/
theorem Draws.refused {state : Channel σ × Surroundings ω} {pieces : List Bytes} {a : α}
    {x : ChannelAction σ ω α} {f : α → ChannelAction σ ω β} (hx : Draws supply state pieces a x)
    (hf : ∀ between, Breaks supply between [] blame (f a)) :
    Breaks supply state pieces blame (x >>= f) := by
  have hboth : Breaks supply state (pieces ++ []) blame (x >>= f) :=
    hx.breaks fun between _ => hf between
  rwa [List.append_nil] at hboth

/-- A loop whose first round fails. -/
theorem Breaks.iterate {state : Channel σ × Surroundings ω} {pieces : List Bytes}
    {body : β → ChannelAction σ ω (Round β α)} {start : β}
    (h : Breaks supply state pieces blame (body start)) :
    Breaks supply state pieces blame (Action.iterate body start) := by
  intro rest hholds
  obtain ⟨e, after, hreturns, hblame, hdrawn⟩ := h rest hholds
  exact ⟨e, after, Loops.returns (.failed hreturns), hblame, hdrawn⟩

/-! ## Bytes that are no text -/

variable {options : ReceiveOptions} {fault : Text.Utf8.Fault}

theorem decodeText_breaks {bytes : Bytes} (hfault : Text.Utf8.decode bytes = .error fault)
    (state : Channel σ × Surroundings ω) :
    Breaks supply state [] (· = .invalidUtf8 fault) (decodeText bytes) := by
  have hfail : Breaks supply state [] (· = .invalidUtf8 fault)
      (fail (.invalidUtf8 fault) : ChannelAction σ ω String) :=
    fail_breaks _ rfl (by rfl) state
  rw [decodeText, hfault]
  exact hfail

theorem acceptString_breaks {bytes : Bytes} (htime : InTime supply.timed options.timeout)
    {state : Channel σ × Surroundings ω}
    (hfits : FitsString state.1.config.maxStringLength (some bytes))
    (hfault : Text.Utf8.decode bytes = .error fault) :
    Breaks supply state (stringPieces (some bytes)) (· = .invalidUtf8 fault)
      (acceptString options) :=
  (acceptStringBytes_draws htime hfits).refused fun between =>
    (decodeText_breaks hfault between).bind

theorem acceptTerminated_breaks (hterminates : Terminates supply) {payload : Bytes}
    {terminator : String} (htime : InTime supply.timed options.timeout)
    {state : Channel σ × Surroundings ω}
    (hfits : FitsTerminated state.1.config.terminatedBufferSize payload
      (Text.Utf8.encode terminator))
    (hfault : Text.Utf8.decode payload = .error fault) :
    Breaks supply state [payload ++ Text.Utf8.encode terminator] (· = .invalidUtf8 fault)
      (acceptTerminated terminator options) :=
  (hterminates htime hfits).refused fun between => decodeText_breaks hfault between

/-! ## Messages that are too long -/

section Overflow

variable {flow : Flow ω σ} {terminator payload : Bytes} {deadline : Deadline}

/-- The rounds of filling the buffer with bytes at none of which the terminator ends. -/
theorem overfull_loops {front : Bytes} (options : ReceiveOptions)
    (hdeadline : deadline.InTime flow.timed)
    (hmissing : ∀ before, before ≠ [] → before <+: front → ¬ terminator <:+ before)
    (state : Channel σ × Surroundings ω) {rest : List Bytes}
    (hholds : flow.supply.Holds (below state) (front :: rest)) : ∃ after,
      Loops (terminatedRound terminator options deadline (σ := σ) (ω := ω)) (front.length, [])
        state (.ok (.inr front.reverse)) after ∧
      Drawn flow.supply state after [front] rest := by
  obtain ⟨after, hrounds, hafter⟩ :=
    terminatedRounds_continue options hdeadline [] front 0 state hmissing hholds
  rw [Nat.zero_add] at hrounds
  exact ⟨after, hrounds.loops (.done (returns_pure _)), hafter⟩

/-- The window shows the last bytes, as many as the terminator has; for that it has to hold all of
them but one before the round. -/
theorem window_eq (seen : Bytes) (byte : UInt8) {kept : Nat} (hterminator : terminator ≠ [])
    (hkept : terminator.length ≤ kept + 1) :
    (byte :: seen.reverse.take kept).take terminator.length =
      (seen ++ [byte]).reverse.take terminator.length := by
  obtain ⟨n, hn⟩ : ∃ n, terminator.length = n + 1 :=
    ⟨terminator.length - 1, by have := List.length_pos_iff.mpr hterminator; omega⟩
  rw [hn, List.reverse_concat, List.take_succ_cons, List.take_succ_cons, List.take_take,
    Nat.min_eq_left (by omega)]

theorem window_eq_reverse {seen : Bytes} :
    seen.reverse.take terminator.length = terminator.reverse ↔ terminator <:+ seen := by
  rw [← List.reverse_prefix, List.prefix_iff_eq_take, List.length_reverse, eq_comm]

/-- The rounds of dropping bytes at none of which the terminator ends. -/
theorem resyncRounds_continue (options : ReceiveOptions) (hdeadline : deadline.InTime flow.timed)
    (hterminator : terminator ≠ []) (seen front : Bytes) {kept : Nat}
    (hkept : terminator.length ≤ kept + 1) (state : Channel σ × Surroundings ω)
    {rest : List Bytes}
    (hmissing : ∀ before, before ≠ [] → before <+: front → ¬ terminator <:+ seen ++ before)
    (hholds : flow.supply.Holds (below state) (front :: rest)) :
    ∃ kept' after, terminator.length ≤ kept' + 1 ∧
      Continues (resyncRound terminator options deadline (σ := σ) (ω := ω)) front.length
        (seen.length, seen.reverse.take kept) state
        ((seen ++ front).length, (seen ++ front).reverse.take kept') after ∧
      Drawn flow.supply state after [front] rest := by
  induction front generalizing seen kept state with
  | nil =>
      rw [List.append_nil]
      exact ⟨kept, state, hkept, .start _ _, hholds, rfl, rfl⟩
  | cons byte front ih =>
      have hdraws : Draws flow.supply state [[byte]] byte (acceptByte options deadline) :=
        acceptByte_draws byte hdeadline options state
      obtain ⟨between, hbyte, hbetween⟩ := hdraws (front :: rest) hholds
      have hhere : ¬ terminator <:+ seen ++ [byte] := hmissing [byte] (by simp) ⟨front, rfl⟩
      have hlater : ∀ before, before ≠ [] → before <+: front →
          ¬ terminator <:+ (seen ++ [byte]) ++ before := by
        intro before _ hprefix
        rw [List.append_assoc]
        exact hmissing (byte :: before) (by simp) (List.cons_prefix_cons.mpr ⟨rfl, hprefix⟩)
      have hround : (resyncRound terminator options deadline
          (seen.length, seen.reverse.take kept) : ChannelAction σ ω _).Returns state
            (.ok (.again ((seen ++ [byte]).length,
              (seen ++ [byte]).reverse.take terminator.length))) between := by
        refine hbyte.bind ?_
        dsimp only
        rw [window_eq seen byte hterminator hkept,
          if_neg fun h => hhere (window_eq_reverse.mp h), List.length_append, List.length_singleton]
        exact returns_pure _
      obtain ⟨kept', after, hkept', hrounds, hafter⟩ := ih (seen ++ [byte])
        (Nat.le_succ terminator.length) between hlater hbetween.holds
      rw [List.append_assoc, List.singleton_append] at hrounds
      exact ⟨kept', after, hkept', .again hround hrounds, (hbetween.trans hafter).regroup rfl rfl⟩

/-- The rounds of dropping what is left of a message, of which `seen` was taken before. -/
theorem resync_loops (options : ReceiveOptions) (hdeadline : deadline.InTime flow.timed)
    (hterminator : terminator ≠ [])
    (hfirst : Bytes.indexOf? terminator (payload ++ terminator) = some payload.length)
    {seen left : Bytes} {kept : Nat} (state : Channel σ × Surroundings ω) {rest : List Bytes}
    (hsplit : seen ++ left = payload ++ terminator) (hleft : left ≠ [])
    (hkept : terminator.length ≤ kept + 1)
    (hholds : flow.supply.Holds (below state) (left :: rest)) :
    ∃ after,
      Loops (resyncRound terminator options deadline (σ := σ) (ω := ω))
        (seen.length, seen.reverse.take kept) state (.ok (payload ++ terminator).length) after ∧
      Drawn flow.supply state after [left] rest := by
  obtain ⟨front, byte, rfl⟩ : ∃ front byte, left = front ++ [byte] :=
    ⟨_, _, (List.dropLast_concat_getLast hleft).symm⟩
  have hmissing : ∀ before, before ≠ [] → before <+: front →
      ¬ terminator <:+ seen ++ before := by
    rintro before - ⟨later, rfl⟩
    rw [List.append_assoc, ← List.append_assoc] at hsplit
    exact Bytes.not_suffix_of_indexOf? hfirst hsplit (by simp)
  have hpieces : flow.supply.Holds (below state) (front :: [byte] :: rest) := by
    have hbytes : flow.Holds (below state) ((front ++ [byte]) ++ rest.flatten) := hholds
    rwa [List.append_assoc] at hbytes
  obtain ⟨kept', between, hkept', hrounds, hbetween⟩ := resyncRounds_continue options hdeadline
    hterminator seen front hkept state hmissing hpieces
  have hdraws : Draws flow.supply between [[byte]] byte (acceptByte options deadline) :=
    acceptByte_draws byte hdeadline options between
  obtain ⟨after, hbyte, hafter⟩ := hdraws rest hbetween.holds
  rw [← List.append_assoc] at hsplit
  have hfound : terminator <:+ (seen ++ front) ++ [byte] :=
    hsplit ▸ List.suffix_append payload terminator
  have hcount : (payload ++ terminator).length = (seen ++ front).length + 1 := by
    rw [← hsplit, List.length_append, List.length_singleton]
  have hround : (resyncRound terminator options deadline
      ((seen ++ front).length, (seen ++ front).reverse.take kept') : ChannelAction σ ω _).Returns
        between (.ok (.done (payload ++ terminator).length)) after := by
    refine hbyte.bind ?_
    dsimp only
    rw [window_eq (seen ++ front) byte hterminator hkept', if_pos (window_eq_reverse.mpr hfound),
      hcount]
    exact returns_pure _
  exact ⟨after, hrounds.loops (.done hround), (hbetween.trans hafter).regroup (by simp) rfl⟩

/-- Filling a buffer that is too small and then dropping bytes takes the message. -/
theorem acceptTerminated_overflows (hdeadline : deadline.InTime flow.timed)
    (hterminator : terminator ≠ [])
    (hfirst : Bytes.indexOf? terminator (payload ++ terminator) = some payload.length)
    {capacity : Nat} (hlong : capacity < (payload ++ terminator).length)
    (state : Channel σ × Surroundings ω) :
    Breaks flow.supply state [payload ++ terminator]
      (· = .terminatorOverflow capacity payload.length) (do
        match ← Action.iterate (terminatedRound terminator options deadline) (capacity, []) with
        | .inl payload => return payload
        | .inr full =>
          let consumed ← Action.iterate (resyncRound terminator options deadline)
            (capacity, full.take (terminator.length - 1))
          fail (.terminatorOverflow capacity (consumed - terminator.length))) := by
  intro rest hholds
  obtain ⟨kept, left, hsplit, hcapacity⟩ :
      ∃ kept left, kept ++ left = payload ++ terminator ∧ kept.length = capacity :=
    ⟨_, _, List.take_append_drop capacity _, by
      rw [List.length_take, Nat.min_eq_left (Nat.le_of_lt hlong)]⟩
  have hleft : left ≠ [] := by
    rintro rfl
    rw [← hsplit, List.append_nil, hcapacity] at hlong
    exact Nat.lt_irrefl _ hlong
  have hpieces : flow.supply.Holds (below state) (kept :: left :: rest) := by
    have hbytes : flow.Holds (below state) ((payload ++ terminator) ++ rest.flatten) := hholds
    rwa [← hsplit, List.append_assoc] at hbytes
  have hmissing : ∀ before, before ≠ [] → before <+: kept → ¬ terminator <:+ before := by
    rintro before - ⟨later, rfl⟩
    rw [List.append_assoc] at hsplit
    exact Bytes.not_suffix_of_indexOf? hfirst hsplit (by simp [hleft])
  obtain ⟨full, hfill, hfull⟩ := overfull_loops options hdeadline hmissing state hpieces
  have hwindow : terminator.length ≤ terminator.length - 1 + 1 := by omega
  obtain ⟨dropped, hresync, hdropped⟩ :=
    resync_loops options hdeadline hterminator hfirst full hsplit hleft hwindow hfull.holds
  rw [hcapacity] at hfill hresync
  have hdiscarded : (payload ++ terminator).length - terminator.length = payload.length := by simp
  have hfail : Breaks flow.supply dropped [] (· = .terminatorOverflow capacity payload.length)
      (fail (.terminatorOverflow capacity payload.length) : ChannelAction σ ω Bytes) :=
    fail_breaks _ rfl (by rfl) dropped
  obtain ⟨e, after, hreturns, hblame, hafter⟩ := hfail rest hdropped.holds
  refine ⟨e, after, hfill.returns.bind (hresync.returns.bind ?_), hblame,
    ((hfull.trans hdropped).trans hafter).regroup (by simp [hsplit]) rfl⟩
  rw [hdiscarded]
  exact hreturns

/-- A message that does not fit in the buffer is taken with its terminator, and not a byte more. -/
theorem acceptTerminatedBytes_breaks (htime : InTime flow.timed options.timeout)
    {state : Channel σ × Surroundings ω} (hterminator : terminator ≠ [])
    (hfirst : Bytes.indexOf? terminator (payload ++ terminator) = some payload.length)
    (hlong : state.1.config.terminatedBufferSize < payload.length + terminator.length) :
    Breaks flow.supply state [payload ++ terminator]
      (· = .terminatorOverflow state.1.config.terminatedBufferSize payload.length)
      (acceptTerminatedBytes terminator options) := by
  have hstream : Breaks flow.supply state [payload ++ terminator]
      (· = .terminatorOverflow state.1.config.terminatedBufferSize payload.length)
      (acceptTerminatedStream terminator options) := by
    refine (draws_settings state).then_breaks fun started hstarted => ?_
    refine (startNow_draws htime started).then_breaks fun seen hseen => ?_
    have hdeadline := Deadline.inTime_startNow htime started.2.world
    exact acceptTerminated_overflows hdeadline hterminator hfirst (by simpa using hlong) seen
  intro rest hholds
  obtain ⟨e, after, hreturns, hblame, hdrawn⟩ := hstream rest hholds
  exact ⟨e, after, acceptTerminatedBytes_of_stream hterminator (flow.continuous hholds) hreturns,
    hblame, hdrawn⟩

end Overflow

/-! ## Requests that all fail -/

/-- Whether every request fails with an error that is to blame, and leaves everything as it is. -/
def Starves (supply : Supply ω σ) (blame : ChannelError → Prop) : Prop :=
  ∀ {state : σ × ω} {pieces : List Bytes} {wanted : Nat} (timeout : Option Duration),
    supply.Holds state pieces → wanted ≠ 0 → ∃ e after,
      (Transport.receive wanted timeout true : Action (σ × ω) TransportError Bytes).Returns state
          (.error e) after ∧
        blame (.transport e) ∧ supply.Holds after pieces

section Starving

variable (hstarves : Starves supply blame)

include hstarves

theorem acceptExactly_starves {wanted : Nat} (hwanted : wanted ≠ 0) (options : ReceiveOptions)
    (state : Channel σ × Surroundings ω) :
    Breaks supply state [] blame (acceptExactly wanted options) := by
  intro rest hholds
  obtain ⟨e, received, hreceive, hblame, hleft⟩ := hstarves options.timeout hholds hwanted
  have hreceive' : (Transport.receive wanted options.complete.timeout options.complete.everything :
      Action (σ × ω) TransportError Bytes).Returns (below state) (.error e) received := hreceive
  obtain ⟨cause, after, hreturns, hroot, hafter⟩ := acceptBytes_breaks hreceive' hleft
  exact ⟨cause, after, hreturns.bind_error, hroot ▸ hblame, hafter⟩

theorem acceptString_starves (htime : InTime supply.timed options.timeout)
    (state : Channel σ × Surroundings ω) :
    Breaks supply state [] blame (acceptString options) := by
  have hlength : ∀ started, Breaks supply started [] blame
      (accept .int32 options : ChannelAction σ ω _) := fun started =>
    (acceptExactly_starves hstarves (by decide) options started).bind
  have hbytes : Breaks supply state [] blame (acceptStringBytes options) :=
    (startNow_draws htime state).then_breaks fun started _ => (hlength started).bind
  exact hbytes.bind

theorem acceptByte_starves {deadline : Deadline} (hdeadline : deadline.InTime supply.timed)
    (state : Channel σ × Surroundings ω) :
    Breaks supply state [] blame (acceptByte options deadline) := by
  obtain ⟨timeout, -, hoptions⟩ := optionsWithin_draws hdeadline options state
  exact hoptions.then_breaks fun between _ =>
    (acceptExactly_starves hstarves Nat.one_ne_zero _ between).bind

/-- However many bytes the buffer holds, the first one is missing. -/
theorem acceptTerminated_starves {terminator : String}
    (hterminator : Text.Utf8.encode terminator ≠ [])
    (hkind : ∀ {transport : σ} {world : ω} {pieces : List Bytes},
      supply.Holds (transport, world) pieces → Transport.kind ω transport ≠ .datagram)
    (htime : InTime supply.timed options.timeout) (state : Channel σ × Surroundings ω) :
    Breaks supply state [] blame (acceptTerminated terminator options) := by
  have hstream : Breaks supply state [] blame
      (acceptTerminatedStream (Text.Utf8.encode terminator) options) := by
    refine (draws_settings state).then_breaks fun started hstarted => ?_
    refine (startNow_draws htime started).then_breaks fun seen hseen => ?_
    have hdeadline := Deadline.inTime_startNow htime started.2.world
    cases state.1.config.terminatedBufferSize with
    | zero =>
        have hfull : Draws supply seen [] (.inr []) (Action.iterate (terminatedRound
            (Text.Utf8.encode terminator) options
            (Deadline.startNow options.timeout started.2.world).1) (0, [])) :=
          fun _ hholds => ⟨seen, Loops.returns (.done (returns_pure _)), hholds, rfl, rfl⟩
        exact hfull.then_breaks fun between _ =>
          (Breaks.iterate (acceptByte_starves hstarves hdeadline between).bind).bind
    | succ room => exact (Breaks.iterate (acceptByte_starves hstarves hdeadline seen).bind).bind
  refine Breaks.bind ?_
  intro rest hholds
  obtain ⟨e, after, hreturns, hblame, hdrawn⟩ := hstream rest hholds
  exact ⟨e, after, acceptTerminatedBytes_of_stream hterminator (hkind hholds) hreturns, hblame,
    hdrawn⟩

end Starving

end Channel

end TypedChannel
