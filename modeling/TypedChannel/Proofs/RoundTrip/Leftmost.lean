import TypedChannel.Proofs.Host.StreamLink
import TypedChannel.Proofs.RoundTrip.Malformed
/-!
# TypedChannel.Proofs.RoundTrip.Leftmost

Reading a terminated message off a stream is a search for the leftmost
terminator.

1. `Bytes.firstEnd?` is the naive search: it looks at ever longer fronts of a
   text until one ends with the terminator.
2. The reader has two loops, one that fills the buffer and one that drops what
   does not fit.  Neither stops before the first front that ends with the
   terminator, and one of them stops there (`Channel.leftmostMatch`).
3. If there is no such front both go on to the end of the stream
   (`Channel.acceptTerminatedStream_exhausts`).
-/

namespace TypedChannel

open TypedChannel.Action

/-! ## The search -/

namespace Bytes

variable {terminator text : Bytes} {e : Nat}

/-- The least number of first bytes that end with the terminator. -/
def firstEnd? (terminator text : Bytes) : Option Nat :=
  (List.range (text.length + 1)).find? fun e => terminator.isSuffixOf (text.take e)

theorem isSuffixOf_not_iff {n : Nat} : (!terminator.isSuffixOf (text.take n)) = true ↔
    ¬ terminator <:+ text.take n := by
  rw [← List.isSuffixOf_iff_suffix, Bool.not_eq_true, Bool.not_eq_true']

theorem firstEnd?_eq_some : firstEnd? terminator text = some e ↔
    terminator <:+ text.take e ∧ e ≤ text.length ∧ ∀ n, n < e → ¬ terminator <:+ text.take n := by
  simp only [firstEnd?, List.find?_range_eq_some, List.isSuffixOf_iff_suffix, List.mem_range,
    isSuffixOf_not_iff, ← Nat.lt_succ_iff]

theorem firstEnd?_eq_none : firstEnd? terminator text = none ↔
    ∀ n, n ≤ text.length → ¬ terminator <:+ text.take n := by
  simp only [firstEnd?, List.find?_range_eq_none, isSuffixOf_not_iff, ← Nat.lt_succ_iff]

/-- The first place where the pattern stands is the one that is found. -/
theorem indexOf?_of_first {pattern text : Bytes} {n : Nat} (hwithin : n ≤ text.length)
    (hthere : pattern <+: text.drop n) (hfirst : ∀ m, m < n → ¬ pattern <+: text.drop m) :
    indexOf? pattern text = some n := by
  induction text generalizing n with
  | nil =>
      obtain rfl : n = 0 := Nat.le_zero.mp hwithin
      rw [indexOf?, if_pos (List.isEmpty_iff.mpr (List.prefix_nil.mp hthere))]
  | cons byte text ih =>
      rw [indexOf?]
      cases n with
      | zero =>
          have hhere : pattern.isPrefixOf (byte :: text) = true :=
            List.isPrefixOf_iff_prefix.mpr hthere
          rw [if_pos hhere]
      | succ n =>
          have hlater : indexOf? pattern text = some n :=
            ih (Nat.le_of_succ_le_succ hwithin) hthere fun m hm => hfirst (m + 1) (by omega)
          have helsewhere : ¬ pattern.isPrefixOf (byte :: text) = true := fun h =>
            hfirst 0 (Nat.succ_pos n) (List.isPrefixOf_iff_prefix.mp h)
          rw [if_neg helsewhere, hlater]
          rfl

/-- The front that is found is a message whose terminator does not begin before its payload ends. -/
theorem message_of_firstEnd? (h : firstEnd? terminator text = some e) : ∃ payload,
    text.take e = payload ++ terminator ∧ payload.length + terminator.length = e ∧
      indexOf? terminator (payload ++ terminator) = some payload.length := by
  obtain ⟨⟨payload, hends⟩, hwithin, hleast⟩ := firstEnd?_eq_some.mp h
  have hlength : payload.length + terminator.length = e := by
    rw [← List.length_append, hends, List.length_take, Nat.min_eq_left hwithin]
  refine ⟨payload, hends.symm, hlength,
    indexOf?_of_first (by simp) (by simp) fun m hm hthere => ?_⟩
  -- A terminator that began earlier would end a shorter front.
  refine hleast (m + terminator.length) (by omega) ?_
  have hshorter : text.take (m + terminator.length) =
      (payload ++ terminator).take (m + terminator.length) := by
    rw [hends, List.take_take, Nat.min_eq_left (by omega)]
  rw [hshorter, List.take_add, ← List.prefix_iff_eq_take.mp hthere]
  exact List.suffix_append _ _

end Bytes

/-! ## The end of the stream -/

/-- Whether a failure tells of the end. -/
def Terminus.Blames {ω σ : Type} [World ω] [Transport ω σ] (terminus : Terminus ω σ)
    (cause : ChannelError) : Prop :=
  ∃ e, cause = .transport e ∧ terminus.Tells e

/-- A flow that has an end behind its last byte. -/
structure FiniteFlow (ω σ : Type) [World ω] [Transport ω σ] where
  flow : Flow ω σ
  terminus : Terminus ω σ
  ends : ∀ {state : σ × ω}, flow.Holds state [] → terminus.Holds state
  timed : terminus.timed = flow.timed

namespace Channel

variable {ω σ α : Type} [World ω] [Transport ω σ] {stream : FiniteFlow ω σ} {terminator : Bytes}
  {options : ReceiveOptions}

/-- Between the two `bytes` were taken and counted, and the end was found. -/
structure Exhausted (stream : FiniteFlow ω σ) (before after : Channel σ × Surroundings ω)
    (bytes : Bytes) : Prop where
  ended : stream.terminus.Holds (below after)
  counted : after.1.bytesReceived = before.1.bytesReceived + bytes.length
  config : after.1.config = before.1.config

/-- At the end there is not one byte more. -/
theorem acceptByte_exhausts {terminus : Terminus ω σ} {deadline : Deadline}
    (hdeadline : deadline.InTime terminus.timed) (options : ReceiveOptions)
    (state : Channel σ × Surroundings ω) :
    Breaks terminus.supply state [] terminus.Blames (acceptByte options deadline) := by
  have hdeadline' : deadline.InTime terminus.supply.timed := hdeadline
  obtain ⟨timeout, htime, hoptions⟩ := optionsWithin_draws hdeadline' options state
  refine hoptions.then_breaks fun between _ => ?_
  have hbyte : Breaks terminus.supply between [] terminus.Blames
      (acceptExactly 1 { options with timeout }) := by
    rintro rest ⟨hrest, hholds⟩
    obtain ⟨e, received, hreceive, htells, hreceived⟩ :=
      terminus.receive_returns htime Nat.one_ne_zero hholds
    have hleft : terminus.supply.Holds received rest := ⟨hrest, hreceived⟩
    let one := ({ options with timeout } : ReceiveOptions).complete
    have hone : (Transport.receive 1 one.timeout one.everything :
        Action (σ × ω) TransportError Bytes).Returns (below between) (.error e) received := hreceive
    obtain ⟨cause, after, hreturns, hroot, hafter⟩ := acceptBytes_breaks hone hleft
    exact ⟨cause, after, hreturns.bind_error, ⟨e, hroot, htells⟩, hafter⟩
  exact hbyte.bind

/-- What finds the end once everything was taken. -/
theorem Drawn.exhausts {before between : Channel σ × Surroundings ω} {pieces : List Bytes}
    {x : ChannelAction σ ω α} (h : Drawn stream.flow.supply before between pieces [])
    (hx : Breaks stream.terminus.supply between [] stream.terminus.Blames x) : ∃ e after,
      x.Returns between (.error e) after ∧ stream.terminus.Blames e.root ∧
        Exhausted stream before after pieces.flatten := by
  have hends : stream.terminus.supply.Holds (below between) ([] ++ []) :=
    ⟨rfl, stream.ends h.holds⟩
  obtain ⟨e, after, hreturns, hblame, hafter⟩ := hx [] hends
  exact ⟨e, after, hreturns, hblame, hafter.holds.2, hafter.counted.trans h.counted,
    hafter.config.trans h.config⟩

/-- Bytes that were taken before. -/
theorem Exhausted.after {before between after : Channel σ × Surroundings ω}
    {pieces rest : List Bytes} {bytes : Bytes}
    (h : Drawn stream.flow.supply before between pieces rest)
    (hends : Exhausted stream between after bytes) :
    Exhausted stream before after (pieces.flatten ++ bytes) where
  ended := hends.ended
  counted := by rw [hends.counted, h.counted, List.length_append, Nat.add_assoc]
  config := hends.config.trans h.config

/-- The rounds of filling the buffer, if the end comes before it is full. -/
theorem terminatedRounds_exhaust (options : ReceiveOptions) {deadline : Deadline}
    (hdeadline : deadline.InTime stream.flow.timed) {text : Bytes} {room : Nat}
    (hroom : text.length < room) {state : Channel σ × Surroundings ω}
    (hmissing : ∀ before, before ≠ [] → before <+: text → ¬ terminator <:+ before)
    (hholds : stream.flow.supply.Holds (below state) [text]) : ∃ e after,
      Loops (terminatedRound terminator options deadline (σ := σ) (ω := ω)) (room, []) state
        (.error e) after ∧ stream.terminus.Blames e.root ∧ Exhausted stream state after text := by
  obtain ⟨spare, rfl⟩ := Nat.exists_eq_add_of_le' hroom
  obtain ⟨between, hrounds, hdrawn⟩ := terminatedRounds_continue options hdeadline [] text
    (spare + 1) state hmissing hholds
  have hround : Breaks stream.terminus.supply between [] stream.terminus.Blames
      (terminatedRound terminator options deadline (spare + 1, text.reverse)) :=
    (acceptByte_exhausts (stream.timed ▸ hdeadline) options between).bind
  obtain ⟨e, after, hfails, hblame, hafter⟩ := hdrawn.exhausts hround
  rw [Nat.add_right_comm] at hrounds
  exact ⟨e, after, hrounds.loops (.failed hfails), hblame, by simpa using hafter⟩

/-- The rounds of dropping bytes, if the end comes before the terminator does. -/
theorem resyncRounds_exhaust (options : ReceiveOptions) {deadline : Deadline}
    (hdeadline : deadline.InTime stream.flow.timed) (hterminator : terminator ≠ [])
    {seen text : Bytes} {kept : Nat} (hkept : terminator.length ≤ kept + 1)
    {state : Channel σ × Surroundings ω}
    (hmissing : ∀ before, before ≠ [] → before <+: text → ¬ terminator <:+ seen ++ before)
    (hholds : stream.flow.supply.Holds (below state) [text]) : ∃ e after,
      Loops (resyncRound terminator options deadline (σ := σ) (ω := ω))
        (seen.length, seen.reverse.take kept) state (.error e) after ∧
        stream.terminus.Blames e.root ∧ Exhausted stream state after text := by
  obtain ⟨kept', between, -, hrounds, hdrawn⟩ := resyncRounds_continue options hdeadline
    hterminator seen text hkept state hmissing hholds
  have hround : Breaks stream.terminus.supply between [] stream.terminus.Blames
      (resyncRound terminator options deadline
        ((seen ++ text).length, (seen ++ text).reverse.take kept')) :=
    (acceptByte_exhausts (stream.timed ▸ hdeadline) options between).bind
  obtain ⟨e, after, hfails, hblame, hafter⟩ := hdrawn.exhausts hround
  exact ⟨e, after, hrounds.loops (.failed hfails), hblame, by simpa using hafter⟩

/-- Without a terminator both loops go on to the end. -/
theorem acceptTerminatedStream_exhausts (hterminator : terminator ≠ [])
    (htime : InTime stream.flow.timed options.timeout) {state : Channel σ × Surroundings ω}
    {text : Bytes} (hmissing : ∀ n, n ≤ text.length → ¬ terminator <:+ text.take n)
    (hholds : stream.flow.Holds (below state) text) : ∃ e after,
      (acceptTerminatedStream terminator options).Returns state (.error e) after ∧
        stream.terminus.Blames e.root ∧ Exhausted stream state after text := by
  have hfront : ∀ before, before ≠ [] → before <+: text → ¬ terminator <:+ before := by
    intro before _ hbegins
    rw [List.prefix_iff_eq_take.mp hbegins]
    exact hmissing _ hbegins.length_le
  have hpieces : stream.flow.supply.Holds (below state) ([] ++ [text]) := by
    show stream.flow.Holds (below state) [text].flatten
    rwa [List.flatten_singleton]
  have htime' : InTime stream.flow.supply.timed options.timeout := htime
  obtain ⟨started, hstart, hstarted⟩ := startNow_draws htime' state [text] hpieces
  have hdeadline := Deadline.inTime_startNow htime state.2.world
  obtain hroom | hfull := Nat.lt_or_ge text.length state.1.config.terminatedBufferSize
  · obtain ⟨e, after, hloops, hblame, hafter⟩ :=
      terminatedRounds_exhaust options hdeadline hroom hfront hstarted.holds
    exact ⟨e, after, (returns_see _).bind (hstart.bind hloops.returns.bind_error), hblame,
      hafter.after hstarted⟩
  · obtain ⟨kept, left, rfl, hcapacity⟩ : ∃ kept left, text = kept ++ left ∧
        kept.length = state.1.config.terminatedBufferSize :=
      ⟨_, _, (List.take_append_drop _ _).symm, by rw [List.length_take, Nat.min_eq_left hfull]⟩
    have hkept : ∀ before, before ≠ [] → before <+: kept → ¬ terminator <:+ before :=
      fun before hbefore hbegins => hfront before hbefore (hbegins.trans (List.prefix_append _ _))
    have hleft : ∀ before, before ≠ [] → before <+: left → ¬ terminator <:+ kept ++ before := by
      intro before hbefore hbegins
      exact hfront _ (by simp [hbefore]) (List.prefix_append_right_inj kept |>.mpr hbegins)
    have hsplit : stream.flow.supply.Holds (below started) [kept, left] := by
      have hbytes : stream.flow.Holds (below started) ((kept ++ left) ++ []) := hstarted.holds
      rwa [List.append_assoc] at hbytes
    obtain ⟨full, hfill, hfilled⟩ := overfull_loops options hdeadline hkept started hsplit
    have hwindow : terminator.length ≤ terminator.length - 1 + 1 := by omega
    obtain ⟨e, after, hloops, hblame, hafter⟩ :=
      resyncRounds_exhaust options hdeadline hterminator hwindow hleft hfilled.holds
    rw [hcapacity] at hfill hloops
    refine ⟨e, after, (returns_see _).bind (hstart.bind (hfill.returns.bind
      hloops.returns.bind_error)), hblame, ?_⟩
    simpa using hafter.after (hstarted.trans hfilled)

/-! ## The reader -/

/-- What a reader with so much room makes of a text whose terminator ends behind `e` bytes. -/
theorem acceptTerminatedBytes_finds (hterminator : terminator ≠ [])
    (htime : InTime stream.flow.timed options.timeout) {state : Channel σ × Surroundings ω}
    {text : Bytes} {e : Nat} (hfound : Bytes.firstEnd? terminator text = some e)
    (hholds : stream.flow.Holds (below state) text) : ∃ result after,
      (acceptTerminatedBytes terminator options).Returns state result after ∧
      Drawn stream.flow.supply state after [text.take e] [text.drop e] ∧
      if e ≤ state.1.config.terminatedBufferSize then
        result = .ok (text.take (e - terminator.length))
      else
        ∃ error, result = .error error ∧ error.root =
          .terminatorOverflow state.1.config.terminatedBufferSize (e - terminator.length) := by
  obtain ⟨payload, hfront, hlength, hfirst⟩ := Bytes.message_of_firstEnd? hfound
  have hpayload : e - terminator.length = payload.length := by omega
  have hmessage : text.take (e - terminator.length) = payload := by
    calc text.take (e - terminator.length)
      _ = (text.take e).take payload.length := by
        rw [List.take_take, hpayload, Nat.min_eq_left (by omega)]
      _ = payload := by rw [hfront, List.take_left]
  have hpieces : stream.flow.supply.Holds (below state) ([text.take e] ++ [text.drop e]) := by
    show stream.flow.Holds (below state) ([text.take e] ++ [text.drop e]).flatten
    simpa using hholds
  rw [hmessage, hpayload]
  by_cases hfits : e ≤ state.1.config.terminatedBufferSize
  · have hdraws : Draws stream.flow.supply state [payload ++ terminator] payload
        (acceptTerminatedBytes terminator options) :=
      acceptTerminatedBytes_draws htime ⟨hterminator, hfirst, by omega⟩
    rw [← hfront] at hdraws
    obtain ⟨after, hreturns, hdrawn⟩ := hdraws _ hpieces
    exact ⟨_, after, hreturns, hdrawn, by rw [if_pos hfits]⟩
  · have hbreaks : Breaks stream.flow.supply state [payload ++ terminator]
        (· = .terminatorOverflow state.1.config.terminatedBufferSize payload.length)
        (acceptTerminatedBytes terminator options) :=
      acceptTerminatedBytes_breaks htime hterminator hfirst (by omega)
    rw [← hfront] at hbreaks
    obtain ⟨error, after, hreturns, hroot, hdrawn⟩ := hbreaks _ hpieces
    exact ⟨_, after, hreturns, hdrawn, by rw [if_neg hfits]; exact ⟨error, rfl, hroot⟩⟩

/-- A reader of terminated messages finds the leftmost terminator, whatever the size of its buffer,
and takes no byte behind it.  If there is none it takes all there is. -/
theorem leftmostMatch (stream : FiniteFlow ω σ) (hterminator : terminator ≠ [])
    (htime : InTime stream.flow.timed options.timeout) {state : Channel σ × Surroundings ω}
    {text : Bytes} (hholds : stream.flow.Holds (below state) text) : ∃ result after,
      (acceptTerminatedBytes terminator options).Returns state result after ∧
      after.1.config = state.1.config ∧
      match Bytes.firstEnd? terminator text with
      | some e =>
          stream.flow.Holds (below after) (text.drop e) ∧
          after.1.bytesReceived = state.1.bytesReceived + e ∧
          terminator.length ≤ e ∧
          if e ≤ state.1.config.terminatedBufferSize then
            result = .ok (text.take (e - terminator.length))
          else
            ∃ error, result = .error error ∧ error.root =
              .terminatorOverflow state.1.config.terminatedBufferSize (e - terminator.length)
      | none =>
          stream.terminus.Holds (below after) ∧
          after.1.bytesReceived = state.1.bytesReceived + text.length ∧
          ∃ error, result = .error error ∧ stream.terminus.Blames error.root := by
  cases hfound : Bytes.firstEnd? terminator text with
  | none =>
      obtain ⟨e, after, hreturns, hblame, hended, hcounted, hconfig⟩ :=
        acceptTerminatedStream_exhausts hterminator htime (Bytes.firstEnd?_eq_none.mp hfound) hholds
      exact ⟨_, after, acceptTerminatedBytes_of_stream hterminator
        (stream.flow.continuous hholds) hreturns, hconfig, hended, hcounted, e, rfl, hblame⟩
  | some e =>
      obtain ⟨result, after, hreturns, ⟨hleft, hcounted, hconfig⟩, hresult⟩ :=
        acceptTerminatedBytes_finds hterminator htime hfound hholds
      obtain ⟨hends, hwithin, -⟩ := Bytes.firstEnd?_eq_some.mp hfound
      have htaken : (text.take e).length = e := by rw [List.length_take, Nat.min_eq_left hwithin]
      have hbytes : stream.flow.Holds (below after) [text.drop e].flatten := hleft
      rw [List.flatten_singleton] at hbytes hcounted
      rw [htaken] at hcounted
      exact ⟨result, after, hreturns, hconfig, hbytes, hcounted, htaken ▸ hends.length_le, hresult⟩

end Channel

/-- The stream of a link whose peer has closed, up to its end.  No readiness check finds nothing
there. -/
def Link.finiteFlow (number : Nat) : FiniteFlow Host Handle where
  flow :=
    { Holds := fun state bytes => (Link.dialogue number).Brings state [bytes]
      timed := true
      interruptions := fun _ => 0
      continuous := (Link.dialogue number).continuous
      poll := by
        intro state bytes timeout h _ _
        obtain ⟨answer, after, hpoll, hafter, -, -, hanswer⟩ := (dialogue number).poll timeout h
        cases answer with
        | false => exact absurd hanswer (Nat.lt_irrefl 0)
        | true => exact ⟨after, hpoll, hafter, Nat.le_refl 0⟩
      read := by
        intro state bytes room h hroom hle
        obtain ⟨result, after, hread, -, hend⟩ := (dialogue number).read h rfl hroom hle
        obtain ⟨chunk, left, hresult, hchunk, hfits, hsplit, hleft, -⟩ | ⟨_, _, _, _, _, hless⟩ :=
          hend
        · exact ⟨result, after, hread, .inl ⟨chunk, left, hresult, hchunk, hfits, hsplit, hleft⟩⟩
        · exact absurd hless (Nat.lt_irrefl 0)
      look := fun _ h => ⟨h, Nat.le_refl 0⟩
      note := fun _ h => h }
  terminus :=
    { Holds := fun state => (Link.dialogue number).Brings state []
      timed := true
      interruptions := fun _ => 0
      Tells := (·.isPeerGone = true)
      final := Cli.Dialogue.isInterrupted_of_isPeerGone
      poll := by
        intro state timeout h _
        obtain ⟨answer, after, hpoll, hafter, -, -, hanswer⟩ := (dialogue number).poll timeout h
        cases answer with
        | false => exact absurd hanswer (Nat.lt_irrefl 0)
        | true => exact ⟨after, hpoll, hafter, Nat.le_refl 0⟩
      read := by
        intro state room h hroom
        obtain ⟨e, after, hread, hafter, -, -, hend⟩ := (dialogue number).close h rfl hroom
        exact ⟨e, after, hread, hafter, hend⟩
      look := fun _ h => ⟨h, Nat.le_refl 0⟩
      note := fun _ h => h }
  ends := (Link.dialogue number).empty.mp
  timed := rfl

namespace Channel

/-- A terminator that overlaps itself, and ends behind the two bytes that the buffer takes. -/
theorem leftmostMatch_straddling :
    ∃ (state after : Channel Handle × Surroundings Host) (error : ChannelError),
      (Link.finiteFlow 0).flow.Holds (below state) [97, 97, 97, 98, 99] ∧
      (acceptTerminatedBytes [97, 97, 98] (.ofMillis 20)).Returns state (.error error) after ∧
      error.root = .terminatorOverflow 2 1 ∧ (Link.finiteFlow 0).flow.Holds (below after) [99] := by
  let state : Channel Handle × Surroundings Host :=
    (opened (.link 0 .stream) .localEnd
      { terminatedBufferSize := 2, diagnostics := { sink := none, slot := 0 } },
      Surroundings.withLink { stream := [97, 97, 97, 98, 99], ended := true })
  have hholds : (Link.finiteFlow 0).flow.Holds (below state) [97, 97, 97, 98, 99] :=
    ⟨⟨_, by decide, rfl⟩, rfl, _, rfl, ⟨by decide, rfl, by decide, rfl, rfl, rfl, rfl, rfl⟩, rfl⟩
  obtain ⟨result, after, hreturns, -, hresult⟩ :=
    leftmostMatch (Link.finiteFlow 0) (by decide : ([97, 97, 98] : Bytes) ≠ []) (.inr rfl) hholds
  rw [show Bytes.firstEnd? [97, 97, 98] [97, 97, 97, 98, 99] = some 4 by decide] at hresult
  obtain ⟨hleft, -, -, error, rfl, hroot⟩ := hresult
  exact ⟨state, after, error, hholds, hreturns, hroot, hleft⟩

end Channel

end TypedChannel
