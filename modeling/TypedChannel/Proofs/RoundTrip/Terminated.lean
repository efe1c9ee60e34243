import TypedChannel.Proofs.RoundTrip.Receiving
/-!
# TypedChannel.Proofs.RoundTrip.Terminated

Terminated messages on a stream: read byte by byte, a message whose terminator
does not begin before its end is recognised with its last byte and not before,
so that exactly its bytes are taken.
-/

namespace TypedChannel

open TypedChannel.Action

namespace Bytes

/-- The place that is found is one where the pattern stands, and the first such. -/
theorem indexOf?_eq_some {pattern text : Bytes} {n : Nat} (h : indexOf? pattern text = some n) :
    pattern <+: text.drop n ∧ ∀ m, m < n → ¬ pattern <+: text.drop m := by
  induction text generalizing n with
  | nil =>
      rw [indexOf?] at h
      by_cases hempty : pattern.isEmpty = true
      · rw [if_pos hempty] at h
        cases h
        rw [List.isEmpty_iff.mp hempty]
        exact ⟨List.nil_prefix, fun m hm => absurd hm (Nat.not_lt_zero m)⟩
      · rw [if_neg hempty] at h
        contradiction
  | cons b text ih =>
      rw [indexOf?] at h
      by_cases hhere : pattern.isPrefixOf (b :: text) = true
      · rw [if_pos hhere] at h
        cases h
        exact ⟨List.isPrefixOf_iff_prefix.mp hhere, fun m hm => absurd hm (Nat.not_lt_zero m)⟩
      · rw [if_neg hhere] at h
        obtain ⟨k, hk, rfl⟩ := Option.map_eq_some_iff.mp h
        obtain ⟨hthere, hfirst⟩ := ih hk
        refine ⟨hthere, fun m hm => ?_⟩
        cases m with
        | zero => exact fun hprefix => hhere (List.isPrefixOf_iff_prefix.mpr hprefix)
        | succ m => exact hfirst m (by omega)

/-- A terminator that does not begin before the end of the payload does not end before the end of
the message. -/
theorem not_suffix_of_indexOf? {payload terminator before left : Bytes}
    (h : indexOf? terminator (payload ++ terminator) = some payload.length)
    (hsplit : before ++ left = payload ++ terminator) (hleft : left ≠ []) :
    ¬ terminator <:+ before := by
  intro hsuffix
  obtain ⟨front, rfl⟩ := hsuffix
  have hlength := congrArg List.length hsplit
  have hpositive := List.length_pos_iff.mpr hleft
  simp only [List.length_append] at hlength
  refine (indexOf?_eq_some h).2 front.length (by omega) ?_
  rw [← hsplit, List.append_assoc, List.drop_left]
  exact List.prefix_append _ _

end Bytes

namespace Channel

variable {ω σ : Type} [World ω] [Transport ω σ]

theorem acceptByte_draws {supply : Supply ω σ} (byte : UInt8) {deadline : Deadline}
    (hdeadline : deadline.InTime supply.timed) (options : ReceiveOptions)
    (state : Channel σ × Surroundings ω) :
    Draws supply state [[byte]] byte (acceptByte options deadline) := by
  obtain ⟨timeout, hleft, hoptions⟩ := optionsWithin_draws hdeadline options state
  have hleft' : InTime supply.timed { options with timeout }.timeout := hleft
  exact hoptions.after fun between _ => (acceptExactly_draws [byte] hleft' between).map (·.headD 0)

variable {flow : Flow ω σ}

/-- Where the pieces end does not matter to a flow. -/
theorem Drawn.regroup {before after : Channel σ × Surroundings ω}
    {pieces pieces' rest rest' : List Bytes} (h : Drawn flow.supply before after pieces rest)
    (hpieces : pieces.flatten = pieces'.flatten) (hrest : rest.flatten = rest'.flatten) :
    Drawn flow.supply before after pieces' rest' where
  holds := by
    have hholds : flow.Holds (below after) rest.flatten := h.holds
    rwa [hrest] at hholds
  counted := by rw [h.counted, hpieces]
  config := h.config

theorem Draws.regroup {α : Type} {state : Channel σ × Surroundings ω} {pieces pieces' : List Bytes}
    {a : α} {x : ChannelAction σ ω α} (h : Draws flow.supply state pieces a x)
    (hpieces : pieces.flatten = pieces'.flatten) : Draws flow.supply state pieces' a x := by
  intro rest hholds
  have hsame : flow.supply.Holds (below state) (pieces ++ rest) := by
    have hbytes : flow.Holds (below state) (pieces' ++ rest).flatten := hholds
    rwa [List.flatten_append, ← hpieces, ← List.flatten_append] at hbytes
  obtain ⟨after, hreturns, hdrawn⟩ := h rest hsame
  exact ⟨after, hreturns, hdrawn.regroup hpieces rfl⟩

/-! ## Rounds -/

variable {terminator : Bytes} {options : ReceiveOptions} {deadline : Deadline}

/-- The bytes seen so far are kept the last one first. -/
theorem isPrefixOf_seen (terminator seen : Bytes) (byte : UInt8) :
    terminator.reverse.isPrefixOf (byte :: seen.reverse) = true ↔
      terminator <:+ seen ++ [byte] := by
  have hseen : byte :: seen.reverse = (seen ++ [byte]).reverse := by simp
  rw [hseen, List.isPrefixOf_iff_prefix, List.reverse_prefix]

/-- A round of filling the buffer that does not find the terminator. -/
theorem terminatedRound_again {seen : Bytes} {byte : UInt8} {room : Nat}
    {state between : Channel σ × Surroundings ω}
    (hbyte : (acceptByte options deadline : ChannelAction σ ω UInt8).Returns state (.ok byte)
      between)
    (hmissing : ¬ terminator <:+ seen ++ [byte]) :
    (terminatedRound terminator options deadline (room + 1, seen.reverse) :
      ChannelAction σ ω _).Returns state (.ok (.again (room, (seen ++ [byte]).reverse)))
        between := by
  refine hbyte.bind ?_
  dsimp only
  rw [if_neg fun h => hmissing ((isPrefixOf_seen terminator seen byte).mp h),
    List.reverse_concat]
  exact returns_pure _

/-- A round that finds it. -/
theorem terminatedRound_done {payload seen : Bytes} {byte : UInt8} {room : Nat}
    {state between : Channel σ × Surroundings ω}
    (hbyte : (acceptByte options deadline : ChannelAction σ ω UInt8).Returns state (.ok byte)
      between)
    (hfound : seen ++ [byte] = payload ++ terminator) :
    (terminatedRound terminator options deadline (room + 1, seen.reverse) :
      ChannelAction σ ω _).Returns state (.ok (.done (.inl payload))) between := by
  have hsuffix : terminator <:+ seen ++ [byte] := hfound ▸ List.suffix_append payload terminator
  refine hbyte.bind ?_
  dsimp only
  rw [if_pos ((isPrefixOf_seen terminator seen byte).mpr hsuffix), ← List.reverse_concat, hfound,
    List.reverse_append, ← List.length_reverse, List.drop_left, List.reverse_reverse]
  exact returns_pure _

/-- The rounds of filling the buffer with bytes at none of which the terminator ends. -/
theorem terminatedRounds_continue (options : ReceiveOptions)
    (hdeadline : deadline.InTime flow.timed) (seen front : Bytes) (room : Nat)
    (state : Channel σ × Surroundings ω) {rest : List Bytes}
    (hmissing : ∀ before, before ≠ [] → before <+: front → ¬ terminator <:+ seen ++ before)
    (hholds : flow.supply.Holds (below state) (front :: rest)) : ∃ after,
      Continues (terminatedRound terminator options deadline (σ := σ) (ω := ω)) front.length
        (room + front.length, seen.reverse) state (room, (seen ++ front).reverse) after ∧
      Drawn flow.supply state after [front] rest := by
  induction front generalizing seen state with
  | nil =>
      rw [List.append_nil]
      exact ⟨state, .start _ _, hholds, rfl, rfl⟩
  | cons byte front ih =>
      have hdraws : Draws flow.supply state [[byte]] byte (acceptByte options deadline) :=
        acceptByte_draws byte hdeadline options state
      obtain ⟨between, hbyte, hbetween⟩ := hdraws (front :: rest) hholds
      have hhere : ¬ terminator <:+ seen ++ [byte] := hmissing [byte] (by simp) ⟨front, rfl⟩
      have hlater : ∀ before, before ≠ [] → before <+: front →
          ¬ terminator <:+ (seen ++ [byte]) ++ before := by
        intro before _ hprefix
        rw [List.append_assoc]
        exact hmissing (byte :: before) (by simp) (List.cons_prefix_cons.mpr ⟨rfl, hprefix⟩)
      obtain ⟨after, hrounds, hafter⟩ := ih (seen ++ [byte]) between hlater hbetween.holds
      rw [List.append_assoc, List.singleton_append] at hrounds
      exact ⟨after, .again (terminatedRound_again hbyte hhere) hrounds,
        (hbetween.trans hafter).regroup rfl rfl⟩

/-- The rounds of a message that fits in the buffer. -/
theorem terminated_loops {payload : Bytes} (hdeadline : deadline.InTime flow.timed)
    (hterminator : terminator ≠ [])
    (hfirst : Bytes.indexOf? terminator (payload ++ terminator) = some payload.length) {room : Nat}
    (hroom : (payload ++ terminator).length ≤ room) (state : Channel σ × Surroundings ω)
    {rest : List Bytes}
    (hholds : flow.supply.Holds (below state) ((payload ++ terminator) :: rest)) : ∃ after,
      Loops (terminatedRound terminator options deadline (σ := σ) (ω := ω)) (room, []) state
        (.ok (.inl payload)) after ∧
      Drawn flow.supply state after [payload ++ terminator] rest := by
  -- The terminator ends at the last byte and at none before.
  obtain ⟨front, byte, hlast⟩ : ∃ front byte, payload ++ terminator = front ++ [byte] :=
    ⟨_, _, (List.dropLast_concat_getLast (by simp [hterminator])).symm⟩
  have hmissing : ∀ before, before ≠ [] → before <+: front → ¬ terminator <:+ [] ++ before := by
    rintro before - ⟨left, rfl⟩
    rw [List.append_assoc] at hlast
    exact Bytes.not_suffix_of_indexOf? hfirst hlast.symm (by simp)
  rw [hlast, List.length_append, List.length_singleton] at hroom
  obtain ⟨spare, rfl⟩ := Nat.exists_eq_add_of_le' hroom
  have hsplit : flow.supply.Holds (below state) (front :: [byte] :: rest) := by
    have hbytes : flow.Holds (below state) ((payload ++ terminator) ++ rest.flatten) := hholds
    rwa [hlast, List.append_assoc] at hbytes
  obtain ⟨between, hrounds, hbetween⟩ := terminatedRounds_continue options hdeadline [] front
    (spare + 1) state hmissing hsplit
  have hdraws : Draws flow.supply between [[byte]] byte (acceptByte options deadline) :=
    acceptByte_draws byte hdeadline options between
  obtain ⟨after, hbyte, hafter⟩ := hdraws rest hbetween.holds
  have hround : (terminatedRound terminator options deadline (spare + 1, front.reverse) :
      ChannelAction σ ω _).Returns between (.ok (.done (.inl payload))) after :=
    terminatedRound_done hbyte hlast.symm
  rw [Nat.add_right_comm] at hrounds
  exact ⟨after, hrounds.loops (.done hround),
    (hbetween.trans hafter).regroup (by simp [hlast]) rfl⟩

/-! ## Messages -/

section Kinds

variable {terminator : Bytes} {options : ReceiveOptions} {state after : Channel σ × Surroundings ω}
  {result : Except ChannelError Bytes}

/-- On streams and pipes a terminated message is read byte by byte. -/
theorem acceptTerminatedBytes_of_stream (hterminator : terminator ≠ [])
    (hkind : Transport.kind ω state.1.transport ≠ .datagram)
    (h : (acceptTerminatedStream terminator options).Returns state result after) :
    (acceptTerminatedBytes terminator options).Returns state result after := by
  unfold acceptTerminatedBytes
  rw [if_neg (by simpa using hterminator)]
  refine (returns_see _).bind ?_
  cases hcase : Transport.kind ω state.1.transport with
  | datagram => exact absurd hcase hkind
  | stream | pipe => exact h

/-- On datagrams it is one of them. -/
theorem acceptTerminatedBytes_of_datagram (hterminator : terminator ≠ [])
    (hkind : Transport.kind ω state.1.transport = .datagram)
    (h : (acceptTerminatedDatagram terminator options).Returns state result after) :
    (acceptTerminatedBytes terminator options).Returns state result after := by
  unfold acceptTerminatedBytes
  rw [if_neg (by simpa using hterminator)]
  refine (returns_see _).bind ?_
  rw [hkind]
  exact h

end Kinds

/-- A terminated message is taken with its terminator, and not a byte more. -/
theorem acceptTerminatedBytes_draws {payload : Bytes}
    (htime : InTime flow.timed options.timeout) {state : Channel σ × Surroundings ω}
    (hfits : FitsTerminated state.1.config.terminatedBufferSize payload terminator) :
    Draws flow.supply state [payload ++ terminator] payload
      (acceptTerminatedBytes terminator options) := by
  obtain ⟨hterminator, hfirst, hsize⟩ := hfits
  have hstream : Draws flow.supply state [payload ++ terminator] payload
      (acceptTerminatedStream terminator options) := by
    refine (draws_settings state).after fun seen hseen => ?_
    refine (startNow_draws htime seen).after fun started hstarted => ?_
    intro rest hholds
    obtain ⟨after, hloops, hdrawn⟩ := terminated_loops
      (Deadline.inTime_startNow htime seen.2.world) hterminator hfirst (by simpa using hsize)
      started hholds
    exact ⟨after, hloops.returns.bind (returns_pure payload), hdrawn⟩
  intro rest hholds
  obtain ⟨after, hreturns, hdrawn⟩ := hstream rest hholds
  exact ⟨after, acceptTerminatedBytes_of_stream hterminator (flow.continuous hholds) hreturns,
    hdrawn⟩

end Channel

end TypedChannel
