import TypedChannel.Proofs.Grammar
import TypedChannel.Proofs.Host.Link
import TypedChannel.Proofs.RoundTrip.Leftmost
import TypedChannel.Proofs.RoundTrip.Stream
import TypedChannel.Proofs.Transport.Ending
/-!
# TypedChannel.Proofs.RoundTrip.Prefixed

The accepts of strings, on any bytes at all.

1. `Follows stream state grammar x`: the accept `x` ends as the grammar says of
   the bytes that are still to come, and leaves those that it says are left.
   It composes as grammars do (`Follows.bind`).
2. So an accept takes nothing but the wire form of what it answers with, and
   sending the answer puts the same bytes on the wire (`lengthPrefixed`).
-/

namespace TypedChannel

open TypedChannel.Action

namespace Channel

variable {ω σ α β : Type} [World ω] [Transport ω σ] {stream : FiniteSource ω σ}
  {state : Channel σ × Surroundings ω}

/-- Between the two everything in front of `left` was taken and counted. -/
structure Leaves (source : Source ω σ) (before after : Channel σ × Surroundings ω) (left : Bytes) :
    Prop where
  ready : source.Ready (below after)
  incoming : source.incoming (below after) = left
  counted : after.1.bytesReceived + left.length =
    before.1.bytesReceived + (source.incoming (below before)).length
  config : after.1.config = before.1.config

/-- From `state` an accept ends as a grammar says of what is still to come: with the value, with
the failure for what is refused, or with that of the transport behind the last byte. -/
def Follows (stream : FiniteSource ω σ) (state : Channel σ × Surroundings ω) (grammar : Grammar α)
    (x : ChannelAction σ ω α) : Prop :=
  stream.source.Ready (below state) →
    match grammar (stream.source.incoming (below state)) with
    | .value a left =>
        ∃ after, x.Returns state (.ok a) after ∧ Leaves stream.source state after left
    | .refused cause left => ∃ e after, x.Returns state (.error e) after ∧ e.root = cause ∧
        Leaves stream.source state after left
    | .cut => ∃ e after, x.Returns state (.error e) after ∧ stream.terminus.Blames e.root ∧
        stream.terminus.Holds (below after)

/-! ## How grammars are followed -/

theorem Leaves.refl {source : Source ω σ} (hready : source.Ready (below state)) :
    Leaves source state state (source.incoming (below state)) :=
  ⟨hready, rfl, rfl, rfl⟩

theorem Leaves.trans {source : Source ω σ} {before between after : Channel σ × Surroundings ω}
    {left rest : Bytes} (h : Leaves source before between left)
    (h' : Leaves source between after rest) : Leaves source before after rest where
  ready := h'.ready
  incoming := h'.incoming
  counted := by rw [h'.counted, h.incoming, h.counted]
  config := h'.config.trans h.config

/-- What was taken from a source is what it does not leave. -/
theorem Received.leaves {source : Source ω σ} {before after : Channel σ × Surroundings ω}
    {bytes : Bytes} (h : Received source before after bytes) :
    Leaves source before after (source.incoming (below after)) where
  ready := h.ready
  incoming := rfl
  counted := by
    rw [h.counted, h.incoming, List.length_append]
    omega
  config := h.config

theorem Leaves.received {source : Source ω σ} {before after : Channel σ × Surroundings ω}
    {bytes left : Bytes} (h : Leaves source before after left)
    (hsplit : source.incoming (below before) = bytes ++ left) :
    Received source before after bytes where
  ready := h.ready
  incoming := by rw [hsplit, h.incoming]
  counted := by
    have hcounted := h.counted
    rw [hsplit, List.length_append] at hcounted
    omega
  config := h.config

theorem follows_pure (a : α) (state : Channel σ × Surroundings ω) :
    Follows stream state (pure a) (pure a) :=
  fun hready => ⟨state, returns_pure a, Leaves.refl hready⟩

theorem fail_follows {cause : ChannelError} (hroot : cause.root = cause)
    (state : Channel σ × Surroundings ω) :
    Follows stream state (Grammar.refuse cause) (fail cause : ChannelAction σ ω α) := by
  intro hready
  obtain ⟨hnoted, hsame⟩ := stream.source.note
    { level := state.1.failureLevel cause, origin := .channel,
      message := "channel operation failed", fields := [("error", .shown cause.message)] } hready
  refine ⟨_, _, ⟨0, fun _ _ => rfl⟩, ?_, hnoted, hsame, rfl, rfl⟩
  exact (state.1.config.root_escalate cause state.2.diagnostics).trans hroot

/-- Grammars are followed one behind the other. -/
theorem Follows.bind {first : Grammar α} {next : α → Grammar β} {x : ChannelAction σ ω α}
    {f : α → ChannelAction σ ω β} (hx : Follows stream state first x)
    (hf : ∀ a left between, first (stream.source.incoming (below state)) = .value a left →
      between.1.config = state.1.config → Follows stream between (next a) (f a)) :
    Follows stream state (first >>= next) (x >>= f) := by
  intro hready
  have hfirst := hx hready
  show match Grammar.andThen first next _ with | .value .. => _ | .refused .. => _ | .cut => _
  unfold Grammar.andThen
  cases hread : first (stream.source.incoming (below state)) with
  | refused cause left =>
      rw [hread] at hfirst
      obtain ⟨e, after, hreturns, hend⟩ := hfirst
      exact ⟨e, after, hreturns.bind_error, hend⟩
  | cut =>
      rw [hread] at hfirst
      obtain ⟨e, after, hreturns, hend⟩ := hfirst
      exact ⟨e, after, hreturns.bind_error, hend⟩
  | value a left =>
      rw [hread] at hfirst
      obtain ⟨between, hreturns, hleaves⟩ := hfirst
      have hnext := hf a left between hread hleaves.config hleaves.ready
      rw [hleaves.incoming] at hnext
      dsimp only
      cases hlast : next a left with
      | value b rest =>
          rw [hlast] at hnext
          obtain ⟨after, hlater, hrest⟩ := hnext
          exact ⟨after, hreturns.bind hlater, hleaves.trans hrest⟩
      | refused cause rest =>
          rw [hlast] at hnext
          obtain ⟨e, after, hlater, hroot, hrest⟩ := hnext
          exact ⟨e, after, hreturns.bind hlater, hroot, hleaves.trans hrest⟩
      | cut =>
          rw [hlast] at hnext
          obtain ⟨e, after, hlater, hend⟩ := hnext
          exact ⟨e, after, hreturns.bind hlater, hend⟩

/-- Both may look at the same thing before they go on. -/
theorem follows_ite {p : Prop} [Decidable p] {grammar other : Grammar α}
    {x y : ChannelAction σ ω α} (hx : p → Follows stream state grammar x)
    (hy : ¬ p → Follows stream state other y) :
    Follows stream state (if p then grammar else other) (if p then x else y) := by
  by_cases h : p
  · rw [if_pos h, if_pos h]
    exact hx h
  · rw [if_neg h, if_neg h]
    exact hy h

theorem follows_pure_bind {grammar : Grammar β} {a : α} {f : α → ChannelAction σ ω β}
    (h : Follows stream state grammar (f a)) : Follows stream state grammar (pure a >>= f) := h

/-- Looking at the settings takes nothing. -/
theorem follows_settings_bind {grammar : Grammar α} {f : ChannelConfig → ChannelAction σ ω α}
    (h : Follows stream state grammar (f state.1.config)) :
    Follows stream state grammar (settings >>= f) := h

/-- An accept that succeeds has read its answer. -/
theorem Follows.of_ok {grammar : Grammar α} {x : ChannelAction σ ω α} {a : α}
    {after : Channel σ × Surroundings ω} (hx : Follows stream state grammar x)
    (hready : stream.source.Ready (below state)) (h : x.Returns state (.ok a) after) :
    ∃ left, grammar (stream.source.incoming (below state)) = .value a left ∧
      Leaves stream.source state after left := by
  have hend := hx hready
  cases hread : grammar (stream.source.incoming (below state)) with
  | value b left =>
      rw [hread] at hend
      obtain ⟨last, hreturns, hleaves⟩ := hend
      obtain ⟨hsame, rfl⟩ := h.unique hreturns
      cases hsame
      exact ⟨left, rfl, hleaves⟩
  | refused cause left =>
      rw [hread] at hend
      obtain ⟨e, last, hreturns, -⟩ := hend
      obtain ⟨hsame, -⟩ := h.unique hreturns
      contradiction
  | cut =>
      rw [hread] at hend
      obtain ⟨e, last, hreturns, -⟩ := hend
      obtain ⟨hsame, -⟩ := h.unique hreturns
      contradiction

/-- The answers of `count` runs of an operation, one after another up to the first that fails. -/
def times (x : ChannelAction σ ω α) : Nat → ChannelAction σ ω (List α)
  | 0 => return []
  | count + 1 => do
    let a ← x
    return a :: (← times x count)

theorem times_follows {grammar : Grammar α} {x : ChannelAction σ ω α} (count : Nat)
    (hx : ∀ between, between.1.config = state.1.config → Follows stream between grammar x) :
    Follows stream state (grammar.times count) (times x count) := by
  induction count generalizing state with
  | zero => exact follows_pure [] state
  | succ count ih =>
      refine (hx state rfl).bind fun a left between _ hbetween => ?_
      have hothers : Follows stream between (grammar.times count) (times x count) :=
        ih fun later hlater => hx later (hlater.trans hbetween)
      exact hothers.bind fun others _ later _ _ => follows_pure (a :: others) later

/-! ## Accepts without a timeout -/

section Forever

variable {options : ReceiveOptions} (hforever : options.timeout = none)

include hforever

/-- Exactly so many bytes are taken, or the end is found. -/
theorem acceptExactly_follows (wanted : Nat) (state : Channel σ × Surroundings ω) :
    Follows stream state (Grammar.bytes wanted) (acceptExactly wanted options) := by
  intro hready
  unfold Grammar.bytes
  by_cases hshort : (stream.source.incoming (below state)).length < wanted
  · rw [if_pos hshort]
    obtain ⟨e, received, hreceive, htells, hended⟩ := stream.receive_cut hready hshort
    have hreceive' : (Transport.receive wanted options.complete.timeout
        options.complete.everything : Action (σ × ω) TransportError Bytes).Returns (below state)
          (.error e) received := hforever ▸ hreceive
    have hleft : stream.terminus.supply.Holds received [] := ⟨rfl, hended⟩
    obtain ⟨cause, after, hreturns, hroot, hdrawn⟩ := acceptBytes_breaks hreceive' hleft
    exact ⟨cause, after, hreturns.bind_error, ⟨e, hroot, htells⟩, hdrawn.holds.2⟩
  · rw [if_neg hshort]
    obtain ⟨piece, left, hsplit, hlength⟩ : ∃ piece left,
        stream.source.incoming (below state) = piece ++ left ∧ piece.length = wanted :=
      ⟨_, _, (List.take_append_drop wanted _).symm, by rw [List.length_take]; omega⟩
    have htime : InTime stream.source.flow.supply.timed options.timeout := .inl hforever
    obtain ⟨after, hreturns, hreceived⟩ :=
      (acceptExactly_draws piece htime state).takes left hready (by simpa using hsplit)
    rw [List.flatten_singleton] at hreceived
    have hleft : stream.source.incoming (below after) = left :=
      List.append_cancel_left (hreceived.incoming.symm.trans hsplit)
    rw [← hlength, hsplit, List.take_left, List.drop_left]
    exact ⟨after, hreturns, hleft ▸ hreceived.leaves⟩

omit [Transport ω σ] hforever in
/-- A slot of the right size is always decoded. -/
theorem decodeSlot_eq {kind : PrimitiveKind} {wire : Bytes} (hlength : wire.length = kind.width) :
    (decodeSlot kind wire : ChannelAction σ ω _) = pure (Codec.ofWire kind wire) := by
  rw [decodeSlot, Codec.decode, Codec.decodeWith_eq (Nat.le_of_eq hlength.symm),
    Codec.lowOrder_eq_self hlength]

theorem accept_follows (kind : PrimitiveKind) (state : Channel σ × Surroundings ω) :
    Follows stream state (Grammar.primitive kind) (accept kind options) := by
  have hbytes : Follows stream state (Grammar.bytes kind.width)
      (acceptExactly kind.width options) := acceptExactly_follows hforever kind.width state
  refine hbytes.bind fun wire left between hread _ => ?_
  rw [decodeSlot_eq (Grammar.bytes_eq_value hread).2]
  exact follows_pure _ between

theorem acceptInt32_follows (state : Channel σ × Surroundings ω) :
    Follows stream state Grammar.int32 (accept .int32 options) :=
  accept_follows hforever .int32 state

omit [Transport ω σ] in
theorem optionsWithin_forever :
    (optionsWithin options ⟨none⟩ : ChannelAction σ ω ReceiveOptions) = pure options := by
  cases options
  subst hforever
  rfl

theorem acceptStringBytes_follows (state : Channel σ × Surroundings ω) :
    Follows stream state (Grammar.stringBytes state.1.config.maxStringLength)
      (acceptStringBytes options) := by
  unfold acceptStringBytes
  rw [hforever]
  refine (acceptInt32_follows hforever state).bind fun number left between _ hbetween => ?_
  refine follows_ite (fun _ => follows_pure none between) fun _ => ?_
  refine follows_ite (fun _ => fail_follows rfl between) fun _ => ?_
  refine follows_settings_bind ?_
  rw [hbetween]
  refine follows_ite (fun _ => fail_follows rfl between) fun _ => ?_
  rw [optionsWithin_forever hforever]
  refine follows_pure_bind ?_
  refine (acceptExactly_follows hforever _ between).bind fun content _ later _ _ => ?_
  exact follows_pure (some content) later

theorem acceptString_follows (state : Channel σ × Surroundings ω) :
    Follows stream state (Grammar.string state.1.config.maxStringLength)
      (acceptString options) := by
  refine (acceptStringBytes_follows hforever state).bind fun value left between _ _ => ?_
  cases value with
  | none => exact follows_pure none between
  | some content =>
      dsimp only
      unfold decodeText
      cases Text.Utf8.decode content with
      | ok text => exact follows_pure_bind (follows_pure (some text) between)
      | error fault =>
          have hrefused : Follows stream between (Grammar.refuse (.invalidUtf8 fault))
              (fail (.invalidUtf8 fault) : ChannelAction σ ω (Option String)) :=
            fail_follows rfl between
          exact hrefused

theorem acceptStrings_forever (count : Nat) (received : List (Option String)) :
    (acceptStrings options ⟨none⟩ count received : ChannelAction σ ω _) = do
      let values ← times (acceptString options) count
      return received.reverse ++ values := by
  induction count generalizing received with
  | zero =>
      show (pure received.reverse : ChannelAction σ ω _) = pure (received.reverse ++ [])
      rw [List.append_nil]
  | succ count ih =>
      have hrest : ∀ value, (acceptStrings options ⟨none⟩ count (value :: received) :
          ChannelAction σ ω _) = times (acceptString options) count >>= fun values =>
            pure (received.reverse ++ value :: values) := by
        intro value
        rw [ih, List.reverse_cons]
        simp only [List.append_assoc, List.singleton_append]
      rw [acceptStrings, optionsWithin_forever hforever, times, bind_bind]
      simp only [bind_bind]
      exact congrArg (acceptString options >>= ·) (funext hrest)

/-- An array is a count and as many strings, each accepted by itself. -/
theorem acceptStringArray_forever : (acceptStringArray options : ChannelAction σ ω _) = (do
    let count := (← accept .int32 options).toInt
    if count < 0 then
      fail (.invalidLength count)
    else
      times (acceptString options) count.toNat) := by
  have hstrings : ∀ count, (acceptStrings options ⟨none⟩ count [] : ChannelAction σ ω _) =
      times (acceptString options) count := by
    intro count
    rw [acceptStrings_forever hforever, List.reverse_nil]
    simp only [List.nil_append]
    exact bind_pure _
  unfold acceptStringArray
  rw [hforever]
  show accept .int32 options >>= _ = accept .int32 options >>= _
  simp only [hstrings]

theorem acceptStringArray_follows (state : Channel σ × Surroundings ω) :
    Follows stream state (Grammar.stringArray state.1.config.maxStringLength)
      (acceptStringArray options) := by
  rw [acceptStringArray_forever hforever]
  refine (acceptInt32_follows hforever state).bind fun number left between _ hbetween => ?_
  refine follows_ite (fun _ => fail_follows rfl between) fun _ => ?_
  refine times_follows _ fun later hlater => ?_
  rw [← hbetween, ← hlater]
  exact acceptString_follows hforever later

end Forever

/-! ## Both ways -/

/-- The accepts of strings read their grammars off any bytes, the array as so many strings one
after another.  Whenever a string or an array is accepted, sending it under the same limit puts
exactly the bytes on the wire that were taken for it. -/
theorem lengthPrefixed {ω' σ' : Type} [World ω'] [Transport ω' σ'] (stream : FiniteSource ω σ)
    (sink : Sink ω' σ') {options : ReceiveOptions} (hforever : options.timeout = none)
    {state : Channel σ × Surroundings ω} {sender : Channel σ' × Surroundings ω'}
    (hready : stream.source.Ready (below state)) (hsender : sink.Ready (below sender))
    (hsame : sender.1.config.maxStringLength = state.1.config.maxStringLength) :
    Follows stream state (Grammar.stringBytes state.1.config.maxStringLength)
      (acceptStringBytes options) ∧
    Follows stream state (Grammar.string state.1.config.maxStringLength) (acceptString options) ∧
    Follows stream state (Grammar.stringArray state.1.config.maxStringLength)
      (acceptStringArray options) ∧
    (acceptStringArray options : ChannelAction σ ω _) = (do
      let count := (← accept .int32 options).toInt
      if count < 0 then
        fail (.invalidLength count)
      else
        times (acceptString options) count.toNat) ∧
    (∀ value after, (acceptString options).Returns state (.ok value) after → ∃ taken,
      Received stream.source state after taken ∧ Puts sink sender taken (sendString value)) ∧
    ∀ values after, (acceptStringArray options).Returns state (.ok values) after → ∃ taken,
      Received stream.source state after taken ∧
        Puts sink sender taken (sendStringArray values) := by
  refine ⟨acceptStringBytes_follows hforever state, acceptString_follows hforever state,
    acceptStringArray_follows hforever state, acceptStringArray_forever hforever, ?_, ?_⟩
  · intro value after hreturns
    obtain ⟨left, hread, hleaves⟩ :=
      (acceptString_follows hforever state).of_ok hready hreturns
    obtain ⟨hsplit, hfits⟩ := Grammar.string_canonical hread
    have hmessage : (Message.string value).Fits sender.1.config state.1.config :=
      ⟨by rwa [hsame], hfits⟩
    exact ⟨_, hleaves.received hsplit, sendMessage_puts hsender hmessage⟩
  · intro values after hreturns
    obtain ⟨left, hread, hleaves⟩ :=
      (acceptStringArray_follows hforever state).of_ok hready hreturns
    obtain ⟨hsplit, hmany, hfits⟩ := Grammar.stringArray_canonical hread
    have hmessage : (Message.strings values).Fits sender.1.config state.1.config :=
      ⟨hmany, fun value hvalue => ⟨by rw [hsame]; exact hfits value hvalue, hfits value hvalue⟩⟩
    exact ⟨_, hleaves.received hsplit, sendMessage_puts hsender hmessage⟩

end Channel

/-! ## Links -/

/-- Behind its last byte a link says that its peer has closed, unless it is interrupted. -/
theorem Link.read_behind {link : Link} (h : link.cutsReads = true) {room : Nat} (hroom : room ≠ 0)
    (hstream : link.stream = []) : ∃ after : Link, after.cutsReads = true ∧ after.stream = [] ∧
      (link.read room = (.error .closed, after) ∨
        ∃ e, (TransportError.io e).isInterrupted = true ∧
          link.read room = (.error (.failed e), after) ∧
          after.reads.length < link.reads.length) := by
  have hlink := h
  simp only [cutsReads, Bool.and_eq_true, bne_iff_ne] at h
  obtain ⟨⟨⟨hkind, hchunk⟩, hevents⟩, hpolls⟩ := h
  have hmost := cut_pos hchunk hroom
  have htake : ∀ (n : Nat) (logged : Link), logged.kind ≠ .datagram → logged.stream = [] →
      logged.take n = (.error .closed, logged) := by
    intro n logged hkind hstream
    unfold take
    cases hcase : logged.kind with
    | datagram => exact absurd hcase hkind
    | stream | pipe => simp [hstream]
  unfold read
  cases hreads : link.reads with
  | nil =>
      refine ⟨link.logged (.read room), hlink, hstream, .inl ?_⟩
      simp [hmost, htake, hkind, hstream, logged, hreads]
  | cons event events =>
      rw [hreads, List.all_cons, Bool.and_eq_true] at hevents
      obtain ⟨hevent, hrest⟩ := hevents
      have hafter :
          ({ link.logged (.read room) with reads := events } : Link).cutsReads = true := by
        simp only [cutsReads, logged, Bool.and_eq_true, bne_iff_ne]
        exact ⟨⟨⟨hkind, hchunk⟩, hrest⟩, hpolls⟩
      cases event with
      | closed => contradiction
      | atMost n =>
          have hn : n ≠ 0 := by simpa [LinkEvent.cuts] using hevent
          have hboth : min n (cut link.readChunk room) ≠ 0 := by omega
          refine ⟨_, hafter, hstream, .inl ?_⟩
          simp [logged, hreads, hboth, htake, hkind, hstream]
      | failed e =>
          exact ⟨_, hafter, hstream, .inr ⟨e, hevent, by simp [logged, hreads], by simp⟩⟩

/-- The stream of a link, which ends behind its last byte. -/
def Link.finiteSource (number : Nat) : FiniteSource Host Handle where
  source := Link.source number
  ends hready hnone := ⟨hready, hnone⟩
  terminus :=
    { Holds := fun state =>
        (Link.source number).Ready state ∧ (Link.source number).incoming state = []
      timed := false
      interruptions := (Link.source number).interruptions
      Tells := (· = .closed)
      final := by
        rintro e rfl
        rfl
      poll := by
        intro state timeout h htime
        have hforever : timeout = none := by simpa [InTime] using htime
        subst hforever
        obtain ⟨after, hpoll, hafter, hsame, hmore⟩ := (Link.source number).poll h.1
        exact ⟨after, hpoll, ⟨hafter, hsame.trans h.2⟩, hmore⟩
      read := by
        rintro ⟨handle, host⟩ room ⟨⟨⟨kind, hkind, rfl⟩, link, hlink, hcuts⟩, hnone⟩ hroom
        have hstream : link.stream = [] := by simpa [Link.source, hlink] using hnone
        obtain ⟨after, hafter, hempty, hend⟩ := Link.read_behind hcuts hroom hstream
        have hset := Handle.getElem?_set_link hlink after
        have hleft : (Link.source number).incoming
            (.link number kind, { host with links := host.links.set number after }) = [] := by
          simpa [Link.source, hset] using hempty
        obtain hread | ⟨e, he, hread, hfewer⟩ := hend
        · exact ⟨_, _, Handle.read_closed hlink hread,
            ⟨⟨⟨kind, hkind, rfl⟩, after, hset, hafter⟩, hleft⟩, .inl rfl⟩
        · exact ⟨_, _, Handle.read_fails hlink hread,
            ⟨⟨⟨kind, hkind, rfl⟩, after, hset, hafter⟩, hleft⟩,
            .inr ⟨he, by simpa only [Link.source, hset, hlink, Option.elim_some] using hfewer⟩⟩
      look := fun htimed => nomatch htimed
      note := fun event h =>
        ⟨((Link.source number).note event h.1).1,
          ((Link.source number).note event h.1).2.trans h.2⟩ }

namespace Channel

/-- Two strings, one of them none, over a link that gives three bytes at a time and is interrupted.
Asked for one string, the same link gives two bytes that are no text. -/
theorem lengthPrefixed_two :
    ∃ state sender after refused : Channel Handle × Surroundings Host, ∃ e,
      (Link.source 0).incoming (below state) =
        [0, 0, 0, 2, 255, 255, 255, 255, 0, 0, 0, 2, 195, 169, 255] ∧
      (acceptStringArray .blocking).Returns state (.ok [none, some "é"]) after ∧
      (Link.source 0).incoming (below after) = [255] ∧
      Puts (Link.sink 0) sender [0, 0, 0, 2, 255, 255, 255, 255, 0, 0, 0, 2, 195, 169]
        (sendStringArray [none, some "é"]) ∧
      (acceptString .blocking).Returns state (.error e) refused ∧
      e.root = .invalidUtf8 (.invalid 1 0) ∧
      (Link.source 0).incoming (below refused) = [255, 255, 0, 0, 0, 2, 195, 169, 255] := by
  let state := linked
    { stream := [0, 0, 0, 2, 255, 255, 255, 255, 0, 0, 0, 2, 195, 169, 255], readChunk := some 3,
      reads := [.atMost 1, .failed (.ofErrno .interrupted)] }
  have hforever : ReceiveOptions.blocking.timeout = none := rfl
  have hready : (Link.finiteSource 0).source.Ready (below state) :=
    ⟨⟨_, by decide, rfl⟩, _, rfl, rfl⟩
  have hsender : (Link.sink 0).Ready (below (linked {})) := ⟨⟨_, rfl⟩, _, rfl, rfl⟩
  obtain ⟨-, hstring, harray, -, -, hsend⟩ :=
    lengthPrefixed (Link.finiteSource 0) (Link.sink 0) hforever hready hsender rfl
  have hmax : state.1.config.maxStringLength = 16777216 := rfl
  have htext : (Link.finiteSource 0).source.incoming (below state) =
      [0, 0, 0, 2, 255, 255, 255, 255, 0, 0, 0, 2, 195, 169, 255] := rfl
  have hread : Grammar.stringArray 16777216
      [0, 0, 0, 2, 255, 255, 255, 255, 0, 0, 0, 2, 195, 169, 255] =
        .value [none, some "é"] [255] := rfl
  have hrefuse : Grammar.string 16777216
      [0, 0, 0, 2, 255, 255, 255, 255, 0, 0, 0, 2, 195, 169, 255] =
        .refused (.invalidUtf8 (.invalid 1 0)) [255, 255, 0, 0, 0, 2, 195, 169, 255] := rfl
  have harrayEnds := harray hready
  have hstringEnds := hstring hready
  rw [hmax, htext, hread] at harrayEnds
  rw [hmax, htext, hrefuse] at hstringEnds
  obtain ⟨after, hreturns, hleaves⟩ := harrayEnds
  obtain ⟨e, refused, hfails, hroot, hrefused⟩ := hstringEnds
  obtain ⟨taken, hreceived, hputs⟩ := hsend _ after hreturns
  have htaken : taken = [0, 0, 0, 2, 255, 255, 255, 255, 0, 0, 0, 2, 195, 169] := by
    have hsplit := hreceived.incoming
    rw [show (Link.finiteSource 0).source.incoming (below after) = [255] from
      hleaves.incoming] at hsplit
    exact (List.append_cancel_right hsplit).symm
  exact ⟨state, linked {}, after, refused, e, rfl, hreturns, hleaves.incoming, htaken ▸ hputs,
    hfails, hroot, hrefused.incoming⟩

end Channel

end TypedChannel
