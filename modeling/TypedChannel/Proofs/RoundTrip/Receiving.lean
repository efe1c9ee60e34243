import TypedChannel.Proofs.RoundTrip.Sending
/-!
# TypedChannel.Proofs.RoundTrip.Receiving

The receiving half of a round trip: from a supply that begins with the pieces
of a message, the accept that belongs to it succeeds, gives the message back,
takes exactly these pieces and counts their bytes.

1. `Draws supply state pieces a x` composes by appending (`Draws.bind`), as
   `Conveys` does on the other side.
2. An accept with a timeout looks at the clock between its receives; a supply
   that serves requests in a limited time serves these as well.
3. `Takes source state bytes a x` is the same for a source, which does not tell
   the pieces apart.
-/

namespace TypedChannel

open TypedChannel.Action

namespace Channel

variable {ω σ α β : Type} [World ω] [Transport ω σ] {supply : Supply ω σ}

/-- Between the two `pieces` were taken and counted, and the `rest` is still to come. -/
structure Drawn (supply : Supply ω σ) (before after : Channel σ × Surroundings ω)
    (pieces rest : List Bytes) : Prop where
  holds : supply.Holds (below after) rest
  counted : after.1.bytesReceived = before.1.bytesReceived + pieces.flatten.length
  config : after.1.config = before.1.config

theorem Drawn.trans {before between after : Channel σ × Surroundings ω}
    {pieces more left rest : List Bytes} (h : Drawn supply before between pieces left)
    (h' : Drawn supply between after more rest) :
    Drawn supply before after (pieces ++ more) rest where
  holds := h'.holds
  counted := by
    rw [h'.counted, h.counted, List.flatten_append, List.length_append, Nat.add_assoc]
  config := h'.config.trans h.config

/-- From `state` an accept succeeds with `a` if `pieces` are the next to come, and takes these. -/
def Draws (supply : Supply ω σ) (state : Channel σ × Surroundings ω) (pieces : List Bytes) (a : α)
    (x : ChannelAction σ ω α) : Prop :=
  ∀ rest, supply.Holds (below state) (pieces ++ rest) →
    ∃ after, x.Returns state (.ok a) after ∧ Drawn supply state after pieces rest

theorem draws_pure (a : α) (state : Channel σ × Surroundings ω) :
    Draws supply state [] a (pure a) :=
  fun _ hholds => ⟨state, returns_pure a, hholds, rfl, rfl⟩

theorem Draws.bind {state : Channel σ × Surroundings ω} {pieces more : List Bytes} {a : α} {b : β}
    {x : ChannelAction σ ω α} {f : α → ChannelAction σ ω β} (hx : Draws supply state pieces a x)
    (hf : ∀ between, between.1.config = state.1.config → Draws supply between more b (f a)) :
    Draws supply state (pieces ++ more) b (x >>= f) := by
  intro rest hholds
  rw [List.append_assoc] at hholds
  obtain ⟨between, hfirst, hbetween⟩ := hx _ hholds
  obtain ⟨after, hsecond, hafter⟩ := hf between hbetween.config rest hbetween.holds
  exact ⟨after, hfirst.bind hsecond, hbetween.trans hafter⟩

/-- What takes nothing may stand before. -/
theorem Draws.after {state : Channel σ × Surroundings ω} {pieces : List Bytes} {a : α} {b : β}
    {x : ChannelAction σ ω α} {f : α → ChannelAction σ ω β} (hx : Draws supply state [] a x)
    (hf : ∀ between, between.1.config = state.1.config → Draws supply between pieces b (f a)) :
    Draws supply state pieces b (x >>= f) :=
  hx.bind hf

/-- And so it may behind. -/
theorem Draws.followed {state : Channel σ × Surroundings ω} {pieces : List Bytes} {a : α} {b : β}
    {x : ChannelAction σ ω α} {f : α → ChannelAction σ ω β} (hx : Draws supply state pieces a x)
    (hf : ∀ between, Draws supply between [] b (f a)) : Draws supply state pieces b (x >>= f) := by
  have hboth := hx.bind fun between _ => hf between
  rwa [List.append_nil] at hboth

/-- An answer may be made of what was taken. -/
theorem Draws.map {state : Channel σ × Surroundings ω} {pieces : List Bytes} {a : α}
    {x : ChannelAction σ ω α} (f : α → β) (hx : Draws supply state pieces a x) :
    Draws supply state pieces (f a) (do return f (← x)) :=
  hx.followed fun between => draws_pure (f a) between

theorem draws_settings (state : Channel σ × Surroundings ω) :
    Draws supply state [] state.1.config settings :=
  fun _ hholds => ⟨state, returns_see _, hholds, rfl, rfl⟩

/-! ## Deadlines -/

/-- A look at the world that a supply does not mind. -/
theorem draws_inWorld {f : ω → α × ω} {state : Channel σ × Surroundings ω}
    (hf : ∀ pieces, supply.Holds (below state) pieces →
      supply.Holds (state.1.transport, (f state.2.world).2) pieces) :
    Draws supply state [] (f state.2.world).1 (inWorld f) :=
  fun rest hholds => ⟨_, returns_step _, hf rest hholds, rfl, rfl⟩

theorem startNow_draws {timeout : Option Duration} (htime : InTime supply.timed timeout)
    (state : Channel σ × Surroundings ω) :
    Draws supply state [] (Deadline.startNow timeout state.2.world).1
      (inWorld (Deadline.startNow timeout)) := by
  refine draws_inWorld fun pieces hholds => ?_
  exact Deadline.startNow_keeps (P := fun world => supply.Holds (state.1.transport, world) pieces)
    htime hholds fun htimed => supply.look htimed hholds

/-- What is left of a deadline is a timeout that a request may be made with. -/
theorem optionsWithin_draws {deadline : Deadline} (hdeadline : deadline.InTime supply.timed)
    (options : ReceiveOptions) (state : Channel σ × Surroundings ω) :
    ∃ timeout, InTime supply.timed timeout ∧
      Draws supply state [] { options with timeout } (optionsWithin options deadline) := by
  refine ⟨_, Deadline.inTime_remainingNow hdeadline state.2.world, ?_⟩
  refine (draws_inWorld fun pieces hholds => ?_).after fun between _ => draws_pure _ between
  exact Deadline.remainingNow_keeps
    (P := fun world => supply.Holds (state.1.transport, world) pieces) hdeadline hholds
    fun htimed => supply.look htimed hholds

/-! ## Receives -/

/-- Whether a request with these options is served with a whole piece. -/
def Serves (supply : Supply ω σ) (options : ReceiveOptions) : Prop :=
  InTime supply.timed options.timeout ∧ (options.everything = true ∨ supply.whole = true)

/-- What the transport gives is counted, and the log is told of it. -/
theorem acceptBytes_returns {wanted : Nat} {options : ReceiveOptions} {bytes : Bytes}
    {state : Channel σ × Surroundings ω} {received : σ × ω}
    (hreceive : (Transport.receive wanted options.timeout options.everything :
      Action (σ × ω) TransportError Bytes).Returns (below state) (.ok bytes) received) :
    ∃ after event, (acceptBytes wanted options).Returns state (.ok bytes) after ∧
      below after = (received.1, World.note event received.2) ∧
      after.1.bytesReceived = state.1.bytesReceived + bytes.length ∧
      after.1.config = state.1.config :=
  ⟨_, _, (returns_onTransport hreceive).bind ((returns_pure _).bind ((returns_change _).bind
    ((returns_change _).bind (returns_pure _)))), rfl, rfl, rfl⟩

/-- A receive takes the piece that it asks for. -/
theorem acceptBytes_draws (piece : Bytes) {options : ReceiveOptions}
    (hserves : Serves supply options) (state : Channel σ × Surroundings ω) :
    Draws supply state [piece] piece (acceptBytes piece.length options) := by
  intro rest hholds
  obtain ⟨htime, hwhole⟩ := hserves
  obtain ⟨received, hreceive, hreceived⟩ := supply.receive hholds htime hwhole
  obtain ⟨after, event, hreturns, hbelow, hcounted, hconfig⟩ := acceptBytes_returns hreceive
  have hnoted : supply.Holds (below after) rest := by
    rw [hbelow]
    exact supply.note event hreceived
  exact ⟨after, hreturns, hnoted, by simpa using hcounted, hconfig⟩

theorem acceptExactly_draws (piece : Bytes) {options : ReceiveOptions}
    (htime : InTime supply.timed options.timeout) (state : Channel σ × Surroundings ω) :
    Draws supply state [piece] piece (acceptExactly piece.length options) := by
  have hserves : Serves supply options.complete := ⟨htime, .inl rfl⟩
  refine (acceptBytes_draws piece hserves state).followed fun between => ?_
  rw [if_neg (Nat.lt_irrefl _)]
  exact draws_pure piece between

/-! ## Primitives -/

theorem decodeSlot_draws {kind : PrimitiveKind} (value : Primitive kind)
    (state : Channel σ × Surroundings ω) :
    Draws supply state [] value (decodeSlot kind (Codec.wire value)) := by
  rw [decodeSlot, Codec.decode_wire]
  exact draws_pure value state

theorem accept_draws {kind : PrimitiveKind} (value : Primitive kind) {options : ReceiveOptions}
    (htime : InTime supply.timed options.timeout) (state : Channel σ × Surroundings ω) :
    Draws supply state [Codec.wire value] value (accept kind options) := by
  have hexactly := acceptExactly_draws (Codec.wire value) htime state
  rw [Codec.length_wire] at hexactly
  exact hexactly.followed fun between => decodeSlot_draws value between

omit [Transport ω σ] in
/-- Slots that hold anything are filled with the values whose canonical forms come. -/
theorem fillSlots_returns {kind : PrimitiveKind} (values old before : List (Primitive kind))
    (hlength : old.length = values.length) (state : Channel σ × Surroundings ω) :
    (fillSlots before.length values.length (values.flatMap Codec.wire) :
      FillAction σ ω kind Unit).Returns (state, before ++ old) (.ok ())
        (state, before ++ values) := by
  induction values generalizing old before with
  | nil =>
      have hold : old = [] := List.length_eq_zero_iff.mp hlength
      subst hold
      exact returns_pure ()
  | cons value values ih =>
      cases old with
      | nil => simp at hlength
      | cons slot old =>
          have htake : (Codec.wire value ++ values.flatMap Codec.wire).take kind.width =
              Codec.wire value := by
            rw [← Codec.length_wire value, List.take_left]
          have hdrop : (Codec.wire value ++ values.flatMap Codec.wire).drop kind.width =
              values.flatMap Codec.wire := by
            rw [← Codec.length_wire value, List.drop_left]
          have hslot : (besideSlots (decodeSlot kind (Codec.wire value)) :
              FillAction σ ω kind (Primitive kind)).Returns (state, before ++ slot :: old)
                (.ok value) (state, before ++ slot :: old) := by
            have hdecode : (decodeSlot kind (Codec.wire value) :
                ChannelAction σ ω (Primitive kind)).Returns state (.ok value) state := by
              rw [decodeSlot, Codec.decode_wire]
              exact returns_pure value
            exact Returns.on hdecode
          have hset : (before ++ slot :: old).set before.length value =
              (before ++ [value]) ++ old := by simp
          have hrest := ih old (before ++ [value]) (by simpa using hlength)
          rw [List.length_append, List.length_singleton, List.append_assoc, List.append_assoc,
            List.singleton_append, List.singleton_append] at hrest
          rw [List.flatMap_cons, List.length_cons, fillSlots, htake, hdrop]
          refine hslot.bind ((returns_change _).bind ?_)
          simp only [hset, List.append_assoc, List.singleton_append]
          exact hrest

theorem length_wires {kind : PrimitiveKind} (values : List (Primitive kind)) :
    (values.flatMap Codec.wire).length = values.length * kind.width := by
  induction values with
  | nil => simp
  | cons value values ih =>
      rw [List.flatMap_cons, List.length_append, Codec.length_wire, ih, List.length_cons,
        Nat.succ_mul, Nat.add_comm]

/-- An array fills as many slots as it has elements. -/
theorem acceptSlots_draws {kind : PrimitiveKind} (values : List (Primitive kind))
    (answer : List (Primitive kind) → α) {options : ReceiveOptions}
    (htime : InTime supply.timed options.timeout) (state : Channel σ × Surroundings ω) :
    Draws supply state [values.flatMap Codec.wire] (answer values)
      ((do acceptInto options; Action.see fun state => answer state.2 : FillAction σ ω kind α).on
        (fun state => (state, List.replicate values.length (.ofNat kind 0)))
        (fun (state, _) _ => state)) := by
  intro rest hholds
  obtain ⟨after, hreturns, hdrawn⟩ :=
    acceptExactly_draws (values.flatMap Codec.wire) htime state rest hholds
  have hslots : (besideSlots (acceptExactly (values.length * kind.width) options) :
      FillAction σ ω kind Bytes).Returns (state, List.replicate values.length (.ofNat kind 0))
        (.ok (values.flatMap Codec.wire))
        (after, List.replicate values.length (.ofNat kind 0)) := by
    rw [← length_wires]
    exact Returns.on hreturns
  have hfill := fillSlots_returns values (List.replicate values.length (.ofNat kind 0)) []
    List.length_replicate after
  have hinto : (acceptInto options : FillAction σ ω kind Unit).Returns
      (state, List.replicate values.length (.ofNat kind 0)) (.ok ()) (after, values) := by
    refine (returns_see _).bind ?_
    rw [List.length_replicate]
    exact hslots.bind hfill
  have hboth : (do acceptInto options; Action.see fun state => answer state.2 :
      FillAction σ ω kind α).Returns (state, List.replicate values.length (.ofNat kind 0))
        (.ok (answer values)) (after, values) :=
    hinto.bind (returns_see _)
  obtain ⟨enough, hends⟩ := hboth
  refine ⟨after, ⟨enough, fun patience hle => ?_⟩, hdrawn⟩
  unfold Action.on
  rw [hends patience hle]
  rfl

/-! ## Strings -/

theorem acceptStringBytes_draws {value : Option Bytes} {options : ReceiveOptions}
    (htime : InTime supply.timed options.timeout) {state : Channel σ × Surroundings ω}
    (hfits : FitsString state.1.config.maxStringLength value) :
    Draws supply state (stringPieces value) value (acceptStringBytes options) := by
  unfold acceptStringBytes
  refine (startNow_draws htime state).after fun started hstarted => ?_
  have hdeadline := Deadline.inTime_startNow htime state.2.world
  generalize (Deadline.startNow options.timeout state.2.world).1 = deadline at hdeadline
  cases value with
  | none =>
      refine (accept_draws (.ofInt .int32 nullLength) htime started).followed fun between => ?_
      rw [Primitive.toInt_ofInt_int32 (by decide) (by decide)]
      exact draws_pure none between
  | some bytes =>
      obtain ⟨hmax, hannounced⟩ := hfits bytes rfl
      have hlength : (Primitive.ofInt .int32 bytes.length).toInt = bytes.length := by
        unfold maxAnnounced at hannounced
        exact Primitive.toInt_ofInt_int32 (by omega) (by omega)
      refine (accept_draws (.ofInt .int32 bytes.length) htime started).bind
        fun between hbetween => ?_
      have hnull : ¬ (bytes.length : Int) = nullLength := by
        unfold nullLength
        omega
      have hnegative : ¬ (bytes.length : Int) < nullLength := by
        unfold nullLength
        omega
      have hshort : ¬ between.1.config.maxStringLength < (bytes.length : Int).toNat := by
        rw [hbetween, hstarted, Int.toNat_natCast]
        omega
      rw [hlength, if_neg hnull, if_neg hnegative]
      refine (draws_settings between).after fun seen _ => ?_
      rw [if_neg hshort, Int.toNat_natCast]
      obtain ⟨timeout, hleft, hoptions⟩ := optionsWithin_draws hdeadline options seen
      have hleft' : InTime supply.timed { options with timeout }.timeout := hleft
      exact hoptions.after fun later _ => (acceptExactly_draws bytes hleft' later).map some

theorem decodeText_draws (text : String) (state : Channel σ × Surroundings ω) :
    Draws supply state [] text (decodeText (Text.Utf8.encode text)) := by
  rw [decodeText, Text.Utf8.decode_encode]
  exact draws_pure text state

theorem acceptString_draws {value : Option String} {options : ReceiveOptions}
    (htime : InTime supply.timed options.timeout) {state : Channel σ × Surroundings ω}
    (hfits : FitsString state.1.config.maxStringLength (value.map Text.Utf8.encode)) :
    Draws supply state (stringPieces (value.map Text.Utf8.encode)) value
      (acceptString options) := by
  refine (acceptStringBytes_draws htime hfits).followed fun between => ?_
  cases value with
  | none => exact draws_pure none between
  | some text => exact (decodeText_draws text between).map some

theorem acceptStrings_draws {deadline : Deadline} (hdeadline : deadline.InTime supply.timed)
    (values : List (Option String)) (options : ReceiveOptions) (received : List (Option String))
    {state : Channel σ × Surroundings ω}
    (hfits : ∀ value ∈ values,
      FitsString state.1.config.maxStringLength (value.map Text.Utf8.encode)) :
    Draws supply state (stringsPieces values) (received.reverse ++ values)
      (acceptStrings options deadline values.length received) := by
  induction values generalizing received state with
  | nil =>
      rw [List.append_nil]
      exact draws_pure _ state
  | cons value values ih =>
      rw [stringsPieces_cons]
      obtain ⟨timeout, hleft, hoptions⟩ := optionsWithin_draws hdeadline options state
      have hleft' : InTime supply.timed { options with timeout }.timeout := hleft
      refine hoptions.after fun started hstarted => ?_
      have hvalue := hstarted ▸ hfits value List.mem_cons_self
      refine (acceptString_draws hleft' hvalue).bind fun between hbetween => ?_
      have hrest : Draws supply between (stringsPieces values) _
          (acceptStrings options deadline values.length (value :: received)) :=
        ih (value :: received) fun v hv => by
          rw [hbetween, hstarted]
          exact hfits v (List.mem_cons_of_mem value hv)
      rwa [List.reverse_cons, List.append_assoc] at hrest

theorem acceptStringArray_draws {values : List (Option String)} {options : ReceiveOptions}
    (htime : InTime supply.timed options.timeout) {state : Channel σ × Surroundings ω}
    (hmany : values.length ≤ maxAnnounced)
    (hfits : ∀ value ∈ values,
      FitsString state.1.config.maxStringLength (value.map Text.Utf8.encode)) :
    Draws supply state (int32Wire values.length :: stringsPieces values) values
      (acceptStringArray options) := by
  have hcount : (Primitive.ofInt .int32 values.length).toInt = values.length := by
    unfold maxAnnounced at hmany
    exact Primitive.toInt_ofInt_int32 (by omega) (by omega)
  have hnonnegative : ¬ (values.length : Int) < 0 := by omega
  refine (startNow_draws htime state).after fun started hstarted => ?_
  have hdeadline := Deadline.inTime_startNow htime state.2.world
  refine (accept_draws (.ofInt .int32 values.length) htime started).bind fun between hbetween => ?_
  rw [hcount, if_neg hnonnegative, Int.toNat_natCast]
  refine acceptStrings_draws hdeadline values options [] fun value hvalue => ?_
  rw [hbetween, hstarted]
  exact hfits value hvalue

/-! ## Sources -/

variable {source : Source ω σ}

/-- Between the two `bytes` were taken from the source and counted. -/
structure Received (source : Source ω σ) (before after : Channel σ × Surroundings ω)
    (bytes : Bytes) : Prop where
  ready : source.Ready (below after)
  incoming : source.incoming (below before) = bytes ++ source.incoming (below after)
  counted : after.1.bytesReceived = before.1.bytesReceived + bytes.length
  config : after.1.config = before.1.config

theorem Received.refl {state : Channel σ × Surroundings ω} (hready : source.Ready (below state)) :
    Received source state state [] :=
  ⟨hready, rfl, rfl, rfl⟩

theorem Received.trans {before between after : Channel σ × Surroundings ω} {bytes more : Bytes}
    (h : Received source before between bytes) (h' : Received source between after more) :
    Received source before after (bytes ++ more) where
  ready := h'.ready
  incoming := by rw [h.incoming, h'.incoming, List.append_assoc]
  counted := by rw [h'.counted, h.counted, List.length_append, Nat.add_assoc]
  config := h'.config.trans h.config

/-- From `state` an accept succeeds with `a` if the source begins with `bytes`, and takes these. -/
def Takes (source : Source ω σ) (state : Channel σ × Surroundings ω) (bytes : Bytes) (a : α)
    (x : ChannelAction σ ω α) : Prop :=
  ∀ rest, source.Ready (below state) → source.incoming (below state) = bytes ++ rest →
    ∃ after, x.Returns state (.ok a) after ∧ Received source state after bytes

theorem takes_pure (state : Channel σ × Surroundings ω) (a : α) :
    Takes source state [] a (pure a) :=
  fun _ hready _ => ⟨state, returns_pure a, Received.refl hready⟩

theorem Takes.bind {state : Channel σ × Surroundings ω} {bytes more : Bytes} {a : α} {b : β}
    {x : ChannelAction σ ω α} {f : α → ChannelAction σ ω β} (hx : Takes source state bytes a x)
    (hf : ∀ between, between.1.config = state.1.config → Takes source between more b (f a)) :
    Takes source state (bytes ++ more) b (x >>= f) := by
  intro rest hready hincoming
  rw [List.append_assoc] at hincoming
  obtain ⟨between, hreturns, hreceived⟩ := hx _ hready hincoming
  have hleft : source.incoming (below between) = more ++ rest :=
    List.append_cancel_left (hreceived.incoming.symm.trans hincoming)
  obtain ⟨after, hreturns', hreceived'⟩ :=
    hf between hreceived.config rest hreceived.ready hleft
  exact ⟨after, hreturns.bind hreturns', hreceived.trans hreceived'⟩

/-- An answer may be made of what was taken. -/
theorem Takes.map {state : Channel σ × Surroundings ω} {bytes : Bytes} {a : α}
    {x : ChannelAction σ ω α} (f : α → β) (hx : Takes source state bytes a x) :
    Takes source state bytes (f a) (do return f (← x)) := by
  have hboth : Takes source state (bytes ++ []) (f a) (do return f (← x)) :=
    hx.bind fun between _ => takes_pure between (f a)
  rwa [List.append_nil] at hboth

/-- What is asked for in pieces is taken from a source as a whole. -/
theorem Draws.takes {state : Channel σ × Surroundings ω} {pieces : List Bytes} {a : α}
    {x : ChannelAction σ ω α} (hx : Draws source.flow.supply state pieces a x) :
    Takes source state pieces.flatten a x := by
  intro rest hready hincoming
  have hholds : source.flow.supply.Holds (below state) (pieces ++ [rest]) :=
    ⟨hready, by simpa using hincoming⟩
  obtain ⟨after, hreturns, ⟨hafter, hrest⟩, hcounted, hconfig⟩ := hx [rest] hholds
  have hsplit : source.incoming (below state) =
      pieces.flatten ++ source.incoming (below after) := by
    rw [hincoming, hrest, List.flatten_singleton]
  exact ⟨after, hreturns, hafter, hsplit, hcounted, hconfig⟩

end Channel

end TypedChannel
