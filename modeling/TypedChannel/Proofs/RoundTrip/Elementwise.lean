import TypedChannel.Proofs.Channel.Validation
import TypedChannel.Proofs.RoundTrip.Prefixed
/-!
# TypedChannel.Proofs.RoundTrip.Elementwise

Arrays of primitives against their elements one by one.

1. Sending the elements one by one (`sendEach`) puts the same bytes on the wire
   as sending them as an array, in more transmits.  A transport that fails
   between two of them has got fewer of those bytes (`sendEach_breaks_off`).
2. Accepting an array follows the grammar of so many values one behind the
   other (`acceptArray_follows`), and so do so many accepts of one value.  What
   one of the two takes and answers with, the other does as well (`Repeats`),
   however differently their streams cut the bytes.
3. An accept into slots of the caller either fills all of them or leaves them
   alone: it has all bytes before it decodes the first slot, and from all bytes
   every slot can be decoded (`acceptInto_ensures`).
-/

namespace TypedChannel

open TypedChannel.Action

namespace Channel

variable {ω σ α : Type} {kind : PrimitiveKind}

/-! ## Sends -/

/-- Send primitives one by one. -/
def sendEach [World ω] [Transport ω σ] : List (Primitive kind) → ChannelAction σ ω Unit
  | [] => pure ()
  | value :: values => do
    send value
    sendEach values

/-- On any transport a send gets a front of `bytes` across, and all of them, and counted, if it
succeeds. -/
def Advances (state : Channel (Recorded σ) × Surroundings ω) (bytes : Bytes)
    (x : ChannelAction (Recorded σ) ω Unit) : Prop :=
  x.Ensures state fun result after => ∃ calls left,
    after.1.transport.calls = state.1.transport.calls ++ calls ∧ accepted calls ++ left = bytes ∧
      (result = .ok () → left = [] ∧ after.1.bytesSent = state.1.bytesSent + bytes.length)

section Advances

variable {state : Channel (Recorded σ) × Surroundings ω}

theorem advances_pure : Advances state [] (pure () : ChannelAction (Recorded σ) ω Unit) :=
  ensures_pure ⟨[], [], by simp, rfl, fun _ => ⟨rfl, rfl⟩⟩

theorem Advances.bind {bytes more : Bytes} {x y : ChannelAction (Recorded σ) ω Unit}
    (hx : Advances state bytes x)
    (hy : ∀ between : Channel (Recorded σ) × Surroundings ω, Advances between more y) :
    Advances state (bytes ++ more) (x >>= fun _ => y) := by
  refine Ensures.bind hx ?_ ?_
  · rintro ⟨⟩ between ⟨calls, left, hcalls, haccepted, hdone⟩
    obtain ⟨rfl, hcounted⟩ := hdone rfl
    refine (hy between).mono fun result after hend => ?_
    obtain ⟨calls', rest, hcalls', haccepted', hdone'⟩ := hend
    refine ⟨calls ++ calls', rest, by rw [hcalls', hcalls, List.append_assoc], ?_, fun h => ?_⟩
    · rw [accepted_append, List.append_assoc, haccepted', ← haccepted, List.append_nil]
    · obtain ⟨hrest, hcounted'⟩ := hdone' h
      exact ⟨hrest, by rw [hcounted', hcounted, List.length_append, Nat.add_assoc]⟩
  · rintro e after ⟨calls, left, hcalls, haccepted, -⟩
    refine ⟨calls, left ++ more, hcalls, ?_, nofun⟩
    rw [← List.append_assoc, haccepted]

variable [World ω] [Transport ω σ]

theorem sendBytes_advances (bytes : Bytes) : Advances state bytes (sendBytes bytes) := by
  refine (sendBytes_ensures bytes state).mono fun result after hend => ?_
  obtain ⟨calls, hend⟩ := hend
  cases result with
  | ok _ =>
      obtain ⟨hall, transport, _, _, hafter, hcalls⟩ := hend
      refine ⟨calls, [], ?_, ?_, fun _ => ⟨rfl, ?_⟩⟩
      · rw [hafter]
        exact hcalls
      · rw [List.append_nil, hall.accepted_of_finished]
      · rw [hafter]
  | error e =>
      obtain ⟨cause, left, -, hpart, transport, _, _, hafter, hcalls⟩ := hend
      refine ⟨calls, left, ?_, hpart.accepted_append, nofun⟩
      rw [hafter]
      exact hcalls

theorem send_advances (value : Primitive kind) :
    Advances state (Codec.wire value) (send value) := by
  unfold send
  rw [Codec.encode_eq_wire]
  exact sendBytes_advances _

theorem sendArray_advances (values : List (Primitive kind)) :
    Advances state (values.flatMap Codec.wire) (sendArray values) := by
  unfold sendArray
  rw [Codec.foldlM_append_eq]
  exact sendBytes_advances _

theorem sendEach_advances (values : List (Primitive kind)) :
    Advances state (values.flatMap Codec.wire) (sendEach values) := by
  induction values generalizing state with
  | nil => exact advances_pure
  | cons value values ih => exact (send_advances value).bind fun between => ih

end Advances

section Sink

variable [World ω] [Transport ω σ] {state : Channel σ × Surroundings ω}

/-- One transmit for each value. -/
theorem sendEach_conveys {intake : Intake ω σ} (values : List (Primitive kind)) :
    Conveys intake state (values.map Codec.wire) (sendEach values) := by
  induction values generalizing state with
  | nil => exact conveys_pure state
  | cons value values ih => exact (send_conveys value state).bind fun between _ => ih

theorem sendArray_puts {sink : Sink ω σ} (values : List (Primitive kind))
    (hready : sink.Ready (below state)) :
    Puts sink state (values.flatMap Codec.wire) (sendArray values) := by
  have hputs := (sendArray_conveys values state).puts hready
  rwa [List.flatten_singleton] at hputs

theorem sendEach_puts {sink : Sink ω σ} (values : List (Primitive kind))
    (hready : sink.Ready (below state)) :
    Puts sink state (values.flatMap Codec.wire) (sendEach values) := by
  rw [List.flatMap_def]
  exact (sendEach_conveys values).puts hready

end Sink

/-! ## Accepts -/

section Accept

variable [World ω] [Transport ω σ]

/-- From whatever begins with their wire forms values are accepted as an array. -/
theorem acceptArray_takes {source : Source ω σ} {options : ReceiveOptions}
    (hforever : options.timeout = none) (values : List (Primitive kind))
    (state : Channel σ × Surroundings ω) :
    Takes source state (values.flatMap Codec.wire) values
      (acceptArray kind values.length options) := by
  have htime : InTime source.flow.supply.timed options.timeout := .inl hforever
  have htakes := (acceptSlots_draws values id htime state).takes
  rwa [List.flatten_singleton] at htakes

/-- And one by one. -/
theorem acceptEach_takes {source : Source ω σ} {options : ReceiveOptions}
    (hforever : options.timeout = none) (values : List (Primitive kind))
    (state : Channel σ × Surroundings ω) :
    Takes source state (values.flatMap Codec.wire) values
      (times (accept kind options) values.length) := by
  induction values generalizing state with
  | nil => exact takes_pure state []
  | cons value values ih =>
      have htime : InTime source.flow.supply.timed options.timeout := .inl hforever
      have hone := (accept_draws value htime state).takes
      rw [List.flatten_singleton] at hone
      rw [List.flatMap_cons, List.length_cons, times]
      refine hone.bind fun between _ => ?_
      exact (ih between).map (value :: ·)

/-- An array is so many values one behind the other. -/
theorem acceptArray_follows {stream : FiniteSource ω σ} {options : ReceiveOptions}
    (hforever : options.timeout = none) (kind : PrimitiveKind) (count : Nat)
    (state : Channel σ × Surroundings ω) :
    Follows stream state (Grammar.times (Grammar.primitive kind) count)
      (acceptArray kind count options) := by
  intro hready
  obtain ⟨hshort, hcut⟩ | ⟨values, left, hvalues, hsplit, rfl⟩ :=
    Grammar.times_primitive_cases kind count (stream.source.incoming (below state))
  · rw [hcut]
    have hfollows : Follows stream state (Grammar.bytes (count * kind.width))
        (acceptExactly (count * kind.width) options) :=
      acceptExactly_follows hforever (count * kind.width) state
    have hbytes := hfollows hready
    rw [Grammar.bytes, if_pos hshort] at hbytes
    obtain ⟨e, after, hreturns, hend⟩ := hbytes
    have hinto : (acceptInto options : FillAction σ ω kind Unit).Returns
        (state, List.replicate count (.ofNat kind 0)) (.error e)
        (after, List.replicate count (.ofNat kind 0)) := by
      refine (returns_see _).bind (Returns.bind_error ?_)
      rw [List.length_replicate]
      exact Returns.on hreturns
    obtain ⟨enough, hfails⟩ := hinto
    refine ⟨e, after, ⟨enough, fun patience hle => ?_⟩, hend⟩
    unfold acceptArray Action.on
    rw [run_bind_error (hfails patience hle)]
    rfl
  · rw [hvalues]
    obtain ⟨after, hreturns, hreceived⟩ :=
      acceptArray_takes hforever values state left hready hsplit
    have hleft : stream.source.incoming (below after) = left :=
      List.append_cancel_left (hreceived.incoming.symm.trans hsplit)
    exact ⟨after, hreturns, hleft ▸ hreceived.leaves⟩

omit [Transport ω σ] in
/-- From enough bytes every slot is filled. -/
theorem fillSlots_ensures (index : Nat) {count : Nat} {wire : Bytes}
    (henough : count * kind.width ≤ wire.length)
    (state : (Channel σ × Surroundings ω) × List (Primitive kind)) :
    (fillSlots index count wire : FillAction σ ω kind Unit).Ensures state fun result _ =>
      result = .ok () := by
  induction count generalizing index wire state with
  | zero => exact ensures_pure rfl
  | succ count ih =>
      rw [Nat.succ_mul] at henough
      have hslot : (wire.take kind.width).length = kind.width := by
        rw [List.length_take]
        omega
      have hrest : count * kind.width ≤ (wire.drop kind.width).length := by
        rw [List.length_drop]
        omega
      rw [fillSlots, decodeSlot_eq hslot]
      exact ensures_see_bind (ensures_change_bind (ih (index + 1) hrest _))

/-- An accept that fails has not touched the slots. -/
theorem acceptInto_ensures (options : ReceiveOptions) (state : Channel σ × Surroundings ω)
    (slots : List (Primitive kind)) :
    (acceptInto options : FillAction σ ω kind Unit).Ensures (state, slots) fun result after =>
      ∀ e, result = .error e → after.2 = slots := by
  refine ensures_see_bind ?_
  have hbytes : (besideSlots (acceptExactly (slots.length * kind.width) options) :
      FillAction σ ω kind Bytes).Ensures (state, slots) fun result between =>
        between.2 = slots ∧
          ∀ wire, result = .ok wire → slots.length * kind.width ≤ wire.length := by
    refine Ensures.on ?_
    rw [acceptExactly_eq]
    exact (acceptBytes_complete _ options state).mono fun result _ henough => ⟨rfl, henough⟩
  refine hbytes.bind ?_ fun e after h _ _ => h.1
  intro wire between ⟨_, henough⟩
  refine (fillSlots_ensures 0 (henough wire rfl) between).mono fun result after hfilled e h => ?_
  rw [hfilled] at h
  contradiction

end Accept

/-! ## The same from two streams -/

section Repeats

variable {ω' σ' : Type} [World ω] [Transport ω σ] [World ω'] [Transport ω' σ']
  {stream : FiniteSource ω σ} {stream' : FiniteSource ω' σ'} {state : Channel σ × Surroundings ω}
  {state' : Channel σ' × Surroundings ω'}

/-- Whatever `x` accepts, `y` accepts as well, and both take and count the bytes that it has. -/
def Repeats (form : α → Bytes) (source : Source ω σ) (state : Channel σ × Surroundings ω)
    (x : ChannelAction σ ω α) (source' : Source ω' σ') (state' : Channel σ' × Surroundings ω')
    (y : ChannelAction σ' ω' α) : Prop :=
  ∀ a after, x.Returns state (.ok a) after → ∃ after', y.Returns state' (.ok a) after' ∧
    Received source state after (form a) ∧ Received source' state' after' (form a)

/-- Accepts that follow one grammar repeat each other. -/
theorem Follows.repeats {grammar : Grammar α} {form : α → Bytes} {x : ChannelAction σ ω α}
    {y : ChannelAction σ' ω' α} (hx : Follows stream state grammar x)
    (hy : Follows stream' state' grammar y)
    (hform : ∀ {text a left}, grammar text = .value a left → text = form a ++ left)
    (hready : stream.source.Ready (below state)) (hready' : stream'.source.Ready (below state'))
    (hsame : stream'.source.incoming (below state') = stream.source.incoming (below state)) :
    Repeats form stream.source state x stream'.source state' y := by
  intro a after hreturns
  obtain ⟨left, hread, hleaves⟩ := hx.of_ok hready hreturns
  have hsplit := hform hread
  have hend := hy hready'
  rw [hsame, hread] at hend
  obtain ⟨after', hreturns', hleaves'⟩ := hend
  exact ⟨after', hreturns', hleaves.received hsplit, hleaves'.received (hsame.trans hsplit)⟩

end Repeats

/-! ## Together -/

/-- Primitives sent as an array put the same bytes on the wire and count as many as sent one by one.
Without a timeout both ways to accept take the values from any stream that begins with their wire
forms; from streams that bring the same bytes and then end, an array is accepted exactly if so many
values are accepted one by one, and the same bytes are taken and counted.  An accept into slots that
fails leaves them as they were. -/
theorem elementwise {ω' σ' : Type} [World ω] [Transport ω σ] [World ω'] [Transport ω' σ']
    (kind : PrimitiveKind) (stream : FiniteSource ω σ) (stream' : FiniteSource ω' σ')
    {options : ReceiveOptions} (hforever : options.timeout = none)
    {state : Channel σ × Surroundings ω} {state' : Channel σ' × Surroundings ω'}
    (hready : stream.source.Ready (below state)) (hready' : stream'.source.Ready (below state'))
    (hsame : stream'.source.incoming (below state') = stream.source.incoming (below state))
    (count : Nat) :
    (∀ values : List (Primitive kind),
      (∀ {υ τ : Type} [World υ] [Transport υ τ] (sender : Channel (Recorded τ) × Surroundings υ),
        Advances sender (values.flatMap Codec.wire) (sendArray values) ∧
        Advances sender (values.flatMap Codec.wire) (sendEach values)) ∧
      ∀ {υ τ : Type} [World υ] [Transport υ τ] (sink : Sink υ τ)
        (sender : Channel τ × Surroundings υ), sink.Ready (below sender) →
          Puts sink sender (values.flatMap Codec.wire) (sendArray values) ∧
          Puts sink sender (values.flatMap Codec.wire) (sendEach values)) ∧
    (∀ {υ τ : Type} [World υ] [Transport υ τ] (source : Source υ τ) (values : List (Primitive kind))
      (receiver : Channel τ × Surroundings υ),
      Takes source receiver (values.flatMap Codec.wire) values
        (acceptArray kind values.length options) ∧
      Takes source receiver (values.flatMap Codec.wire) values
        (times (accept kind options) values.length)) ∧
    Repeats (List.flatMap Codec.wire) stream.source state (acceptArray kind count options)
      stream'.source state' (times (accept kind options) count) ∧
    Repeats (List.flatMap Codec.wire) stream'.source state' (times (accept kind options) count)
      stream.source state (acceptArray kind count options) ∧
    ∀ {υ τ : Type} [World υ] [Transport υ τ] (options : ReceiveOptions)
      (caller : Channel τ × Surroundings υ) (slots : List (Primitive kind)),
      (acceptInto options : FillAction τ υ kind Unit).Ensures (caller, slots) fun result after =>
        ∀ e, result = .error e → after.2 = slots := by
  have harray : Follows stream state (Grammar.times (Grammar.primitive kind) count)
      (acceptArray kind count options) := acceptArray_follows hforever kind count state
  have heach : Follows stream' state' (Grammar.times (Grammar.primitive kind) count)
      (times (accept kind options) count) :=
    times_follows count fun between _ => accept_follows hforever kind between
  refine ⟨fun values => ⟨fun sender => ⟨sendArray_advances values, sendEach_advances values⟩,
    fun sink sender hsender => ⟨sendArray_puts values hsender, sendEach_puts values hsender⟩⟩,
    fun source values receiver => ⟨acceptArray_takes hforever values receiver,
      acceptEach_takes hforever values receiver⟩,
    ?_, ?_, fun options caller slots => acceptInto_ensures options caller slots⟩
  · exact harray.repeats heach Grammar.times_primitive_canonical hready hready' hsame
  · exact heach.repeats harray Grammar.times_primitive_canonical hready' hready hsame.symm

/-- Two numbers and half of a third, in pieces of three bytes and byte by byte. -/
theorem elementwise_two : ∃ after after' : Channel Handle × Surroundings Host,
    (acceptArray .int16 2 .blocking).Returns
      (linked { stream := [0, 1, 255, 255, 7], readChunk := some 3 })
      (.ok [.ofInt .int16 1, .ofInt .int16 (-1)]) after ∧
    (times (accept .int16 .blocking) 2).Returns
      (linked { stream := [0, 1, 255, 255, 7], readChunk := some 1 })
      (.ok [.ofInt .int16 1, .ofInt .int16 (-1)]) after' ∧
    (Link.source 0).incoming (below after) = [7] ∧
    (Link.source 0).incoming (below after') = [7] := by
  let state := linked { stream := [0, 1, 255, 255, 7], readChunk := some 3 }
  let state' := linked { stream := [0, 1, 255, 255, 7], readChunk := some 1 }
  have hforever : ReceiveOptions.blocking.timeout = none := rfl
  have hready : (Link.finiteSource 0).source.Ready (below state) :=
    ⟨⟨_, by decide, rfl⟩, _, rfl, rfl⟩
  have hready' : (Link.finiteSource 0).source.Ready (below state') :=
    ⟨⟨_, by decide, rfl⟩, _, rfl, rfl⟩
  have hsame : (Link.finiteSource 0).source.incoming (below state') =
      (Link.finiteSource 0).source.incoming (below state) := rfl
  obtain ⟨-, -, hrepeats, -, -⟩ := elementwise .int16 (Link.finiteSource 0) (Link.finiteSource 0)
    hforever hready hready' hsame 2
  have hread : Grammar.times (Grammar.primitive .int16) 2 [0, 1, 255, 255, 7] =
      .value [.ofInt .int16 1, .ofInt .int16 (-1)] [7] := rfl
  have hend := acceptArray_follows hforever .int16 2 state hready
  have htext : (Link.finiteSource 0).source.incoming (below state) = [0, 1, 255, 255, 7] := rfl
  rw [htext, hread] at hend
  obtain ⟨after, hreturns, hleaves⟩ := hend
  obtain ⟨after', hreturns', -, hreceived'⟩ := hrepeats _ after hreturns
  have hleft : [0, 1, 255, 255] ++ [7] =
      [0, 1, 255, 255] ++ (Link.source 0).incoming (below after') := hreceived'.incoming
  exact ⟨after, after', hreturns, hreturns', hleaves.incoming,
    (List.append_cancel_left hleft).symm⟩

/-- A link that takes all of one write and breaks at the next has taken both numbers of an array,
and of the two one by one it takes the first. -/
theorem sendEach_breaks_off :
    let sender := (overLink 16, Surroundings.withLink
      { writes := [.atMost 100, .failed (.ofErrno .brokenPipe)] })
    let values := [.ofInt .int32 1, .ofInt .int32 2]
    ∃ whole part : Channel (Recorded Handle) × Surroundings Host,
      (sendArray values).Returns sender (.ok ()) whole ∧
      (sendEach values).Returns sender
        (.error (.transport (.io (.ofErrno .brokenPipe)))) part ∧
      accepted whole.1.transport.calls = [0, 0, 0, 1, 0, 0, 0, 2] ∧ whole.1.bytesSent = 8 ∧
      accepted part.1.transport.calls = [0, 0, 0, 1] ∧ part.1.bytesSent = 4 := by
  intro sender values
  have hwhole : (sendArray values).Returns sender (.ok ()) _ := returns_of_run 2 fun _ => rfl
  have hpart : (sendEach values).Returns sender _ _ := returns_of_run 2 fun _ => rfl
  exact ⟨_, _, hwhole, hpart, rfl, rfl, rfl, rfl⟩

end Channel

end TypedChannel
