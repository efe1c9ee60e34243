import TypedChannel.Proofs.Channel.Parts
import TypedChannel.Proofs.Transport.Receive
import TypedChannel.Proofs.Transport.Transmit
import TypedChannel.Proofs.Wire
/-!
# TypedChannel.Proofs.Channel.Through

What the operations of a channel make of its transport, and of nothing else.

1. `Through r` looks at the transports before and after an operation only.  If
   `r` is reflexive and transitive, every part of an operation obeys it that
   does not touch the transport; so a send does if every write does, and an
   accept if every read and every readiness check does.
2. If writes can be told from the transport (`Transport.Account`), a send that
   succeeds has written its message, byte for byte (`sendMessage_writes`).
-/

namespace TypedChannel.Channel

variable {σ ω α : Type}

/-- The transports before and after are related. -/
def Through (r : σ → σ → Prop) (state : Channel σ × Surroundings ω) (_ : Option ChannelError)
    (after : Channel σ × Surroundings ω) : Prop := r state.1.transport after.1.transport

/-- The same for an operation of the transport. -/
def Across {ε : Type} (r : σ → σ → Prop) (state : σ × ω) (_ : Option ε) (after : σ × ω) : Prop :=
  r state.1 after.1

/-- Whether an operation puts bytes in; the others ask for some. -/
def Operation.puts : Operation → Bool
  | send _ | sendTraced _ _ _ | flush => true
  | accept _ _ | acceptTraced _ _ _ _ | ready _ => false

variable {r : σ → σ → Prop} (hrefl : ∀ t, r t t) (htrans : ∀ {t u v}, r t u → r u v → r t v)

include hrefl htrans

theorem across_composes {ε : Type} : Action.Composes (Across (ω := ω) (ε := ε) r) where
  refl state := hrefl state.1
  trans h h' := htrans h h'

variable [World ω]

theorem parts_through : Parts (Through (ω := ω) r) where
  composes := ⟨fun state => hrefl state.1.transport, fun h h' => htrans h h'⟩
  fail _ _ _ _ := fail_ensures fun _ _ _ ⟨_, _, hsame⟩ => by
    rw [Through, hsame]
    exact hrefl _
  inWorld _ _ state := Action.ensures_step (hrefl state.1.transport)
  record _ _ _ _ state := by
    refine Action.ensures_change ?_
    dsimp only
    split
    · exact hrefl state.1.transport
    · exact hrefl state.1.transport

/-- A call of the transport whose failure becomes one of the channel. -/
theorem call_through {x : Action (σ × ω) TransportError α} (hx : x.Obeys (Across r)) :
    (onTransport x >>= orFail : ChannelAction σ ω α).Obeys (Through r) :=
  (parts_through hrefl htrans).call fun _ => (hx _).mono fun _ _ h => h

variable [Transport ω σ]

/-- What every write and every flush makes of the transport, every send makes of it. -/
theorem Operation.perform_puts
    (hwrite : ∀ bytes, (Transport.writeRaw bytes : Action (σ × ω) TransportError Nat).Obeys
      (Across r))
    (hflush : (Transport.flushRaw : Action (σ × ω) TransportError Unit).Obeys (Across r))
    {operation : Operation} (hputs : operation.puts = true) :
    (operation.perform : ChannelAction σ ω Unit).Obeys (Through r) := by
  have hparts := parts_through (ω := ω) hrefl htrans
  have hsend : ∀ bytes, (sendBytes bytes : ChannelAction σ ω Unit).Obeys (Through r) := by
    refine hparts.ofTransmit (fun bytes => ?_) fun n state => ?_
    · exact call_through hrefl htrans
        (Transport.transmit_obeys (across_composes hrefl htrans) id hwrite bytes)
    · exact Action.ensures_change (hrefl state.1.transport)
  cases operation with
  | send message => exact hparts.sendMessage hsend message
  | sendTraced depth description message =>
      exact hparts.sendMessageTraced hsend depth description message
  | flush => exact call_through hrefl htrans hflush
  | accept _ _ | acceptTraced _ _ _ _ | ready _ => contradiction

/-- And what every read and every readiness check makes of it, the other operations do. -/
theorem Operation.perform_asks
    (hread : ∀ room, (Transport.readRaw room : Action (σ × ω) TransportError Bytes).Obeys
      (Across r))
    (hpoll : ∀ timeout, (Transport.pollReadable timeout : Action (σ × ω) TransportError Bool).Obeys
      (Across r))
    {operation : Operation} (hasks : operation.puts = false) :
    (operation.perform : ChannelAction σ ω Unit).Obeys (Through r) := by
  have hparts := parts_through (ω := ω) hrefl htrans
  have haccept : ∀ wanted options,
      (acceptBytes wanted options : ChannelAction σ ω Bytes).Obeys (Through r) := by
    refine hparts.ofReceive (fun wanted timeout everything => ?_) fun n state => ?_
    · exact call_through hrefl htrans (Transport.receive_obeys (across_composes hrefl htrans) id
        (fun f state => Action.ensures_step (hrefl state.1)) hpoll hread)
    · exact Action.ensures_change (hrefl state.1.transport)
  cases operation with
  | accept options request =>
      exact hparts.bind (hparts.acceptMessage haccept options request) fun _ => hparts.pure ()
  | acceptTraced depth description options request =>
      exact hparts.bind (hparts.acceptMessageTraced haccept depth description options request)
        fun _ => hparts.pure ()
  | ready timeout =>
      exact hparts.bind (call_through hrefl htrans (hpoll timeout)) fun _ => hparts.pure ()
  | send _ | sendTraced _ _ _ | flush => contradiction

/-! ## What a send has written -/

section Writes

/-- If it succeeds, `bytes` were written. -/
def Writes (w : Bytes → σ → σ → Prop) (bytes : Bytes) (x : ChannelAction σ ω Unit) : Prop :=
  ∀ state, x.Ensures state fun result after =>
    result = .ok () → w bytes state.1.transport after.1.transport

variable {w : Bytes → σ → σ → Prop} {bytes more : Bytes}

omit hrefl htrans [Transport ω σ] in
theorem fail_writes (e : ChannelError) : Writes w bytes (fail e : ChannelAction σ ω Unit) :=
  fun _ => fail_ensures fun _ _ _ _ => nofun

omit hrefl htrans [Transport ω σ] in
/-- A trace is written after a success and writes no bytes. -/
theorem Writes.traced {x : ChannelAction σ ω Unit} (hx : Writes w bytes x) {depth : Nat}
    {description : String} {shown : Unit → String} :
    Writes w bytes (traced .sent depth description shown x) := by
  intro state
  refine (hx state).bind ?_ fun _ _ _ => nofun
  intro _ between hwritten
  refine Action.ensures_change_bind (Action.ensures_pure fun _ => ?_)
  dsimp only
  split <;> exact hwritten rfl

variable (hw : Transport.Account ω w)

omit hrefl htrans
include hw

omit [World ω] in
theorem Writes.bind {x y : ChannelAction σ ω Unit} (hx : Writes w bytes x)
    (hy : Writes w more y) : Writes w (bytes ++ more) (x >>= fun _ => y) := by
  intro state
  refine (hx state).bind ?_ fun _ _ _ => nofun
  intro _ between hfirst
  exact (hy between).mono fun _ _ hsecond hok => hw.append (hfirst rfl) (hsecond hok)

theorem sendBytes_writes (bytes : Bytes) :
    Writes w bytes (sendBytes bytes : ChannelAction σ ω Unit) := by
  intro state
  have hcall : (onTransport (Transport.transmit bytes) >>= orFail :
      ChannelAction σ ω Unit).Ensures state fun result after =>
        result = .ok () → w bytes state.1.transport after.1.transport := by
    refine onTransport_orFail_ensures ((hw.transmit bytes _).mono fun result after hwritten => ?_)
    cases result with
    | ok _ => exact fun _ => hwritten rfl
    | error e => exact fun _ _ _ _ => nofun
  unfold sendBytes
  rw [← Action.bind_bind]
  refine hcall.bind ?_ fun _ _ _ => nofun
  exact fun _ between hwritten =>
    Action.ensures_change_bind (Action.ensures_change fun _ => hwritten rfl)

theorem send_writes {kind : PrimitiveKind} (value : Primitive kind) :
    Writes w (Codec.wire value) (send value : ChannelAction σ ω Unit) := by
  unfold send
  rw [Codec.encode_eq_wire]
  exact sendBytes_writes hw _

theorem sendArray_writes {kind : PrimitiveKind} (values : List (Primitive kind)) :
    Writes w (values.flatMap Codec.wire) (sendArray values : ChannelAction σ ω Unit) := by
  unfold sendArray
  rw [Codec.foldlM_append_eq]
  exact sendBytes_writes hw _

theorem sendStringBytes_writes (value : Option Bytes) :
    Writes w (stringWire value) (sendStringBytes value : ChannelAction σ ω Unit) := by
  cases value with
  | none => exact send_writes hw _
  | some bytes =>
      refine fun state => Action.ensures_see_bind ?_
      dsimp only
      split
      · exact fail_writes _ state
      · exact (send_writes hw _).bind hw (sendBytes_writes hw bytes) state

theorem sendStrings_writes (values : List (Option String)) :
    Writes w (stringsWire values) (sendStrings values : ChannelAction σ ω Unit) := by
  induction values with
  | nil => exact fun _ => Action.ensures_pure fun _ => hw.nothing _
  | cons value values ih =>
      rw [stringsWire_cons]
      exact (sendStringBytes_writes hw _).bind hw ih

theorem sendStringArray_writes (values : List (Option String)) :
    Writes w (int32Wire values.length ++ stringsWire values)
      (sendStringArray values : ChannelAction σ ω Unit) := by
  unfold sendStringArray
  split
  · exact fail_writes _
  · exact (send_writes hw _).bind hw (sendStrings_writes hw values)

theorem sendTerminatedBytes_writes (payload terminator : Bytes) :
    Writes w (payload ++ terminator)
      (sendTerminatedBytes payload terminator : ChannelAction σ ω Unit) := by
  unfold sendTerminatedBytes
  split
  · exact fail_writes _
  · exact sendBytes_writes hw _

theorem sendMessage_writes (message : Message) :
    Writes w message.wire (sendMessage message : ChannelAction σ ω Unit) := by
  cases message with
  | primitive kind value => exact send_writes hw value
  | array kind values => exact sendArray_writes hw values
  | bytes content => exact sendBytes_writes hw content
  | string value => exact sendStringBytes_writes hw _
  | stringBytes value => exact sendStringBytes_writes hw value
  | strings values => exact sendStringArray_writes hw values
  | terminated payload terminator => exact sendTerminatedBytes_writes hw _ _
  | terminatedBytes payload terminator => exact sendTerminatedBytes_writes hw payload terminator

theorem sendMessageTraced_writes (depth : Nat) (description : String) (message : Message) :
    Writes w message.wire
      (sendMessageTraced depth description message : ChannelAction σ ω Unit) := by
  have hplain := sendMessage_writes hw message
  cases message with
  | primitive | array | bytes | string | strings | terminated => exact hplain.traced
  | stringBytes | terminatedBytes => exact hplain

end Writes

end TypedChannel.Channel
