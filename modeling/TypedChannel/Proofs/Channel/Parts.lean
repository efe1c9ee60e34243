import TypedChannel.Channel.Message
import TypedChannel.Proofs.Transport.Receive
import TypedChannel.Proofs.Transport.Transmit
/-!
# TypedChannel.Proofs.Channel.Parts

The parts that the operations of a channel are made of.

1. `fail_ensures` and `call_ensures` say what a failure does, and what a call
   of the transport does whose failure becomes one of the channel.
2. `PlainParts R`: a relation between the states before and after an operation
   that the small parts obey, those that move no bytes.  If a transmit with its
   count obeys it too, every send does (`PlainParts.sendMessage`); if a receive
   does, so does every accept (`PlainParts.acceptMessage`).
3. `Parts R`: a trace record obeys it as well, and so do the traced forms.
4. A receive of everything has all it was to receive, so that a receive of a
   fixed size is no more than that (`acceptExactly_eq`): it never falls short.
-/

namespace TypedChannel

namespace ChannelError

/-- Whether an error, or the one that it wraps, is a failure of the transport. -/
def isTransport (e : ChannelError) : Bool :=
  match e.root with
  | transport _ => true
  | _ => false

theorem isTransport_eq_of_root {e e' : ChannelError} (h : e.root = e'.root) :
    e.isTransport = e'.isTransport := by
  unfold isTransport
  rw [h]

/-- Whether an operation can come upon this error at first hand: it is no wrapper yet, and no
receive falls short. -/
def arises : ChannelError → Bool
  | shortRead _ _ | fatal _ => false
  | _ => true

theorem isFatal_of_arises {e : ChannelError} (h : e.arises = true) : e.isFatal = false := by
  cases e with
  | fatal _ => contradiction
  | _ => rfl

end ChannelError

/-- Wrapping an error keeps its root. -/
theorem ChannelConfig.root_escalate (config : ChannelConfig) (e : ChannelError)
    (store : Diagnostics.Store) : (config.escalate e store).1.root = e.root := by
  unfold escalate
  by_cases h : (config.errorsFatal && !e.isFatal) = true
  · rw [if_pos h]
    rfl
  · rw [if_neg h]

namespace Channel

variable {σ ω α β : Type} {state : Channel σ × Surroundings ω}

/-! ## Failures and calls -/

/-- Two channels that agree in all but what they remember of failures. -/
def SameButErrors (before after : Channel σ) : Prop :=
  ∃ lastError peerGoneReported, after = { before with lastError, peerGoneReported }

/-- A failure is told, and changes nothing that moves bytes. -/
theorem fail_ensures [World ω] {e : ChannelError}
    {post : Except ChannelError α → Channel σ × Surroundings ω → Prop}
    (h : ∀ e' after, e'.root = e.root → SameButErrors state.1 after.1 → post (.error e') after) :
    (fail e : ChannelAction σ ω α).Ensures state post := by
  intro patience result after hrun
  cases hrun
  exact h _ _ (state.1.config.root_escalate e state.2.diagnostics) ⟨_, _, rfl⟩

/-- A call of the transport changes the transport and the world. -/
theorem onTransport_ensures {ε : Type} {x : Action (σ × ω) TransportError α}
    {post : Except ε (Except TransportError α) → Channel σ × Surroundings ω → Prop}
    (hx : x.Ensures (state.1.transport, state.2.world) fun result after => post (.ok result)
      ({ state.1 with transport := after.1 }, { state.2 with world := after.2 })) :
    (onTransport x : Action (Channel σ × Surroundings ω) ε _).Ensures state post :=
  Action.Ensures.on (Action.Ensures.attempt hx)

/-- A call whose failure becomes one of the channel. -/
theorem onTransport_orFail_ensures [World ω] {x : Action (σ × ω) TransportError α}
    {post : Except ChannelError α → Channel σ × Surroundings ω → Prop}
    (hx : x.Ensures (state.1.transport, state.2.world) fun result after => match result with
      | .ok a => post (.ok a)
          ({ state.1 with transport := after.1 }, { state.2 with world := after.2 })
      | .error cause => ∀ e after', e.root = .transport cause →
          SameButErrors { state.1 with transport := after.1 } after'.1 → post (.error e) after') :
    (onTransport x >>= orFail : ChannelAction σ ω α).Ensures state post := by
  have hcall : (onTransport x : Action _ ChannelError _).Ensures state fun result between =>
      match result with
      | .ok (.ok a) => post (.ok a) between
      | .ok (.error cause) => ∀ e after, e.root = .transport cause →
          SameButErrors between.1 after.1 → post (.error e) after
      | .error _ => False := by
    refine onTransport_ensures (hx.mono fun result after h => ?_)
    cases result with
    | ok a => exact h
    | error cause => exact h
  refine hcall.bind ?_ fun _ _ h => h.elim
  intro result between h
  cases result with
  | ok a => exact Action.ensures_pure h
  | error cause => exact fail_ensures h

/-- Between the two states the transport has answered `calls`, and nothing has been counted. -/
def Called (before : Channel (Recorded σ)) (calls : List TransportCall)
    (after : Channel (Recorded σ)) : Prop :=
  ∃ transport lastError peerGoneReported,
    after = { before with transport, lastError, peerGoneReported } ∧
      transport.calls = before.transport.calls ++ calls

theorem Called.failed {before between after : Channel (Recorded σ)} {calls : List TransportCall}
    (h : Called before calls between) (hfail : SameButErrors between after) :
    Called before calls after := by
  obtain ⟨transport, _, _, rfl, hcalls⟩ := h
  obtain ⟨lastError, peerGoneReported, rfl⟩ := hfail
  exact ⟨transport, lastError, peerGoneReported, rfl, hcalls⟩

/-- The same over a recorded transport. -/
theorem call_ensures [World ω] {state : Channel (Recorded σ) × Surroundings ω}
    {x : Action (Recorded σ × ω) TransportError α}
    {history : Except TransportError α → List TransportCall → Prop}
    {post : Except ChannelError α → Channel (Recorded σ) × Surroundings ω → Prop}
    (hx : x.Ensures (state.1.transport, state.2.world) fun result after =>
      ∃ calls, after.1.calls = state.1.transport.calls ++ calls ∧ history result calls)
    (hok : ∀ a calls after, Called state.1 calls after.1 → history (.ok a) calls →
      post (.ok a) after)
    (herr : ∀ e cause calls after, Called state.1 calls after.1 → e.root = .transport cause →
      history (.error cause) calls → post (.error e) after) :
    (onTransport x >>= orFail : ChannelAction (Recorded σ) ω α).Ensures state post := by
  refine onTransport_orFail_ensures (hx.mono ?_)
  rintro result after ⟨calls, hcalls, hhistory⟩
  have hcalled : Called state.1 calls { state.1 with transport := after.1 } :=
    ⟨after.1, _, _, rfl, hcalls⟩
  cases result with
  | ok a => exact hok a calls _ hcalled hhistory
  | error cause =>
      exact fun e after' hroot hsame => herr e cause calls after' (hcalled.failed hsame) hroot
        hhistory

/-- The same with something behind it. -/
theorem call_bind_ensures [World ω] {state : Channel (Recorded σ) × Surroundings ω}
    {x : Action (Recorded σ × ω) TransportError α} {f : α → ChannelAction (Recorded σ) ω β}
    {history : Except TransportError α → List TransportCall → Prop}
    {post : Except ChannelError β → Channel (Recorded σ) × Surroundings ω → Prop}
    (hx : x.Ensures (state.1.transport, state.2.world) fun result after =>
      ∃ calls, after.1.calls = state.1.transport.calls ++ calls ∧ history result calls)
    (hok : ∀ a calls after, Called state.1 calls after.1 → history (.ok a) calls →
      (f a).Ensures after post)
    (herr : ∀ e cause calls after, Called state.1 calls after.1 → e.root = .transport cause →
      history (.error cause) calls → post (.error e) after) :
    (onTransport x >>= fun result => orFail result >>= f :
      ChannelAction (Recorded σ) ω β).Ensures state post := by
  have hcall : (onTransport x >>= orFail : ChannelAction (Recorded σ) ω α).Ensures state
      fun result after => match result with
        | .ok a => (f a).Ensures after post
        | .error e => post (.error e) after :=
    call_ensures hx hok herr
  rw [← Action.bind_bind]
  exact hcall.bind (fun _ _ h => h) fun _ _ h => h

/-- A transmit is counted once all of it was accepted. -/
theorem sendBytes_ensures [World ω] [Transport ω σ] (bytes : Bytes)
    (state : Channel (Recorded σ) × Surroundings ω) :
    (sendBytes bytes : ChannelAction (Recorded σ) ω Unit).Ensures state fun result after =>
      ∃ calls, match result with
        | .ok () => Transmission bytes calls [] none ∧
            Called { state.1 with bytesSent := state.1.bytesSent + bytes.length } calls after.1
        | .error e => ∃ cause left, e.root = .transport cause ∧
            Transmission bytes calls left (some cause) ∧ Called state.1 calls after.1 := by
  refine call_bind_ensures (Transport.transmit_ensures bytes _) ?_ ?_
  · intro _ calls between hcalled hdone
    obtain ⟨transport, lastError, peerGoneReported, hbetween, hcalls⟩ := hcalled
    obtain ⟨left, hall⟩ := hdone
    refine Action.ensures_change_bind (Action.ensures_change ⟨calls, ?_, ?_⟩)
    · have hleft : left = [] := hall.failure_eq_none_iff.mp rfl
      exact hleft ▸ hall
    · exact ⟨transport, lastError, peerGoneReported, by simp [hbetween], hcalls⟩
  · intro e cause calls after hcalled hroot hend
    obtain ⟨left, hpart⟩ := hend
    exact ⟨calls, cause, left, hroot, hpart, hcalled⟩

/-- A receive of everything that ends well has all of it. -/
theorem acceptBytes_complete [World ω] [Transport ω σ] (wanted : Nat) (options : ReceiveOptions)
    (state : Channel σ × Surroundings ω) :
    (acceptBytes wanted options.complete : ChannelAction σ ω Bytes).Ensures state fun result _ =>
      ∀ bytes, result = .ok bytes → wanted ≤ bytes.length := by
  have hreceived : (onTransport (Transport.receive wanted options.timeout true) >>= orFail :
      ChannelAction σ ω Bytes).Ensures state fun result _ =>
        ∀ bytes, result = .ok bytes → wanted ≤ bytes.length := by
    refine onTransport_orFail_ensures ((Transport.receive_complete _ _ _).mono ?_)
    rintro (cause | chunk) after hcomplete
    · exact fun _ _ _ _ _ h => nomatch h
    · exact fun bytes h => hcomplete bytes (by cases h; rfl)
  unfold acceptBytes
  rw [← Action.bind_bind]
  refine hreceived.bind (fun bytes between henough => ?_) fun _ _ _ _ h => nomatch h
  exact Action.ensures_change_bind (Action.ensures_change_bind (Action.ensures_pure henough))

/-- A receive of a fixed size never falls short: it is a receive of everything. -/
theorem acceptExactly_eq [World ω] [Transport ω σ] (wanted : Nat) (options : ReceiveOptions) :
    (acceptExactly wanted options : ChannelAction σ ω Bytes) =
      acceptBytes wanted options.complete := by
  funext patience state
  have hcall := acceptBytes_complete wanted options state
  show Action.andThen _ _ patience state = _
  unfold Action.andThen
  cases hrun : (acceptBytes wanted options.complete : ChannelAction σ ω Bytes) patience state with
  | none => rfl
  | some p =>
      obtain ⟨result, after⟩ := p
      cases result with
      | error e => rfl
      | ok bytes =>
          have henough := hcall patience _ _ hrun bytes rfl
          show (if bytes.length < wanted then _ else _ : ChannelAction σ ω Bytes) patience after = _
          rw [if_neg (by omega)]
          rfl

/-! ## Relations -/

theorem acceptExactly_obeys [World ω] [Transport ω σ]
    {R : Channel σ × Surroundings ω → Option ChannelError → Channel σ × Surroundings ω → Prop}
    (hbytes : ∀ wanted options, (acceptBytes wanted options : ChannelAction σ ω Bytes).Obeys R)
    (wanted : Nat) (options : ReceiveOptions) :
    (acceptExactly wanted options : ChannelAction σ ω Bytes).Obeys R := by
  rw [acceptExactly_eq]
  exact hbytes wanted options.complete

/-- A relation that sequencing preserves and that the parts of an untraced operation obey which move
no bytes. -/
structure PlainParts [World ω]
    (R : Channel σ × Surroundings ω → Option ChannelError → Channel σ × Surroundings ω → Prop) :
    Prop where
  composes : Action.Composes R
  fail : ∀ (α : Type) {e : ChannelError}, e.arises = true →
    (fail e : ChannelAction σ ω α).Obeys R
  inWorld : ∀ (α : Type) (f : ω → α × ω), (inWorld f : ChannelAction σ ω α).Obeys R

/-- A relation that trace records obey as well. -/
structure Parts [World ω]
    (R : Channel σ × Surroundings ω → Option ChannelError → Channel σ × Surroundings ω → Prop) :
    Prop extends PlainParts R where
  record : ∀ direction depth description value,
    (record direction depth description value : ChannelAction σ ω Unit).Obeys R

namespace PlainParts

variable [World ω]
  {R : Channel σ × Surroundings ω → Option ChannelError → Channel σ × Surroundings ω → Prop}

theorem pure (hR : PlainParts R) (a : α) : (Pure.pure a : ChannelAction σ ω α).Obeys R :=
  Action.obeys_pure hR.composes a

theorem bind (hR : PlainParts R) {x : ChannelAction σ ω α} {f : α → ChannelAction σ ω β}
    (hx : x.Obeys R) (hf : ∀ a, (f a).Obeys R) : (x >>= f).Obeys R :=
  Action.Obeys.bind hR.composes hx hf

theorem settings (hR : PlainParts R) : (settings : ChannelAction σ ω ChannelConfig).Obeys R :=
  Action.obeys_see hR.composes _

theorem note (hR : PlainParts R) (event : Log.Event) :
    (Channel.note event : ChannelAction σ ω Unit).Obeys R :=
  hR.inWorld Unit fun world => ((), World.note event world)

/-- A call of the transport whose failure becomes one of the channel. -/
theorem call (hR : PlainParts R) {x : Action (σ × ω) TransportError α}
    (hx : ∀ state : Channel σ × Surroundings ω,
      x.Ensures (state.1.transport, state.2.world) fun _ after =>
        R state none ({ state.1 with transport := after.1 }, { state.2 with world := after.2 })) :
    (onTransport x >>= orFail : ChannelAction σ ω α).Obeys R := by
  have hcall : (onTransport x : ChannelAction σ ω _).Obeys R :=
    fun state => onTransport_ensures (hx state)
  refine hR.bind hcall fun result => ?_
  cases result with
  | ok a => exact hR.pure a
  | error e => exact hR.fail α rfl

/-! ### Bytes -/

section Bytes

variable [Transport ω σ] (hR : PlainParts R)

include hR

theorem ofTransmit
    (hcall : ∀ bytes, (onTransport (Transport.transmit bytes) >>= orFail :
      ChannelAction σ ω Unit).Obeys R)
    (hcount : ∀ n, (countSent n : ChannelAction σ ω Unit).Obeys R) (bytes : Bytes) :
    (Channel.sendBytes bytes : ChannelAction σ ω Unit).Obeys R := by
  have hall := hR.bind (hcall bytes) fun _ => hR.bind (hcount bytes.length) fun _ =>
    hR.note { level := .trace, origin := .sending, message := "sent",
              fields := [("bytes", .number bytes.length)] }
  rwa [Action.bind_bind] at hall

theorem ofReceive
    (hcall : ∀ wanted timeout everything,
      (onTransport (Transport.receive wanted timeout everything) >>= orFail :
        ChannelAction σ ω Bytes).Obeys R)
    (hcount : ∀ n, (countReceived n : ChannelAction σ ω Unit).Obeys R) (wanted : Nat)
    (options : ReceiveOptions) :
    (Channel.acceptBytes wanted options : ChannelAction σ ω Bytes).Obeys R := by
  have hall := hR.bind (hcall wanted options.timeout options.everything) fun bytes =>
    hR.bind (hcount bytes.length) fun _ =>
      hR.bind (hR.note { level := .trace, origin := .receiving, message := "received",
                         fields := [("bytes", .number bytes.length)] }) fun _ => hR.pure bytes
  rwa [Action.bind_bind] at hall

end Bytes

/-! ### Sends -/

section Send

variable [Transport ω σ] (hR : PlainParts R)
  (hbytes : ∀ bytes, (sendBytes bytes : ChannelAction σ ω Unit).Obeys R)

include hR hbytes

theorem send {kind : PrimitiveKind} (value : Primitive kind) :
    (Channel.send value : ChannelAction σ ω Unit).Obeys R := by
  unfold Channel.send
  cases Codec.encode value with
  | ok wire => exact hbytes wire
  | error e => exact hR.fail Unit rfl

theorem sendArray {kind : PrimitiveKind} (values : List (Primitive kind)) :
    (Channel.sendArray values : ChannelAction σ ω Unit).Obeys R := by
  unfold Channel.sendArray
  cases values.foldlM Codec.append [] with
  | ok wire => exact hbytes wire
  | error e => exact hR.fail Unit rfl

theorem sendStringBytes (value : Option Bytes) :
    (Channel.sendStringBytes value : ChannelAction σ ω Unit).Obeys R := by
  unfold Channel.sendStringBytes
  cases value with
  | none => exact hR.send hbytes _
  | some bytes =>
      refine hR.bind hR.settings fun config => ?_
      dsimp only
      split
      · exact hR.fail Unit rfl
      · exact hR.bind (hR.send hbytes _) fun _ => hbytes bytes

theorem sendStrings (values : List (Option String)) :
    (Channel.sendStrings values : ChannelAction σ ω Unit).Obeys R := by
  induction values with
  | nil => exact hR.pure ()
  | cons value values ih => exact hR.bind (hR.sendStringBytes hbytes _) fun _ => ih

theorem sendStringArray (values : List (Option String)) :
    (Channel.sendStringArray values : ChannelAction σ ω Unit).Obeys R := by
  unfold Channel.sendStringArray
  by_cases hmany : maxAnnounced < values.length
  · rw [if_pos hmany]
    exact hR.fail Unit rfl
  · rw [if_neg hmany]
    exact hR.bind (hR.send hbytes _) fun _ => hR.sendStrings hbytes values

theorem sendTerminatedBytes (payload terminator : Bytes) :
    (Channel.sendTerminatedBytes payload terminator : ChannelAction σ ω Unit).Obeys R := by
  unfold Channel.sendTerminatedBytes
  by_cases hempty : terminator.isEmpty = true
  · rw [if_pos hempty]
    exact hR.fail Unit rfl
  · rw [if_neg hempty]
    exact hbytes _

theorem sendMessage (message : Message) :
    (Channel.sendMessage message : ChannelAction σ ω Unit).Obeys R := by
  cases message with
  | primitive kind value => exact hR.send hbytes value
  | array kind values => exact hR.sendArray hbytes values
  | bytes content => exact hbytes content
  | string value => exact hR.sendStringBytes hbytes _
  | stringBytes value => exact hR.sendStringBytes hbytes value
  | strings values => exact hR.sendStringArray hbytes values
  | terminated payload terminator => exact hR.sendTerminatedBytes hbytes _ _
  | terminatedBytes payload terminator => exact hR.sendTerminatedBytes hbytes payload terminator

end Send

/-! ### Accepts -/

theorem optionsWithin (hR : PlainParts R) (options : ReceiveOptions) (deadline : Deadline) :
    (Channel.optionsWithin options deadline : ChannelAction σ ω ReceiveOptions).Obeys R :=
  hR.bind (hR.inWorld _ _) fun _ => hR.pure _

theorem decodeSlot (hR : PlainParts R) (kind : PrimitiveKind) (wire : Bytes) :
    (Channel.decodeSlot kind wire : ChannelAction σ ω (Primitive kind)).Obeys R := by
  unfold Channel.decodeSlot
  cases Codec.decode kind wire with
  | ok value => exact hR.pure value
  | error e => exact hR.fail _ rfl

theorem decodeText (hR : PlainParts R) (bytes : Bytes) :
    (Channel.decodeText bytes : ChannelAction σ ω String).Obeys R := by
  unfold Channel.decodeText
  cases Text.Utf8.decode bytes with
  | ok text => exact hR.pure text
  | error fault => exact hR.fail _ rfl

/-- The same relation for an operation that has slots to fill besides. -/
def Beside (kind : PrimitiveKind)
    (R : Channel σ × Surroundings ω → Option ChannelError → Channel σ × Surroundings ω → Prop)
    (state : (Channel σ × Surroundings ω) × List (Primitive kind)) (failure : Option ChannelError)
    (after : (Channel σ × Surroundings ω) × List (Primitive kind)) : Prop :=
  R state.1 failure after.1

theorem composes_beside (hR : PlainParts R) (kind : PrimitiveKind) :
    Action.Composes (Beside kind R) where
  refl state := hR.composes.refl state.1
  trans h h' := hR.composes.trans h h'

omit [World ω] in
theorem besideSlots {kind : PrimitiveKind} {x : ChannelAction σ ω α} (hx : x.Obeys R) :
    (Channel.besideSlots x : FillAction σ ω kind α).Obeys (Beside kind R) :=
  fun state => Action.Ensures.on (hx state.1)

theorem fillSlots (hR : PlainParts R) {kind : PrimitiveKind} (index count : Nat) (wire : Bytes) :
    (Channel.fillSlots index count wire : FillAction σ ω kind Unit).Obeys (Beside kind R) := by
  have hcomposes := hR.composes_beside kind
  induction count generalizing index wire with
  | zero => exact Action.obeys_pure hcomposes ()
  | succ count ih =>
      refine Action.Obeys.bind hcomposes (besideSlots (hR.decodeSlot kind _)) fun value => ?_
      refine Action.Obeys.bind hcomposes ?_ fun _ => ih _ _
      exact fun state => Action.ensures_change (hR.composes.refl state.1)

section Accept

variable [Transport ω σ] (hR : PlainParts R)
  (hexactly : ∀ wanted options,
    (Channel.acceptExactly wanted options : ChannelAction σ ω Bytes).Obeys R)

include hR hexactly

theorem accept (kind : PrimitiveKind) (options : ReceiveOptions) :
    (Channel.accept kind options : ChannelAction σ ω (Primitive kind)).Obeys R :=
  hR.bind (hexactly _ _) fun wire => hR.decodeSlot kind wire

theorem acceptInto (kind : PrimitiveKind) (options : ReceiveOptions) :
    (Channel.acceptInto options : FillAction σ ω kind Unit).Obeys (Beside kind R) := by
  have hcomposes := hR.composes_beside kind
  refine Action.Obeys.bind hcomposes (Action.obeys_see hcomposes _) fun slots => ?_
  exact Action.Obeys.bind hcomposes (besideSlots (hexactly _ _)) fun wire => hR.fillSlots _ _ wire

theorem acceptSlots {kind : PrimitiveKind} (count : Nat) (options : ReceiveOptions)
    (answer : (Channel σ × Surroundings ω) × List (Primitive kind) → α) :
    ((do Channel.acceptInto options; Action.see answer : FillAction σ ω kind α).on
      (fun state => (state, List.replicate count (.ofNat kind 0)))
      (fun (state, _) _ => state)).Obeys R := by
  have hcomposes := hR.composes_beside kind
  intro state
  refine Action.Ensures.on ?_
  exact Action.Obeys.bind hcomposes (hR.acceptInto hexactly kind options)
    (fun _ => Action.obeys_see hcomposes answer) _

theorem acceptStringBytes (options : ReceiveOptions) :
    (Channel.acceptStringBytes options : ChannelAction σ ω (Option Bytes)).Obeys R := by
  unfold Channel.acceptStringBytes
  refine hR.bind (hR.inWorld _ _) fun deadline => ?_
  refine hR.bind (hR.accept hexactly _ _) fun value => ?_
  by_cases hnull : value.toInt = nullLength
  · rw [if_pos hnull]
    exact hR.pure none
  · rw [if_neg hnull]
    by_cases hnegative : value.toInt < nullLength
    · rw [if_pos hnegative]
      exact hR.fail _ rfl
    · rw [if_neg hnegative]
      refine hR.bind hR.settings fun config => ?_
      by_cases hlong : config.maxStringLength < value.toInt.toNat
      · rw [if_pos hlong]
        exact hR.fail _ rfl
      · rw [if_neg hlong]
        exact hR.bind (hR.optionsWithin _ _) fun _ => hR.bind (hexactly _ _) fun _ => hR.pure _

theorem acceptString (options : ReceiveOptions) :
    (Channel.acceptString options : ChannelAction σ ω (Option String)).Obeys R := by
  refine hR.bind (hR.acceptStringBytes hexactly options) fun value => ?_
  cases value with
  | none => exact hR.pure none
  | some bytes => exact hR.bind (hR.decodeText bytes) fun _ => hR.pure _

theorem acceptStrings (options : ReceiveOptions) (deadline : Deadline) (count : Nat)
    (received : List (Option String)) :
    (Channel.acceptStrings options deadline count received :
      ChannelAction σ ω (List (Option String))).Obeys R := by
  induction count generalizing received with
  | zero => exact hR.pure _
  | succ count ih =>
      refine hR.bind (hR.optionsWithin _ _) fun _ => ?_
      exact hR.bind (hR.acceptString hexactly _) fun value => ih _

theorem acceptStringArray (options : ReceiveOptions) :
    (Channel.acceptStringArray options : ChannelAction σ ω (List (Option String))).Obeys R := by
  unfold Channel.acceptStringArray
  refine hR.bind (hR.inWorld _ _) fun deadline => ?_
  refine hR.bind (hR.accept hexactly _ _) fun count => ?_
  by_cases hnegative : count.toInt < 0
  · rw [if_pos hnegative]
    exact hR.fail _ rfl
  · rw [if_neg hnegative]
    exact hR.acceptStrings hexactly _ _ _ _

theorem acceptByte (options : ReceiveOptions) (deadline : Deadline) :
    (Channel.acceptByte options deadline : ChannelAction σ ω UInt8).Obeys R :=
  hR.bind (hR.optionsWithin _ _) fun _ => hR.bind (hexactly _ _) fun _ => hR.pure _

theorem acceptTerminatedStream (terminator : Bytes) (options : ReceiveOptions) :
    (Channel.acceptTerminatedStream terminator options : ChannelAction σ ω Bytes).Obeys R := by
  unfold Channel.acceptTerminatedStream
  refine hR.bind hR.settings fun config => ?_
  refine hR.bind (hR.inWorld _ _) fun deadline => ?_
  refine hR.bind (Action.obeys_iterate hR.composes ?_ _) fun found => ?_
  · intro found
    obtain ⟨room, seen⟩ := found
    cases room with
    | zero => exact hR.pure _
    | succ room =>
        refine hR.bind (hR.acceptByte hexactly _ _) fun byte => ?_
        dsimp only
        split
        · exact hR.pure _
        · exact hR.pure _
  · cases found with
    | inl payload => exact hR.pure payload
    | inr full =>
        refine hR.bind (Action.obeys_iterate hR.composes ?_ _) fun consumed => hR.fail _ rfl
        intro skipped
        obtain ⟨consumed, window⟩ := skipped
        refine hR.bind (hR.acceptByte hexactly _ _) fun byte => ?_
        dsimp only
        split
        · exact hR.pure _
        · exact hR.pure _

end Accept

section AcceptBytes

variable [Transport ω σ] (hR : PlainParts R)
  (hbytes : ∀ wanted options, (acceptBytes wanted options : ChannelAction σ ω Bytes).Obeys R)

include hR hbytes

theorem acceptTerminatedDatagram (terminator : Bytes) (options : ReceiveOptions) :
    (Channel.acceptTerminatedDatagram terminator options : ChannelAction σ ω Bytes).Obeys R := by
  refine hR.bind hR.settings fun config => hR.bind (hbytes _ _) fun datagram => ?_
  cases Bytes.indexOf? terminator datagram with
  | some length => exact hR.pure _
  | none => exact hR.fail _ rfl

theorem acceptTerminatedBytes (terminator : Bytes) (options : ReceiveOptions) :
    (Channel.acceptTerminatedBytes terminator options : ChannelAction σ ω Bytes).Obeys R := by
  unfold Channel.acceptTerminatedBytes
  by_cases hempty : terminator.isEmpty = true
  · rw [if_pos hempty]
    exact hR.fail _ rfl
  · rw [if_neg hempty]
    refine hR.bind (Action.obeys_see hR.composes _) fun transport => ?_
    cases Transport.kind ω transport with
    | datagram => exact hR.acceptTerminatedDatagram hbytes terminator options
    | stream | pipe =>
        exact hR.acceptTerminatedStream (acceptExactly_obeys hbytes) terminator options

theorem acceptTerminated (terminator : String) (options : ReceiveOptions) :
    (Channel.acceptTerminated terminator options : ChannelAction σ ω String).Obeys R :=
  hR.bind (hR.acceptTerminatedBytes hbytes _ options) hR.decodeText

theorem acceptArray (kind : PrimitiveKind) (count : Nat) (options : ReceiveOptions) :
    (Channel.acceptArray kind count options : ChannelAction σ ω (List (Primitive kind))).Obeys R :=
  hR.acceptSlots (acceptExactly_obeys hbytes) count options _

theorem acceptMessage (options : ReceiveOptions) (request : Request) :
    (Channel.acceptMessage options request : ChannelAction σ ω Message).Obeys R := by
  have hexactly := acceptExactly_obeys hbytes
  cases request with
  | primitive kind => exact hR.bind (hR.accept hexactly kind options) fun _ => hR.pure _
  | array kind count => exact hR.bind (hR.acceptArray hbytes kind count options) fun _ => hR.pure _
  | slots kind count => exact hR.acceptSlots hexactly count options _
  | bytes count => exact hR.bind (hbytes count options) fun _ => hR.pure _
  | string => exact hR.bind (hR.acceptString hexactly options) fun _ => hR.pure _
  | stringBytes => exact hR.bind (hR.acceptStringBytes hexactly options) fun _ => hR.pure _
  | strings => exact hR.bind (hR.acceptStringArray hexactly options) fun _ => hR.pure _
  | terminated terminator =>
      exact hR.bind (hR.acceptTerminated hbytes terminator options) fun _ => hR.pure _
  | terminatedBytes terminator =>
      exact hR.bind (hR.acceptTerminatedBytes hbytes terminator options) fun _ => hR.pure _

end AcceptBytes

end PlainParts

/-! ### Traced operations -/

namespace Parts

variable [World ω]
  {R : Channel σ × Surroundings ω → Option ChannelError → Channel σ × Surroundings ω → Prop}

theorem traced (hR : Parts R) {direction : Direction} {depth : Nat} {description : String}
    {shown : α → String} {x : ChannelAction σ ω α} (hx : x.Obeys R) :
    (traced direction depth description shown x).Obeys R :=
  hR.bind hx fun value => hR.bind (hR.record _ _ _ _) fun _ => hR.pure value

variable [Transport ω σ] (hR : Parts R)

include hR

theorem sendMessageTraced
    (hbytes : ∀ bytes, (sendBytes bytes : ChannelAction σ ω Unit).Obeys R) (depth : Nat)
    (description : String) (message : Message) :
    (Channel.sendMessageTraced depth description message : ChannelAction σ ω Unit).Obeys R := by
  have hplain := hR.sendMessage hbytes message
  cases message with
  | primitive | array | bytes | string | strings | terminated => exact hR.traced hplain
  | stringBytes | terminatedBytes => exact hplain

theorem acceptMessageTraced
    (hbytes : ∀ wanted options, (acceptBytes wanted options : ChannelAction σ ω Bytes).Obeys R)
    (depth : Nat) (description : String) (options : ReceiveOptions) (request : Request) :
    (Channel.acceptMessageTraced depth description options request :
      ChannelAction σ ω Message).Obeys R := by
  have hexactly := acceptExactly_obeys hbytes
  have hplain := hR.acceptMessage hbytes options request
  cases request with
  | primitive kind =>
      exact hR.bind (hR.traced (hR.accept hexactly kind options)) fun _ => hR.pure _
  | array kind count =>
      exact hR.bind (hR.traced (hR.acceptArray hbytes kind count options)) fun _ => hR.pure _
  | bytes count => exact hR.bind (hR.traced (hbytes count options)) fun _ => hR.pure _
  | string => exact hR.bind (hR.traced (hR.acceptString hexactly options)) fun _ => hR.pure _
  | strings => exact hR.bind (hR.traced (hR.acceptStringArray hexactly options)) fun _ => hR.pure _
  | terminated terminator =>
      exact hR.bind (hR.traced (hR.acceptTerminated hbytes terminator options)) fun _ => hR.pure _
  | slots | stringBytes | terminatedBytes => exact hplain

end Parts

/-! ## Operations -/

/-- The operations that move bytes or ask for them. -/
inductive Operation where
  | send (message : Message)
  | sendTraced (depth : Nat) (description : String) (message : Message)
  | accept (options : ReceiveOptions) (request : Request)
  | acceptTraced (depth : Nat) (description : String) (options : ReceiveOptions)
      (request : Request)
  | ready (timeout : Option Duration)
  | flush

/-- Run an operation and look only at the state after it. -/
def Operation.perform [World ω] [Transport ω σ] : Operation → ChannelAction σ ω Unit
  | send message => sendMessage message
  | sendTraced depth description message => sendMessageTraced depth description message
  | accept options request => do let _ ← acceptMessage options request
  | acceptTraced depth description options request => do
    let _ ← acceptMessageTraced depth description options request
  | ready timeout => do let _ ← messageReady timeout
  | flush => Channel.flush

end Channel

end TypedChannel
