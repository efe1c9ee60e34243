import TypedChannel.Proofs.Channel.Parts
import TypedChannel.Proofs.Diagnostics.Sinks
import TypedChannel.Proofs.Transport.Receive
/-!
# TypedChannel.Proofs.Channel.Policy

What becomes of a failure.

1. `Applied` is the policy: a failure that is no wrapper comes back in one
   wrapper if failures are fatal and in none otherwise, and the slot of the
   diagnostics is given its own text, once.
2. An operation that succeeds records nothing.  For one that fails there is a
   moment up to which nothing was recorded either, and all that it does from
   there is to report the failure (`Judged`).  No call of the transport stands
   behind one that failed (`Ceases`).
3. This holds of the small parts of an operation and survives sequencing, so
   it holds of every operation, however many steps it is made of.
-/

namespace TypedChannel

/-! ## The policy -/

namespace Diagnostics

/-- The slot that a handle names is there. -/
def Handle.Held (handle : Handle) (store : Store) : Prop := handle.slot < store.slots.length

theorem Store.lastError_recordError {handle : Handle} {store : Store} (held : handle.Held store)
    (message : String) : (store.recordError message handle).lastError handle = some message := by
  have hslot : store.slots[handle.slot]? = some store.slots[handle.slot] :=
    List.getElem?_eq_getElem held
  simp [lastError, recordError, give, hslot]

end Diagnostics

/-- `e` is what the policy makes of the failure `cause`: it is wrapped at most once, and its own
text was given to the slot of the handle. -/
structure Applied (fatal : Bool) (handle : Diagnostics.Handle) (before : Diagnostics.Store)
    (cause e : ChannelError) (after : Diagnostics.Store) : Prop where
  own : cause.isFatal = false
  wrapped : e = if fatal then .fatal cause else cause
  once : after.slots = before.slots.modify handle.slot (some cause.message :: ·)

theorem ChannelConfig.escalate_applied (config : ChannelConfig) {cause : ChannelError}
    (own : cause.isFatal = false) (store : Diagnostics.Store) :
    Applied config.errorsFatal config.diagnostics store cause (config.escalate cause store).1
      (config.escalate cause store).2 where
  own := own
  wrapped := by simp [escalate, own]
  once := rfl

namespace Applied

variable {fatal : Bool} {handle : Diagnostics.Handle} {before after : Diagnostics.Store}
  {cause e : ChannelError}

/-- The text is what the diagnostics then show. -/
theorem lastError (h : Applied fatal handle before cause e after) (held : handle.Held before) :
    after.lastError handle = some cause.message := by
  rw [← before.lastError_recordError held cause.message]
  simp only [Diagnostics.Store.lastError, h.once]
  rfl

/-- Only the slots matter. -/
theorem congr {before' : Diagnostics.Store} (h : Applied fatal handle before cause e after)
    (hslots : before.slots = before'.slots) : Applied fatal handle before' cause e after :=
  ⟨h.own, h.wrapped, hslots ▸ h.once⟩

end Applied

/-! ## Calls behind a failed one -/

/-- Whether the request that made a call does not go on behind it: it failed otherwise than by an
interruption, or it said that nothing will move. -/
def TransportCall.ends : TransportCall → Bool
  | read _ (.error e) | write _ (.error e) => !e.isInterrupted
  | poll _ (.error _) | flush (.error _) => true
  | poll _ (.ok ready) => !ready
  | write _ (.ok n) => n == 0
  | _ => false

/-- None of the calls ends its request. -/
def Proceeds (calls : List TransportCall) : Prop := ∀ call ∈ calls, call.ends = false

/-- No call stands behind one that ended its request. -/
def Ceases (calls : List TransportCall) : Prop :=
  ∀ before call rest, calls = before ++ call :: rest → call.ends = true → rest = []

section Ceases

variable {call : TransportCall} {calls more : List TransportCall}

theorem Proceeds.append (h : Proceeds calls) (h' : Proceeds more) : Proceeds (calls ++ more) :=
  fun call hcall => (List.mem_append.mp hcall).elim (h call) (h' call)

theorem Proceeds.ceases (h : Proceeds calls) : Ceases calls := by
  intro before call rest hcalls hends
  have hgoes := h call (by simp [hcalls])
  rw [hends] at hgoes
  contradiction

theorem Proceeds.followed (h : Proceeds calls) (h' : Ceases more) : Ceases (calls ++ more) := by
  intro before call rest hsplit hends
  obtain ⟨between, hcalls⟩ | ⟨between, -, hmore⟩ := call_of_append hsplit
  · have hgoes := h call (by simp [hcalls])
    rw [hends] at hgoes
    contradiction
  · exact h' between call rest hmore hends

theorem ceases_singleton (call : TransportCall) : Ceases [call] := by
  intro before other rest hcalls _
  cases before with
  | nil => exact (List.cons.inj hcalls).2.symm
  | cons first before => simp at hcalls

theorem proceeds_nil : Proceeds [] := fun _ hcall => by simp at hcall

theorem proceeds_singleton (h : call.ends = false) : Proceeds [call] := by
  intro other hother
  rwa [List.mem_singleton.mp hother]

end Ceases

/-- The writes of a transmit: one that fails is the last. -/
theorem Transmission.ceases {bytes left : Bytes} {calls : List TransportCall}
    {failure : Option TransportError} (h : Transmission bytes calls left failure) :
    Ceases calls ∧ (failure = none → Proceeds calls) := by
  induction h with
  | finished => exact ⟨proceeds_nil.ceases, fun _ => proceeds_nil⟩
  | @accepted bytes left n calls failure pending moves rest ih =>
      have hgoes : Proceeds [.write bytes (.ok n)] :=
        proceeds_singleton (by simpa [TransportCall.ends] using moves)
      exact ⟨hgoes.followed ih.1, fun hnone => hgoes.append (ih.2 hnone)⟩
  | @interrupted bytes left e calls failure pending again rest ih =>
      have hgoes : Proceeds [.write bytes (.error e)] :=
        proceeds_singleton (by simp [TransportCall.ends, again])
      exact ⟨hgoes.followed ih.1, fun hnone => hgoes.append (ih.2 hnone)⟩
  | refused _ | failed _ _ => exact ⟨ceases_singleton _, fun hnone => by contradiction⟩

/-- The calls of a receive: one that fails is the last. -/
theorem Reception.ceases {wanted : Nat} {timeout : Option Duration} {everything : Bool}
    {got : Bytes} {calls : List TransportCall} {result : Except TransportError Bytes}
    (h : Reception wanted timeout everything got calls result) :
    Ceases calls ∧ (failure? result = none → Proceeds calls) := by
  have hready : ∀ left, Proceeds [.poll left (.ok true)] := fun _ => proceeds_singleton rfl
  have hgot : ∀ left room chunk, Proceeds ([.poll left (.ok true)] ++ [.read room (.ok chunk)]) :=
    fun left _ _ => (hready left).append (proceeds_singleton rfl)
  induction h with
  | full _ => exact ⟨proceeds_nil.ceases, fun _ => proceeds_nil⟩
  | late _ | blind _ => exact ⟨ceases_singleton _, fun hnone => by contradiction⟩
  | @interrupted got left e calls result missing again rest ih =>
      have hgoes : Proceeds ([.poll left (.ok true)] ++ [.read (wanted - got.length) (.error e)]) :=
        (hready left).append (proceeds_singleton (by simp [TransportCall.ends, again]))
      exact ⟨hgoes.followed ih.1, fun hnone => hgoes.append (ih.2 hnone)⟩
  | failed _ _ =>
      exact ⟨(hready _).followed (ceases_singleton _), fun hnone => by contradiction⟩
  | first _ _ _ => exact ⟨(hgot _ _ _).ceases, fun _ => hgot _ _ _⟩
  | more _ _ _ ih =>
      exact ⟨(hgot _ _ _).followed ih.1, fun hnone => (hgot _ _ _).append (ih.2 hnone)⟩

namespace Channel

variable {σ ω α β : Type}

/-! ## One operation -/

/-- Between the two states the transport has answered `calls`, and no failure was recorded. -/
structure Untroubled (state : Channel (Recorded σ) × Surroundings ω) (calls : List TransportCall)
    (after : Channel (Recorded σ) × Surroundings ω) : Prop where
  calls : after.1.transport.calls = state.1.transport.calls ++ calls
  config : after.1.config = state.1.config
  lastError : after.1.lastError = state.1.lastError
  slots : after.2.diagnostics.slots = state.2.diagnostics.slots

/-- From the one state to the other the channel has done nothing but to report the failure `cause`
as `e`. -/
structure Reported [World ω] (state : Channel σ × Surroundings ω) (cause e : ChannelError)
    (after : Channel σ × Surroundings ω) : Prop where
  applied : Applied state.1.config.errorsFatal state.1.config.diagnostics state.2.diagnostics
    cause e after.2.diagnostics
  channel : ∃ peerGoneReported,
    after.1 = { state.1 with lastError := some cause.message, peerGoneReported }
  world : ∃ event, after.2.world = World.note event state.2.world

/-- How an operation that has succeeded or failed leaves its state. -/
inductive Judged [World ω] (fine : List TransportCall → Prop)
    (state : Channel (Recorded σ) × Surroundings ω) :
    Option ChannelError → Channel (Recorded σ) × Surroundings ω → Prop
  | passed {after : Channel (Recorded σ) × Surroundings ω} {calls : List TransportCall}
      (untroubled : Untroubled state calls after) (goes : fine calls) : Judged fine state none after
  | failed {moment after : Channel (Recorded σ) × Surroundings ω} {cause e : ChannelError}
      {calls : List TransportCall} (untroubled : Untroubled state calls moment)
      (ceases : Ceases calls) (reported : Reported moment cause e after) :
      Judged fine state (some e) after

variable {state between after : Channel (Recorded σ) × Surroundings ω}
  {calls more : List TransportCall}

theorem untroubled_refl (state : Channel (Recorded σ) × Surroundings ω) :
    Untroubled state [] state :=
  ⟨by simp, rfl, rfl, rfl⟩

theorem Untroubled.trans (h : Untroubled state calls between) (h' : Untroubled between more after) :
    Untroubled state (calls ++ more) after where
  calls := by rw [h'.calls, h.calls, List.append_assoc]
  config := h'.config.trans h.config
  lastError := h'.lastError.trans h.lastError
  slots := h'.slots.trans h.slots

variable [World ω]

/-- A failure is reported, whatever state it finds. -/
theorem fail_settles {state : Channel σ × Surroundings ω} {cause : ChannelError}
    (own : cause.isFatal = false) : (fail cause : ChannelAction σ ω α).Settles state
      fun result after => ∃ e, result = .error e ∧ Reported state cause e after :=
  fun _ => ⟨_, _, rfl, _, rfl, state.1.config.escalate_applied own _, ⟨_, rfl⟩, ⟨_, rfl⟩⟩

theorem Judged.mono {fine weaker : List TransportCall → Prop} {failure : Option ChannelError}
    (h : Judged fine state failure after) (hweaker : ∀ {calls}, fine calls → weaker calls) :
    Judged weaker state failure after := by
  cases h with
  | passed untroubled goes => exact .passed untroubled (hweaker goes)
  | failed untroubled ceases reported => exact .failed untroubled ceases reported

theorem judged_composes : Action.Composes (Judged (σ := σ) (ω := ω) Proceeds) where
  refl state := .passed (untroubled_refl state) proceeds_nil
  trans := by
    intro state between after failure hfirst hsecond
    cases hfirst with
    | passed untroubled goes =>
        cases hsecond with
        | passed untroubled' goes' =>
            exact .passed (untroubled.trans untroubled') (goes.append goes')
        | failed untroubled' ceases reported =>
            exact .failed (untroubled.trans untroubled') (goes.followed ceases) reported

/-- What records nothing and makes no call. -/
theorem Untroubled.judged (h : Untroubled state [] after) : Judged Proceeds state none after :=
  .passed h proceeds_nil

theorem parts_judged : Parts (Judged (σ := σ) (ω := ω) Proceeds) where
  composes := judged_composes
  fail α cause arises state := by
    refine (fail_settles (ChannelError.isFatal_of_arises arises)).ensures.mono ?_
    rintro result after ⟨e, rfl, hreported⟩
    exact .failed (untroubled_refl state) proceeds_nil.ceases hreported
  inWorld α f state := Action.ensures_step (Untroubled.judged ⟨by simp, rfl, rfl, rfl⟩)
  record direction depth description value state := by
    refine Action.ensures_change (Untroubled.judged ?_)
    have hslots := Diagnostics.Store.trace_slots
      (Diagnostics.line direction depth description value) state.1.config.diagnostics
      state.2.diagnostics
    dsimp only
    split
    · exact ⟨by simp, rfl, rfl, hslots⟩
    · exact ⟨by simp, rfl, rfl, hslots⟩

/-- A call of the transport whose failure becomes one of the channel. -/
theorem call_judged {fine : List TransportCall → Prop}
    {x : Action (Recorded σ × ω) TransportError α}
    {history : Except TransportError α → List TransportCall → Prop}
    (hx : ∀ state, x.Ensures state fun result after =>
      ∃ calls, after.1.calls = state.1.calls ++ calls ∧ history result calls)
    (hceases : ∀ {result calls}, history result calls → Ceases calls)
    (hfine : ∀ {a calls}, history (.ok a) calls → fine calls) :
    (onTransport x >>= orFail : ChannelAction (Recorded σ) ω α).Obeys (Judged fine) := by
  intro state
  have hcall : (onTransport x : Action _ ChannelError _).Ensures state fun result after =>
      ∃ r calls, result = .ok r ∧ Untroubled state calls after ∧ history r calls := by
    refine onTransport_ensures ((hx _).mono ?_)
    rintro result after ⟨calls, hcalls, hhistory⟩
    exact ⟨result, calls, rfl, ⟨hcalls, rfl, rfl, rfl⟩, hhistory⟩
  refine hcall.bind ?_ ?_
  · rintro r between ⟨_, calls, hr, huntroubled, hhistory⟩
    cases hr
    cases r with
    | ok a => exact Action.ensures_pure (.passed huntroubled (hfine hhistory))
    | error cause =>
        refine (fail_settles rfl).ensures.mono ?_
        rintro result after ⟨e, rfl, hreported⟩
        exact .failed huntroubled (hceases hhistory) hreported
  · rintro e after ⟨_, _, hr, _⟩
    cases hr

variable [Transport ω σ]

theorem sendBytes_judged (bytes : Bytes) :
    (sendBytes bytes : ChannelAction (Recorded σ) ω Unit).Obeys (Judged Proceeds) := by
  refine parts_judged.ofTransmit (fun bytes => ?_) (fun n state => ?_) bytes
  · exact call_judged (Transport.transmit_ensures bytes) (fun ⟨_, h⟩ => h.ceases.1)
      fun ⟨_, h⟩ => h.ceases.2 rfl
  · exact Action.ensures_change (Untroubled.judged ⟨by simp, rfl, rfl, rfl⟩)

theorem acceptBytes_judged (wanted : Nat) (options : ReceiveOptions) :
    (acceptBytes wanted options : ChannelAction (Recorded σ) ω Bytes).Obeys (Judged Proceeds) := by
  refine parts_judged.ofReceive (fun wanted timeout everything => ?_) (fun n state => ?_) wanted
    options
  · exact call_judged Transport.receive_ensures (fun h => h.ceases.1) fun h => h.ceases.2 rfl
  · exact Action.ensures_change (Untroubled.judged ⟨by simp, rfl, rfl, rfl⟩)

omit [Transport ω σ] in
/-- An answer that nobody looks at. -/
theorem ignored_judged {fine : List TransportCall → Prop} {x : ChannelAction (Recorded σ) ω α}
    (hx : x.Obeys (Judged fine)) :
    (do let _ ← x : ChannelAction (Recorded σ) ω Unit).Obeys (Judged fine) := by
  have hpure : ∀ _ : α, (pure () : ChannelAction (Recorded σ) ω Unit).Obeys
      fun state failure after => failure = none ∧ after = state :=
    fun _ _ => Action.ensures_pure ⟨rfl, rfl⟩
  refine hx.followed hpure ?_ id
  rintro state between after failure hfirst ⟨rfl, rfl⟩
  exact hfirst

omit [Transport ω σ] in
/-- A single call of the transport. -/
theorem single_judged {call : Except TransportError α → TransportCall}
    {x : Action (σ × ω) TransportError α} :
    (onTransport (Recorded.recording call x) >>= orFail :
      ChannelAction (Recorded σ) ω α).Obeys (Judged Ceases) := by
  have hcall : ∀ state, (Recorded.recording call x).Ensures state fun result after =>
      ∃ calls, after.1.calls = state.1.calls ++ calls ∧ calls = [call result] := fun state =>
    (Recorded.recording_calls call x).mono fun result _ hcalls => ⟨[call result], hcalls, rfl⟩
  refine call_judged hcall ?_ ?_
  · rintro result calls rfl
    exact ceases_singleton _
  · rintro a calls rfl
    exact ceases_singleton _

/-- Every operation is judged, however it ends. -/
theorem Operation.perform_judged (operation : Operation) :
    (operation.perform : ChannelAction (Recorded σ) ω Unit).Obeys (Judged Ceases) := by
  have hsend := sendBytes_judged (σ := σ) (ω := ω)
  have haccept := acceptBytes_judged (σ := σ) (ω := ω)
  have hceases : ∀ {x : ChannelAction (Recorded σ) ω Unit}, x.Obeys (Judged Proceeds) →
      x.Obeys (Judged Ceases) := fun hx => hx.mono fun h => h.mono Proceeds.ceases
  cases operation with
  | send message => exact hceases (parts_judged.sendMessage hsend message)
  | sendTraced depth description message =>
      exact hceases (parts_judged.sendMessageTraced hsend depth description message)
  | accept options request =>
      exact hceases (ignored_judged (parts_judged.acceptMessage haccept options request))
  | acceptTraced depth description options request =>
      exact hceases (ignored_judged
        (parts_judged.acceptMessageTraced haccept depth description options request))
  | ready timeout => exact ignored_judged single_judged
  | flush => exact single_judged

/-! ## Every reachable state -/

/-- The states that operations on a fresh channel lead to.  Each may end well or not, and between
two of them the channel may be given other settings and everything around it may change, as long as
there is a slot for its failures. -/
inductive Reachable : Channel (Recorded σ) × Surroundings ω → Prop
  | opened (transport : σ) (role : Role) {config : ChannelConfig} {around : Surroundings ω}
      (held : config.diagnostics.Held around.diagnostics) :
      Reachable (Channel.opened ⟨transport, []⟩ role config, around)
  | ran {state after : Channel (Recorded σ) × Surroundings ω} {result : Except ChannelError Unit}
      (patience : Nat) (operation : Operation) (before : Reachable state)
      (run : operation.perform patience state = some (result, after)) : Reachable after
  | elsewhere {channel : Channel (Recorded σ)} {around around' : Surroundings ω}
      {config : ChannelConfig} (before : Reachable (channel, around))
      (held : config.diagnostics.Held around'.diagnostics) :
      Reachable ({ channel with config }, around')

omit [Transport ω σ] in
/-- The slot stays, and with it the settings. -/
theorem Judged.held {fine : List TransportCall → Prop} {failure : Option ChannelError}
    (h : Judged fine state failure after)
    (held : state.1.config.diagnostics.Held state.2.diagnostics) :
    after.1.config.diagnostics.Held after.2.diagnostics := by
  unfold Diagnostics.Handle.Held at held ⊢
  cases h with
  | passed untroubled _ => rwa [untroubled.config, untroubled.slots]
  | failed untroubled _ reported =>
      obtain ⟨_, hchannel⟩ := reported.channel
      rw [reported.applied.once, List.length_modify, untroubled.slots, hchannel]
      show _ < _
      rwa [untroubled.config]

theorem Reachable.held {state : Channel (Recorded σ) × Surroundings ω} (h : Reachable state) :
    state.1.config.diagnostics.Held state.2.diagnostics := by
  induction h with
  | opened _ _ held => exact held
  | ran patience operation before run ih => exact (operation.perform_judged _ _ _ _ run).held ih
  | elsewhere before held ih => exact held

/-- What a failed operation leaves. -/
structure Failed (state : Channel (Recorded σ) × Surroundings ω) (cause e : ChannelError)
    (after : Channel (Recorded σ) × Surroundings ω) : Prop where
  /-- One wrapper if failures are fatal at that time, and the text recorded once. -/
  applied : Applied state.1.config.errorsFatal state.1.config.diagnostics state.2.diagnostics
    cause e after.2.diagnostics
  remembered : after.1.lastError = some cause.message
  shared : after.2.diagnostics.lastError state.1.config.diagnostics = some cause.message
  /-- The report was its last act: nothing was recorded before and no call was made after it, and
  none behind a call that failed. -/
  last : ∃ moment calls, Untroubled state calls moment ∧ Ceases calls ∧
    Reported moment cause e after

omit [Transport ω σ] in
theorem Reported.failed {moment : Channel (Recorded σ) × Surroundings ω} {cause e : ChannelError}
    (reported : Reported moment cause e after) (untroubled : Untroubled state calls moment)
    (ceases : Ceases calls) (held : state.1.config.diagnostics.Held state.2.diagnostics) :
    Failed state cause e after := by
  have happlied : Applied state.1.config.errorsFatal state.1.config.diagnostics
      state.2.diagnostics cause e after.2.diagnostics := by
    rw [← untroubled.config]
    exact reported.applied.congr untroubled.slots
  obtain ⟨_, hchannel⟩ := reported.channel
  exact ⟨happlied, by rw [hchannel], happlied.lastError held, moment, calls, untroubled, ceases,
    reported⟩

omit [Transport ω σ] in
theorem Judged.failure {fine : List TransportCall → Prop} {e : ChannelError}
    (h : Judged fine state (some e) after)
    (held : state.1.config.diagnostics.Held state.2.diagnostics) :
    ∃ cause, Failed state cause e after := by
  cases h with
  | failed untroubled ceases reported => exact ⟨_, reported.failed untroubled ceases held⟩

end Channel

end TypedChannel
