import TypedChannel.Proofs.Transport.Recorded
/-!
# TypedChannel.Proofs.Transport.Transmit

The writes of one transmit.

`Transmission bytes calls left failure` says that `calls` are the writes of a
transmit of `bytes` from its first to its last: each offers exactly what the
ones before it have left, an interrupted one is made again, and the transmit
ends when nothing is left, when a write accepts nothing, or when one fails.

* `transmit_ensures`: a transmit makes the calls of a transmission.
* `Transmission.accepted_append`: what was accepted, and then what was left,
  is what was to be sent.
-/

namespace TypedChannel

/-- `calls` are the writes of a transmit of `bytes`; in the end `left` was not accepted, and the
transmit ended with `failure` if with any. -/
inductive Transmission : Bytes → List TransportCall → Bytes → Option TransportError → Prop
  | finished : Transmission [] [] [] none
  | accepted {bytes left : Bytes} {n : Nat} {calls : List TransportCall}
      {failure : Option TransportError} (pending : bytes ≠ []) (moves : n ≠ 0)
      (rest : Transmission (bytes.drop n) calls left failure) :
      Transmission bytes (.write bytes (.ok n) :: calls) left failure
  | interrupted {bytes left : Bytes} {e : TransportError} {calls : List TransportCall}
      {failure : Option TransportError} (pending : bytes ≠ []) (again : e.isInterrupted = true)
      (rest : Transmission bytes calls left failure) :
      Transmission bytes (.write bytes (.error e) :: calls) left failure
  | refused {bytes : Bytes} (pending : bytes ≠ []) :
      Transmission bytes [.write bytes (.ok 0)] bytes (some .closed)
  | failed {bytes : Bytes} {e : TransportError} (pending : bytes ≠ [])
      (final : e.isInterrupted = false) :
      Transmission bytes [.write bytes (.error e)] bytes (some e)

namespace Transmission

variable {bytes left : Bytes} {calls : List TransportCall} {failure : Option TransportError}

/-- Nothing is lost, repeated or reordered. -/
theorem accepted_append (h : Transmission bytes calls left failure) :
    TypedChannel.accepted calls ++ left = bytes := by
  induction h with
  | finished => rfl
  | accepted pending moves rest ih => simp [ih]
  | interrupted pending again rest ih => simpa using ih
  | refused pending => simp
  | failed pending final => simp

theorem taken_eq_nil (h : Transmission bytes calls left failure) : taken calls = [] := by
  induction h with
  | finished => rfl
  | accepted _ _ _ ih | interrupted _ _ _ ih => simpa using ih
  | refused _ | failed _ _ => rfl

/-- A transmit that does not fail has sent everything, and one that fails has not. -/
theorem failure_eq_none_iff (h : Transmission bytes calls left failure) :
    failure = none ↔ left = [] := by
  induction h with
  | finished => simp
  | accepted _ _ _ ih | interrupted _ _ _ ih => exact ih
  | refused pending | failed pending _ => simp [pending]

theorem accepted_of_finished (h : Transmission bytes calls left none) :
    TypedChannel.accepted calls = bytes := by
  have hleft : left = [] := h.failure_eq_none_iff.mp rfl
  rw [← h.accepted_append, hleft, List.append_nil]

/-- Every write offers all that the ones before it have left. -/
theorem accepted_append_offered (h : Transmission bytes calls left failure)
    {before rest : List TransportCall} {offered : Bytes} {result : Except TransportError Nat}
    (hcalls : calls = before ++ .write offered result :: rest) :
    TypedChannel.accepted before ++ offered = bytes := by
  induction h generalizing before with
  | finished => simp at hcalls
  | accepted pending moves next ih | interrupted pending again next ih =>
      cases before with
      | nil => simp_all
      | cons call before =>
          rw [List.cons_append, List.cons.injEq] at hcalls
          rw [← hcalls.1, accepted_cons, List.append_assoc, ih hcalls.2]
          simp
  | refused pending | failed pending final =>
      cases before with
      | nil => simp_all
      | cons call before => simp at hcalls

/-- With `calls` behind it, a transmit of `bytes` has come to `remaining`: they complete every
transmission of that to one of `bytes`. -/
def Leads (bytes : Bytes) (calls : List TransportCall) (remaining : Bytes) : Prop :=
  ∀ more left failure, Transmission remaining more left failure →
    Transmission bytes (calls ++ more) left failure

variable {remaining : Bytes}

theorem leads_refl (bytes : Bytes) : Leads bytes [] bytes := fun _ _ _ h => h

theorem Leads.accepted {n : Nat} (h : Leads bytes calls remaining) (pending : remaining ≠ [])
    (moves : n ≠ 0) : Leads bytes (calls ++ [.write remaining (.ok n)]) (remaining.drop n) := by
  intro more left failure hrest
  rw [List.append_assoc]
  exact h _ _ _ (.accepted pending moves hrest)

theorem Leads.interrupted {e : TransportError} (h : Leads bytes calls remaining)
    (pending : remaining ≠ []) (again : e.isInterrupted = true) :
    Leads bytes (calls ++ [.write remaining (.error e)]) remaining := by
  intro more left failure hrest
  rw [List.append_assoc]
  exact h _ _ _ (.interrupted pending again hrest)

theorem Leads.finish (h : Leads bytes calls []) : Transmission bytes calls [] none := by
  simpa using h [] [] none .finished

end Transmission

/-! ## The loop -/

namespace Transport

variable {ω σ : Type} [Transport ω σ]

/-- What every write obeys, whether it fails or not, a transmit obeys. -/
theorem transmit_obeys {R : σ × ω → Option TransportError → σ × ω → Prop}
    (hR : Action.Composes R)
    (hforget : ∀ {state after : σ × ω} {failure failure' : Option TransportError},
      R state failure after → R state failure' after)
    (hwrite : ∀ bytes, (writeRaw bytes : Action (σ × ω) TransportError Nat).Obeys R)
    (bytes : Bytes) : (transmit bytes : Action (σ × ω) TransportError Unit).Obeys R := by
  have hfail : ∀ e : TransportError,
      (Action.fail e : Action (σ × ω) TransportError (Round Bytes Unit)).Obeys R :=
    fun _ => Action.obeys_fail fun state => hforget (hR.refl state)
  refine Action.obeys_iterate hR (fun left => ?_) bytes
  unfold transmitRound
  by_cases hdone : left = []
  · rw [if_pos (by simp [hdone])]
    exact Action.obeys_pure hR _
  · rw [if_neg (by simpa using hdone)]
    refine Action.Obeys.attempt_bind hR hforget (hwrite left) fun result => ?_
    cases result with
    | error e =>
        simp only
        cases e.isInterrupted with
        | true => exact Action.obeys_pure hR _
        | false => exact hfail e
    | ok n =>
        simp only
        by_cases hn : n = 0
        · rw [if_pos hn]
          exact hfail .closed
        · rw [if_neg hn]
          exact Action.obeys_pure hR _

/-- `w` tells what was written between two states: a write has written what it accepted, and writes
in a row have written it all. -/
structure Account (ω : Type) [Transport ω σ] (w : Bytes → σ → σ → Prop) : Prop where
  nothing : ∀ t, w [] t t
  append : ∀ {bytes more : Bytes} {t u v : σ}, w bytes t u → w more u v → w (bytes ++ more) t v
  write : ∀ bytes (state : σ × ω), (writeRaw bytes : Action (σ × ω) TransportError Nat).Ensures
    state fun result after => w (TransportCall.write bytes result).accepted state.1 after.1

/-- A transmit that succeeds has written its bytes. -/
theorem Account.transmit {w : Bytes → σ → σ → Prop} (hw : Account ω w) (bytes : Bytes)
    (state : σ × ω) : (Transport.transmit bytes : Action (σ × ω) TransportError Unit).Ensures state
      fun result after => result = .ok () → w bytes state.1 after.1 := by
  refine Action.ensures_iterate (fun remaining between => ∃ written,
    written ++ remaining = bytes ∧ w written state.1 between.1) ⟨[], rfl, hw.nothing _⟩ ?_
  rintro remaining between ⟨written, hall, hmid⟩
  unfold transmitRound
  by_cases hdone : remaining = []
  · subst hdone
    rw [List.append_nil] at hall
    exact Action.ensures_pure fun _ => hall ▸ hmid
  · rw [if_neg (by simpa using hdone)]
    refine (hw.write remaining between).attempt_bind ?_
    intro result after hwritten
    cases result with
    | error e =>
        have hsame : w written state.1 after.1 := by simpa using hw.append hmid hwritten
        simp only
        cases e.isInterrupted with
        | true => exact Action.ensures_pure ⟨written, hall, hsame⟩
        | false => exact Action.ensures_fail nofun
    | ok n =>
        simp only
        by_cases hn : n = 0
        · rw [if_pos hn]
          exact Action.ensures_fail nofun
        · rw [if_neg hn]
          have hsplit : (written ++ remaining.take n) ++ remaining.drop n = bytes := by
            rw [List.append_assoc, List.take_append_drop, hall]
          exact Action.ensures_pure ⟨_, hsplit, hw.append hmid hwritten⟩

/-- One round of a transmit: it goes on with what its write has left, or it ends. -/
theorem transmitRound_ensures {bytes remaining : Bytes} {calls before : List TransportCall}
    {state : Recorded σ × ω} (hcalls : state.1.calls = before ++ calls)
    (hleads : Transmission.Leads bytes calls remaining) :
    (transmitRound remaining : Action (Recorded σ × ω) TransportError (Round Bytes Unit)).Ensures
      state fun result after => ∃ calls, after.1.calls = before ++ calls ∧ match result with
        | .ok (.again next) => Transmission.Leads bytes calls next
        | .ok (.done ()) => Transmission bytes calls [] none
        | .error e => ∃ left, Transmission bytes calls left (some e) := by
  unfold transmitRound
  by_cases hdone : remaining = []
  · subst hdone
    exact Action.ensures_pure ⟨calls, hcalls, hleads.finish⟩
  · rw [if_neg (by simpa using hdone)]
    refine (Recorded.recording_calls (.write remaining) (writeRaw remaining)).attempt_bind ?_
    intro result after hafter
    rw [hcalls, List.append_assoc] at hafter
    cases result with
    | error e =>
        simp only
        cases he : e.isInterrupted with
        | true => exact Action.ensures_pure ⟨_, hafter, hleads.interrupted hdone he⟩
        | false => exact Action.ensures_fail ⟨_, hafter, _, hleads _ _ _ (.failed hdone he)⟩
    | ok n =>
        simp only
        by_cases hn : n = 0
        · subst hn
          exact Action.ensures_fail ⟨_, hafter, _, hleads _ _ _ (.refused hdone)⟩
        · rw [if_neg hn]
          exact Action.ensures_pure ⟨_, hafter, hleads.accepted hdone hn⟩

/-- The calls of a transmit, whatever the transport answers. -/
theorem transmit_ensures (bytes : Bytes) (state : Recorded σ × ω) :
    (transmit bytes : Action (Recorded σ × ω) TransportError Unit).Ensures state
      fun result after => ∃ calls, after.1.calls = state.1.calls ++ calls ∧
        ∃ left, Transmission bytes calls left (failure? result) := by
  refine Action.ensures_iterate (fun remaining between => ∃ calls,
    between.1.calls = state.1.calls ++ calls ∧ Transmission.Leads bytes calls remaining)
    ⟨[], by simp, Transmission.leads_refl bytes⟩ ?_
  rintro remaining between ⟨calls, hcalls, hleads⟩
  refine (transmitRound_ensures hcalls hleads).mono ?_
  rintro result after ⟨calls, hcalls, hround⟩
  cases result with
  | error e => exact ⟨calls, hcalls, hround⟩
  | ok round =>
      cases round with
      | again next => exact ⟨calls, hcalls, hround⟩
      | done answer => exact ⟨calls, hcalls, [], hround⟩

/-- However many rounds a transmit has made, a transmission can go on from there. -/
theorem transmit_continues {bytes left : Bytes} {n : Nat} {state between : Recorded σ × ω}
    (h : Action.Continues transmitRound n bytes state left between) :
    ∃ calls, between.1.calls = state.1.calls ++ calls ∧ Transmission.Leads bytes calls left := by
  refine h.invariant (fun remaining between => ∃ calls,
    between.1.calls = state.1.calls ++ calls ∧ Transmission.Leads bytes calls remaining) ?_
    ⟨[], by simp, Transmission.leads_refl bytes⟩
  rintro remaining between ⟨calls, hcalls, hleads⟩
  refine (transmitRound_ensures hcalls hleads).mono ?_
  rintro result after ⟨calls, hcalls, hround⟩ next rfl
  exact ⟨calls, hcalls, hround⟩

end Transport

end TypedChannel
