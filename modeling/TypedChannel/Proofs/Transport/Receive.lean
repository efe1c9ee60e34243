import TypedChannel.Proofs.Transport.Recorded
/-!
# TypedChannel.Proofs.Transport.Receive

The calls of one receive.

`Reception wanted timeout everything got calls result` says that `calls` are
those that a receive of `wanted` bytes makes from the moment when it has `got`
to its end: each read follows a readiness check that said yes and offers
exactly the room that is still empty, an interrupted one is made again, and the
receive ends when nothing is missing, when a check runs out, when a call fails,
or, if it need not be complete, with the first bytes.

* `receive_ensures`: a receive makes the calls of a reception.
* `receive_complete`: one that need be complete has all of them when it ends
  well, over every transport.
* `Reception.ok_eq`: what it answers is what those calls have taken.
-/

namespace TypedChannel

/-- `calls` are the rest of a receive that has `got` these bytes, and it ends with `result`. -/
inductive Reception (wanted : Nat) (timeout : Option Duration) (everything : Bool) :
    Bytes → List TransportCall → Except TransportError Bytes → Prop
  | full {got : Bytes} (enough : wanted ≤ got.length) :
      Reception wanted timeout everything got [] (.ok got)
  | late {got : Bytes} {left : Option Duration} (missing : got.length < wanted) :
      Reception wanted timeout everything got [.poll left (.ok false)]
        (.error (.timeout (timeout.getD .zero) wanted got.length))
  | blind {got : Bytes} {left : Option Duration} {e : TransportError}
      (missing : got.length < wanted) :
      Reception wanted timeout everything got [.poll left (.error e)] (.error e)
  | interrupted {got : Bytes} {left : Option Duration} {e : TransportError}
      {calls : List TransportCall} {result : Except TransportError Bytes}
      (missing : got.length < wanted) (again : e.isInterrupted = true)
      (rest : Reception wanted timeout everything got calls result) :
      Reception wanted timeout everything got
        (.poll left (.ok true) :: .read (wanted - got.length) (.error e) :: calls) result
  | failed {got : Bytes} {left : Option Duration} {e : TransportError}
      (missing : got.length < wanted) (final : e.isInterrupted = false) :
      Reception wanted timeout everything got
        [.poll left (.ok true), .read (wanted - got.length) (.error e)] (.error e)
  | first {got chunk : Bytes} {left : Option Duration} (missing : got.length < wanted)
      (content : everything = false) (some : chunk ≠ []) :
      Reception wanted timeout everything got
        [.poll left (.ok true), .read (wanted - got.length) (.ok chunk)] (.ok (got ++ chunk))
  | more {got chunk : Bytes} {left : Option Duration} {calls : List TransportCall}
      {result : Except TransportError Bytes} (missing : got.length < wanted)
      (eager : everything = true ∨ chunk = [])
      (rest : Reception wanted timeout everything (got ++ chunk) calls result) :
      Reception wanted timeout everything got
        (.poll left (.ok true) :: .read (wanted - got.length) (.ok chunk) :: calls) result

namespace Reception

variable {wanted : Nat} {timeout : Option Duration} {everything : Bool} {got : Bytes}
  {calls : List TransportCall} {result : Except TransportError Bytes}

theorem accepted_eq_nil (h : Reception wanted timeout everything got calls result) :
    accepted calls = [] := by
  induction h with
  | full _ | late _ | blind _ | failed _ _ | first _ _ _ => rfl
  | interrupted _ _ _ ih | more _ _ _ ih => simpa using ih

/-- A receive answers with the bytes that its calls have taken, in order. -/
theorem ok_eq {bytes : Bytes}
    (h : Reception wanted timeout everything got calls (.ok bytes)) :
    bytes = got ++ taken calls := by
  generalize hresult : (Except.ok bytes : Except TransportError Bytes) = result at h
  induction h with
  | full _ => cases hresult; simp
  | late _ | blind _ | failed _ _ => cases hresult
  | interrupted _ _ _ ih => simpa using ih hresult
  | first _ _ _ => cases hresult; simp
  | more _ _ _ ih => simpa using ih hresult

/-- A receive that need not be complete has taken nothing when it fails. -/
theorem taken_of_error {e : TransportError}
    (h : Reception wanted timeout false got calls (.error e)) : taken calls = [] := by
  generalize hresult : (Except.error e : Except TransportError Bytes) = result at h
  induction h with
  | full _ | first _ _ _ => cases hresult
  | late _ | blind _ | failed _ _ => rfl
  | interrupted _ _ _ ih => simpa using ih hresult
  | more _ eager _ ih =>
      cases eager with
      | inl hall => contradiction
      | inr hnone => simpa [hnone] using ih hresult

/-- A receive that has enough makes no further call. -/
theorem calls_of_full (h : Reception wanted timeout everything got calls result)
    (enough : wanted ≤ got.length) : calls = [] ∧ result = .ok got := by
  cases h with
  | full _ => exact ⟨rfl, rfl⟩
  | late missing | blind missing | interrupted missing _ _ | failed missing _
    | first missing _ _ | more missing _ _ => omega

end Reception

/-! ## The loop -/

namespace Transport

variable {ω σ : Type} [World ω] [Transport ω σ] {wanted : Nat} {timeout : Option Duration}
  {everything : Bool}

/-- What every read, every readiness check and every look at the clock obeys, whether it fails or
not, a receive obeys. -/
theorem receive_obeys {R : σ × ω → Option TransportError → σ × ω → Prop}
    (hR : Action.Composes R)
    (hforget : ∀ {state after : σ × ω} {failure failure' : Option TransportError},
      R state failure after → R state failure' after)
    (hworld : ∀ {α : Type} (f : ω → α × ω), (inWorld f : Action (σ × ω) TransportError α).Obeys R)
    (hpoll : ∀ timeout, (pollReadable timeout : Action (σ × ω) TransportError Bool).Obeys R)
    (hread : ∀ room, (readRaw room : Action (σ × ω) TransportError Bytes).Obeys R) :
    (receive wanted timeout everything : Action (σ × ω) TransportError Bytes).Obeys R := by
  have hfail : ∀ e : TransportError,
      (Action.fail e : Action (σ × ω) TransportError (Round Bytes Bytes)).Obeys R :=
    fun _ => Action.obeys_fail fun state => hforget (hR.refl state)
  refine Action.Obeys.bind hR (hworld _) fun deadline => ?_
  refine Action.obeys_iterate hR (fun got => ?_) []
  unfold receiveRound
  by_cases hdone : wanted ≤ got.length
  · rw [if_pos hdone]
    exact Action.obeys_pure hR _
  · rw [if_neg hdone]
    refine Action.Obeys.bind hR (hworld _) fun left => ?_
    refine Action.Obeys.bind hR (hpoll left) fun ready => ?_
    cases ready with
    | false => exact hfail _
    | true =>
        refine Action.Obeys.attempt_bind hR hforget (hread _) fun result => ?_
        cases result with
        | error e =>
            simp only
            cases e.isInterrupted with
            | true => exact Action.obeys_pure hR _
            | false => exact hfail e
        | ok chunk =>
            simp only
            cases !everything && !chunk.isEmpty with
            | true | false => exact Action.obeys_pure hR _

/-- A receive of everything that ends well has all it was to receive. -/
theorem receive_complete (wanted : Nat) (timeout : Option Duration) (state : σ × ω) :
    (receive wanted timeout true : Action (σ × ω) TransportError Bytes).Ensures state
      fun result _ => ∀ bytes, result = .ok bytes → wanted ≤ bytes.length := by
  refine ensures_inWorld_bind (Action.ensures_iterate (fun _ _ => True) trivial ?_)
  intro got between _
  unfold receiveRound
  by_cases hfull : wanted ≤ got.length
  · rw [if_pos hfull]
    exact Action.ensures_pure fun bytes hbytes => by cases hbytes; exact hfull
  · rw [if_neg hfull]
    have hlate : ∀ e : TransportError, ∀ bytes, (Except.error e : Except _ Bytes) = .ok bytes →
        wanted ≤ bytes.length := fun _ _ h => by cases h
    refine ensures_inWorld_bind ?_
    refine (Action.ensures_true _ _).bind ?_ fun e _ _ => hlate e
    intro ready polled _
    cases ready with
    | false => exact Action.ensures_fail (hlate _)
    | true =>
        refine (Action.ensures_true _ _).attempt_bind ?_
        intro result after _
        cases result with
        | ok chunk => exact Action.ensures_pure trivial
        | error e =>
            dsimp only
            cases e.isInterrupted with
            | true => exact Action.ensures_pure trivial
            | false => exact Action.ensures_fail (hlate e)

/-- With `calls` behind it a receive that had `before` has got to `got`: they complete every
reception from there to one from the start. -/
def Approaches (wanted : Nat) (timeout : Option Duration) (everything : Bool) (before : Bytes)
    (calls : List TransportCall) (got : Bytes) : Prop :=
  ∀ more result, Reception wanted timeout everything got more result →
    Reception wanted timeout everything before (calls ++ more) result

/-- One round of a receive: it goes on with what its read has given, or it ends. -/
theorem receiveRound_ensures {before got : Bytes} {calls earlier : List TransportCall}
    {deadline : Deadline} {state : Recorded σ × ω} (hcalls : state.1.calls = earlier ++ calls)
    (hso : Approaches wanted timeout everything before calls got) :
    (receiveRound wanted timeout everything deadline got :
      Action (Recorded σ × ω) TransportError (Round Bytes Bytes)).Ensures state
      fun result after => ∃ calls, after.1.calls = earlier ++ calls ∧ match result with
        | .ok (.again next) => Approaches wanted timeout everything before calls next
        | .ok (.done bytes) => Reception wanted timeout everything before calls (.ok bytes)
        | .error e => Reception wanted timeout everything before calls (.error e) := by
  unfold receiveRound
  by_cases hfull : wanted ≤ got.length
  · rw [if_pos hfull]
    exact Action.ensures_pure ⟨calls, hcalls, by simpa using hso _ _ (.full hfull)⟩
  · rw [if_neg hfull]
    have hmissing : got.length < wanted := by omega
    refine ensures_inWorld_bind ?_
    refine (Recorded.recording_calls (.poll _) (pollReadable _)).bind ?_ ?_
    · intro ready polled hpolled
      simp only [hcalls] at hpolled
      cases ready with
      | false =>
          refine Action.ensures_fail ⟨_, hpolled.trans (List.append_assoc _ _ _), ?_⟩
          exact hso _ _ (.late hmissing)
      | true =>
          refine (Recorded.recording_calls (.read _) (readRaw _)).attempt_bind ?_
          intro result after hafter
          rw [hpolled, List.append_assoc, List.append_assoc] at hafter
          cases result with
          | error e =>
              simp only
              cases he : e.isInterrupted with
              | true =>
                  refine Action.ensures_pure ⟨_, hafter, fun more end_ hmore => ?_⟩
                  simpa using hso _ _ (.interrupted hmissing he hmore)
              | false =>
                  refine Action.ensures_fail ⟨_, hafter, ?_⟩
                  exact hso _ _ (.failed hmissing he)
          | ok chunk =>
              simp only
              cases hfirst : !everything && !chunk.isEmpty with
              | true =>
                  simp only [Bool.and_eq_true, Bool.not_eq_true', List.isEmpty_eq_false_iff]
                    at hfirst
                  exact Action.ensures_pure ⟨_, hafter, hso _ _ (.first hmissing hfirst.1 hfirst.2)⟩
              | false =>
                  have heager : everything = true ∨ chunk = [] := by
                    cases everything <;> simp_all
                  refine Action.ensures_pure ⟨_, hafter, fun more end_ hmore => ?_⟩
                  simpa using hso _ _ (.more hmissing heager hmore)
    · intro e polled hpolled
      simp only [hcalls] at hpolled
      exact ⟨_, hpolled.trans (List.append_assoc _ _ _), hso _ _ (.blind hmissing)⟩

/-- The calls of a receive, whatever the transport answers and however time passes. -/
theorem receive_ensures (state : Recorded σ × ω) :
    (receive wanted timeout everything : Action (Recorded σ × ω) TransportError Bytes).Ensures
      state fun result after => ∃ calls, after.1.calls = state.1.calls ++ calls ∧
        Reception wanted timeout everything [] calls result := by
  unfold receive
  refine ensures_inWorld_bind (Action.ensures_iterate (fun got between => ∃ calls,
    between.1.calls = state.1.calls ++ calls ∧
      Approaches wanted timeout everything [] calls got) ⟨[], by simp, fun _ _ h => h⟩ ?_)
  rintro got between ⟨calls, hcalls, hso⟩
  refine (receiveRound_ensures hcalls hso).mono ?_
  rintro result after ⟨calls, hcalls, hround⟩
  cases result with
  | error e => exact ⟨calls, hcalls, hround⟩
  | ok round =>
      cases round with
      | again next => exact ⟨calls, hcalls, hround⟩
      | done bytes => exact ⟨calls, hcalls, hround⟩

/-- However many rounds a receive has made, a reception can go on from there. -/
theorem receive_continues {deadline : Deadline} {got : Bytes} {n : Nat}
    {state between : Recorded σ × ω}
    (h : Action.Continues (receiveRound wanted timeout everything deadline) n [] state got
      between) :
    ∃ calls, between.1.calls = state.1.calls ++ calls ∧
      Approaches wanted timeout everything [] calls got := by
  refine h.invariant (fun got between => ∃ calls, between.1.calls = state.1.calls ++ calls ∧
    Approaches wanted timeout everything [] calls got) ?_ ⟨[], by simp, fun _ _ h => h⟩
  rintro got between ⟨calls, hcalls, hso⟩
  refine (receiveRound_ensures hcalls hso).mono ?_
  rintro result after ⟨calls, hcalls, hround⟩ next rfl
  exact ⟨calls, hcalls, hround⟩

end Transport

end TypedChannel
