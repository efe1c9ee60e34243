import TypedChannel.Proofs.Clock
import TypedChannel.Proofs.Transport.Recorded
/-!
# TypedChannel.Proofs.Transport.Stamped

A transport with a list of the calls made of it, and of when each of them began
and ended.

1. `Spans start calls last`: time passes only within the calls, from `start` to
   `last`.  `Spans.last_le` bounds how long that is: calls whose waits are given
   what is left of a deadline end no later than that, but for what they take
   beyond it.
2. `Paces view deadline x`: every wait among the calls that `x` makes is given
   what is left of the deadline at that moment.  It is closed under the
   constructs of an action, with a time that goes on from part to part.
3. `Stamped.receive_paces`: a receive gives its waits what is left of any
   deadline that its timeout upholds.
-/

namespace TypedChannel

open TypedChannel.Action

/-! ## Calls and times -/

/-- A call of a transport, with the time at which it began and the time at which it ended. -/
structure StampedCall where
  call : TransportCall
  began : Nat
  ended : Nat

namespace StampedCall

/-- If it is a wait, then one with this timeout. -/
def Given (timeout : Option Duration) (stamped : StampedCall) : Prop :=
  ∀ given result, stamped.call = .poll given result → given = timeout

/-- A wait is given what is left of the deadline when it begins.  If there is an end at all, that
is said of the times that can be told. -/
def OnTime (deadline : Deadline) (stamped : StampedCall) : Prop :=
  (deadline.at? ≠ none → stamped.began < Instant.limit) →
    stamped.Given (deadline.remaining ⟨stamped.began⟩)

/-- What a call takes beyond what it is given: a wait is given its timeout, anything else
nothing. -/
def overtime (stamped : StampedCall) : Nat :=
  match stamped.call with
  | .poll (some timeout) _ => stamped.ended - stamped.began - timeout.nanos
  | _ => stamped.ended - stamped.began

end StampedCall

/-- What `calls` take beyond what they are given. -/
def overtime : List StampedCall → Nat
  | [] => 0
  | stamped :: calls => stamped.overtime + overtime calls

/-- From `start` to `last` one call follows the other, and no time passes between them. -/
inductive Spans : Nat → List StampedCall → Nat → Prop
  | nil (start : Nat) : Spans start [] start
  | cons {stamped : StampedCall} {calls : List StampedCall} {last : Nat}
      (h : stamped.began ≤ stamped.ended) (rest : Spans stamped.ended calls last) :
      Spans stamped.began (stamped :: calls) last

namespace Spans

variable {start between last : Nat} {calls more : List StampedCall}

theorem one (stamped : StampedCall) (h : stamped.began ≤ stamped.ended) :
    Spans stamped.began [stamped] stamped.ended :=
  .cons h (.nil _)

theorem append (h : Spans start calls between) (h' : Spans between more last) :
    Spans start (calls ++ more) last := by
  induction h with
  | nil start => exact h'
  | cons hcall rest ih => exact .cons hcall (ih h')

theorem le (h : Spans start calls last) : start ≤ last := by
  induction h with
  | nil start => exact Nat.le_refl start
  | cons hcall rest ih => exact Nat.le_trans hcall ih

theorem began_mem (h : Spans start calls last) {stamped : StampedCall} (hmem : stamped ∈ calls) :
    start ≤ stamped.began ∧ stamped.began ≤ last := by
  induction h with
  | nil start => contradiction
  | cons hcall rest ih =>
      obtain rfl | htail := List.mem_cons.mp hmem
      · exact ⟨Nat.le_refl _, Nat.le_trans hcall rest.le⟩
      · obtain ⟨hfirst, hlast⟩ := ih htail
        exact ⟨Nat.le_trans hcall hfirst, hlast⟩

/-- Waits that are given what is left end by the deadline, or when they begin once it has passed.
So each call moves the later of the two by no more than it takes beyond what it is given. -/
theorem last_le {point : Instant} (h : Spans start calls last)
    (hontime : ∀ stamped ∈ calls, stamped.OnTime ⟨some point⟩) (htold : last < Instant.limit) :
    last ≤ max start point.nanos + overtime calls := by
  induction h with
  | nil start => exact Nat.le_add_right_of_le (Nat.le_max_left ..)
  | @cons stamped calls last hcall rest ih =>
      have hrest := ih (fun other hmem => hontime other (List.mem_cons_of_mem _ hmem)) htold
      have hthis : max stamped.ended point.nanos ≤
          max stamped.began point.nanos + stamped.overtime := by
        have hbegan : stamped.began < Instant.limit := by
          have hlast := rest.le
          omega
        have hgiven := hontime stamped List.mem_cons_self fun _ => hbegan
        obtain ⟨call, began, ended⟩ := stamped
        dsimp only at hcall hgiven ⊢
        cases call with
        | poll timeout result =>
            rw [hgiven timeout result rfl]
            show max ended point.nanos ≤
              max began point.nanos + (ended - began - (point.nanos - began))
            omega
        | read | write | flush | close =>
            show max ended point.nanos ≤ max began point.nanos + (ended - began)
            omega
      rw [overtime]
      omega

end Spans

/-! ## Stamping -/

/-- A transport and the calls made of it so far, the first one first, each with its times. -/
structure Stamped {ω : Type} [World ω] (clock : Clock ω) (σ : Type) where
  inner : σ
  calls : List StampedCall

namespace Stamped

variable {ω σ α ε : Type} [World ω] {clock : Clock ω}

/-- Run an operation of the transport within and write down how it ended, and its times. -/
@[inline] def stamping (call : Except ε α → TransportCall) (x : Action (σ × ω) ε α) :
    Action (Stamped clock σ × ω) ε α :=
  fun patience (s, before) => (x patience (s.inner, before)).map fun (result, (inner, after)) =>
    let stamped := ⟨call result, clock.now before, clock.now after⟩
    (result, ({ inner, calls := s.calls ++ [stamped] }, after))

instance [Transport ω σ] : Transport ω (Stamped clock σ) where
  kind s := Transport.kind ω s.inner
  readRaw room := stamping (.read room) (Transport.readRaw room)
  pollReadable timeout := stamping (.poll timeout) (Transport.pollReadable timeout)
  writeRaw bytes := stamping (.write bytes) (Transport.writeRaw bytes)
  flushRaw := stamping .flush Transport.flushRaw
  close := stamping (fun _ => .close) Transport.close

end Stamped

/-! ## Actions that take time -/

/-- The calls that a transport has answered so far, and what time it is. -/
structure Timeline where
  calls : List StampedCall
  now : Nat

/-- Between the two the transport has answered some more calls, which are all that took time, and
every wait among them was given what was left of the deadline. -/
def Paced (deadline : Deadline) (before after : Timeline) : Prop :=
  ∃ calls, after.calls = before.calls ++ calls ∧ Spans before.now calls after.now ∧
    ∀ stamped ∈ calls, stamped.OnTime deadline

namespace Paced

variable {deadline : Deadline} {before between after : Timeline}

theorem refl (timeline : Timeline) : Paced deadline timeline timeline :=
  ⟨[], (List.append_nil _).symm, .nil _, fun _ hmem => absurd hmem List.not_mem_nil⟩

theorem trans (h : Paced deadline before between) (h' : Paced deadline between after) :
    Paced deadline before after := by
  obtain ⟨calls, hcalls, hspans, hontime⟩ := h
  obtain ⟨more, hmore, hspans', hontime'⟩ := h'
  refine ⟨calls ++ more, ?_, hspans.append hspans', fun stamped hmem => ?_⟩
  · rw [hmore, hcalls, List.append_assoc]
  · exact (List.mem_append.mp hmem).elim (hontime stamped) (hontime' stamped)

theorem le (h : Paced deadline before after) : before.now ≤ after.now := by
  obtain ⟨_, -, hspans, -⟩ := h
  exact hspans.le

end Paced

/-- However `x` ends, it has given each of its waits what was left of the deadline. -/
def Paces {s ε α : Type} (view : s → Timeline) (deadline : Deadline) (x : Action s ε α)
    (state : s) : Prop :=
  x.Ensures state fun _ after => Paced deadline (view state) (view after)

namespace Paces

variable {s t ε ε' α β : Type} {view : s → Timeline} {deadline : Deadline} {state : s}

/-- What makes no calls and takes no time keeps to any deadline. -/
theorem idle {x : Action s ε α} (h : x.Ensures state fun _ after => view after = view state) :
    Paces view deadline x state :=
  h.mono fun _ after hsame => by
    rw [hsame]
    exact Paced.refl _

theorem pure (a : α) : Paces view deadline (Pure.pure a : Action s ε α) state :=
  idle (ensures_pure rfl)

theorem bind {x : Action s ε α} {f : α → Action s ε β} (hx : Paces view deadline x state)
    (hf : ∀ a after, (view state).now ≤ (view after).now → Paces view deadline (f a) after) :
    Paces view deadline (x >>= f) state := by
  refine Ensures.bind hx (fun a between hpaced => ?_) fun _ _ hpaced => hpaced
  exact (hf a between hpaced.le).mono fun _ _ hrest => hpaced.trans hrest

theorem attempt {x : Action s ε α} (hx : Paces view deadline x state) :
    Paces view deadline (Action.attempt x : Action s ε' (Except ε α)) state :=
  Ensures.attempt hx

theorem see_bind {g : s → α} {f : α → Action s ε β}
    (hf : Paces view deadline (f (g state)) state) : Paces view deadline (see g >>= f) state :=
  ensures_see_bind hf

/-- A step that makes no calls and takes no time, with something behind it. -/
theorem step_bind {g : s → α × s} {f : α → Action s ε β} (hsame : view (g state).2 = view state)
    (hf : Paces view deadline (f (g state).1) (g state).2) :
    Paces view deadline (step g >>= f) state := by
  refine ensures_step_bind (Ensures.mono hf fun _ after hpaced => ?_)
  rwa [hsame] at hpaced

/-- The rounds of a loop come one after the other. -/
theorem iterate {body : β → Action s ε (Round β α)} (start : β)
    (hbody : ∀ b between, (view state).now ≤ (view between).now →
      Paces view deadline (body b) between) :
    Paces view deadline (Action.iterate body start) state := by
  refine ensures_iterate (fun _ between => Paced deadline (view state) (view between))
    (Paced.refl _) fun b between hpaced => ?_
  refine (hbody b between hpaced.le).mono fun result after hround => ?_
  have hall := hpaced.trans hround
  cases result with
  | error e => exact hall
  | ok round =>
      cases round with
      | again next | done a => exact hall

/-- An action on the part of the state that the calls and the time are in. -/
theorem on {part : s → t} {put : t → s → s} {inner : t → Timeline} {x : Action t ε α}
    (hpart : inner (part state) = view state) (hput : ∀ after, view (put after state) = inner after)
    (hx : Paces inner deadline x (part state)) : Paces view deadline (x.on part put) state := by
  refine Ensures.on (Ensures.mono hx fun _ after hpaced => ?_)
  rwa [hput, ← hpart]

end Paces

/-! ## Receives -/

/-- No call that takes bytes or waits for them turns the clock back. -/
structure Forward {ω : Type} [World ω] (clock : Clock ω) (σ : Type) [Transport ω σ] : Prop where
  read : ∀ (room : Nat) (state : σ × ω),
    (Transport.readRaw room : Action (σ × ω) TransportError Bytes).Ensures state
      fun _ after => clock.now state.2 ≤ clock.now after.2
  poll : ∀ (timeout : Option Duration) (state : σ × ω),
    (Transport.pollReadable timeout : Action (σ × ω) TransportError Bool).Ensures state
      fun _ after => clock.now state.2 ≤ clock.now after.2

namespace Stamped

variable {ω σ α ε : Type} [World ω]

/-- The calls of a stamped transport and the time of its world. -/
def timeline {clock : Clock ω} (state : Stamped clock σ × ω) : Timeline :=
  ⟨state.1.calls, clock.now state.2⟩

/-- A call that is on time, whatever it answers. -/
theorem stamping_paces {clock : Clock ω} {deadline : Deadline} {state : Stamped clock σ × ω}
    {call : Except ε α → TransportCall} {x : Action (σ × ω) ε α}
    (hx : x.Ensures (state.1.inner, state.2) fun _ after => clock.now state.2 ≤ clock.now after.2)
    (hontime : ∀ result ended,
      StampedCall.OnTime deadline ⟨call result, clock.now state.2, ended⟩) :
    Paces timeline deadline (stamping call x) state := by
  intro patience result after hrun
  obtain ⟨⟨r, inner, world⟩, hinner, heq⟩ := Option.map_eq_some_iff.mp hrun
  cases heq
  refine ⟨_, rfl, Spans.one ⟨_, _, _⟩ (hx _ _ _ hinner), fun stamped hmem => ?_⟩
  rw [List.mem_singleton.mp hmem]
  exact hontime _ _

variable {clock : StillClock ω} [Transport ω σ] {deadline : Deadline}
  {state : Stamped clock.toClock σ × ω}

theorem readRaw_paces (forward : Forward clock.toClock σ) (room : Nat) :
    Paces timeline deadline (Transport.readRaw room : Action _ TransportError Bytes) state :=
  stamping_paces (forward.read room _) fun _ _ _ _ _ hpoll => nomatch hpoll

theorem pollReadable_paces (forward : Forward clock.toClock σ) {timeout : Option Duration}
    (hleft : (deadline.at? ≠ none → clock.now state.2 < Instant.limit) →
      timeout = deadline.remaining ⟨clock.now state.2⟩) :
    Paces timeline deadline (Transport.pollReadable timeout : Action _ TransportError Bool)
      state := by
  refine stamping_paces (forward.poll timeout _) fun result _ hlimit given _ hpoll => ?_
  cases hpoll
  exact hleft hlimit

theorem receiveRound_paces (forward : Forward clock.toClock σ) {since : Instant}
    {part : Deadline} (hpart : part.Upholds since deadline)
    (hsince : since.nanos ≤ clock.now state.2) (wanted : Nat) (timeout : Option Duration)
    (everything : Bool) (got : Bytes) :
    Paces timeline deadline (Transport.receiveRound wanted timeout everything part got) state := by
  unfold Transport.receiveRound
  by_cases hdone : wanted ≤ got.length
  · rw [if_pos hdone]
    exact Paces.pure _
  · rw [if_neg hdone]
    have hclock : clock.now (part.remainingNow state.2).2 = clock.now state.2 :=
      clock.now_remainingNow state.2 part
    refine Paces.step_bind (congrArg (Timeline.mk state.1.calls) hclock) ?_
    refine Paces.bind (pollReadable_paces forward fun hlimit => ?_) fun ready _ _ => ?_
    · dsimp only at hlimit ⊢
      rw [hclock] at hlimit ⊢
      exact (clock.remainingNow_eq state.2 part).trans (hpart.remaining_eq _ hsince hlimit)
    · cases ready with
      | false => exact Paces.idle (ensures_fail rfl)
      | true =>
          refine Paces.bind (Paces.attempt (readRaw_paces forward _)) fun result _ _ => ?_
          cases result with
          | error e =>
              dsimp only
              split
              · exact Paces.pure _
              · exact Paces.idle (ensures_fail rfl)
          | ok chunk =>
              dsimp only
              split
              · exact Paces.pure _
              · exact Paces.pure _

/-- A receive makes a deadline of its own, which upholds the one that its timeout is left of. -/
theorem receive_paces (forward : Forward clock.toClock σ) {timeout : Option Duration}
    (hgrants : deadline.Grants ⟨clock.now state.2⟩ timeout)
    (wanted : Nat) (everything : Bool) :
    Paces timeline deadline (Transport.receive wanted timeout everything) state := by
  unfold Transport.receive
  have hclock : clock.now (Deadline.startNow timeout state.2).2 = clock.now state.2 :=
    clock.now_startNow state.2 timeout
  refine Paces.step_bind (congrArg (Timeline.mk state.1.calls) hclock) ?_
  dsimp only
  rw [clock.startNow_eq state.2 timeout]
  refine Paces.iterate [] fun got between hlater => ?_
  exact receiveRound_paces forward hgrants (hclock ▸ hlater) wanted timeout everything got

end Stamped

end TypedChannel
