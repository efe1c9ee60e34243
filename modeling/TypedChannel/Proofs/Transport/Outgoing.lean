import TypedChannel.Proofs.Host.Link
import TypedChannel.Proofs.Transport.Transmit
/-!
# TypedChannel.Proofs.Transport.Outgoing

What a transmit makes of every sequence of answers.

* `Transmission.resume`: from each of its calls on, a transmission is one of
  what was not accepted before.  Every other fact about a call in the middle is
  read off from there.
* `Transmitted bytes calls result`: the writes offer each byte in its place, and
  the last of them decides the result.
* `Outlet`: a transport whose writes all come back.  It may accept any part of
  what it is offered, none of it too, and fail as it likes; only interrupted it
  must not be for ever.  Every link is one, whatever its script says.  From a
  `FullOutlet` flushes and the end come back as well.
-/

namespace TypedChannel

open TypedChannel.Action

/-! ## From a call on -/

namespace Transmission

variable {bytes left offered : Bytes} {calls before rest : List TransportCall}
  {call : TransportCall} {failure : Option TransportError}

/-- From each of its calls on, a transmission is one of what was not accepted before it. -/
theorem resume (h : Transmission bytes (before ++ call :: rest) left failure) :
    ∃ remaining, TypedChannel.accepted before ++ remaining = bytes ∧
      Transmission remaining (call :: rest) left failure := by
  induction before generalizing bytes with
  | nil => exact ⟨bytes, rfl, h⟩
  | cons first before ih =>
      rw [List.cons_append] at h
      generalize hmore : before ++ call :: rest = more at h
      cases h with
      | accepted pending moves next =>
          subst hmore
          obtain ⟨remaining, hall, hrest⟩ := ih next
          exact ⟨remaining, by simp [hall], hrest⟩
      | interrupted pending again next =>
          subst hmore
          obtain ⟨remaining, hall, hrest⟩ := ih next
          exact ⟨remaining, by simpa using hall, hrest⟩
      | refused pending | failed pending final => simp at hmore

/-- The first call offers everything. -/
theorem offers (h : Transmission bytes (call :: rest) left failure) :
    bytes ≠ [] ∧ ∃ answer, call = .write bytes answer := by
  cases h with
  | accepted pending _ _ | interrupted pending _ _ | refused pending | failed pending _ =>
      exact ⟨pending, _, rfl⟩

theorem of_refused (h : Transmission bytes (.write offered (.ok 0) :: rest) left failure) :
    rest = [] ∧ failure = some .closed := by
  cases h with
  | accepted pending moves next => exact absurd rfl moves
  | refused pending => exact ⟨rfl, rfl⟩

theorem of_failed {e : TransportError} (final : e.isInterrupted = false)
    (h : Transmission bytes (.write offered (.error e) :: rest) left failure) :
    rest = [] ∧ failure = some e := by
  cases h with
  | interrupted pending again next =>
      rw [final] at again
      contradiction
  | failed pending final => exact ⟨rfl, rfl⟩

/-- An interrupted write is made again. -/
theorem of_interrupted {e : TransportError} (again : e.isInterrupted = true)
    (h : Transmission bytes (.write offered (.error e) :: rest) left failure) :
    ∃ answer more, rest = .write offered answer :: more := by
  cases h with
  | interrupted pending again next =>
      cases rest with
      | nil =>
          cases next
          exact absurd rfl pending
      | cons call more =>
          obtain ⟨-, answer, rfl⟩ := next.offers
          exact ⟨answer, more, rfl⟩
  | failed pending final =>
      rw [final] at again
      contradiction

/-- What a transmit fails with comes from its last write. -/
theorem failure_source {e : TransportError} (h : Transmission bytes calls left (some e)) :
    ∃ before offered,
      (calls = before ++ [.write offered (.ok 0)] ∧ e = .closed) ∨
        calls = before ++ [.write offered (.error e)] ∧ e.isInterrupted = false := by
  generalize hfailure : some e = failure at h
  induction h with
  | finished => contradiction
  | @accepted bytes _ n calls _ _ _ _ ih =>
      obtain ⟨before, offered, hlast⟩ := ih hfailure
      refine ⟨.write bytes (.ok n) :: before, offered, ?_⟩
      obtain ⟨rfl, he⟩ | ⟨rfl, he⟩ := hlast
      · exact .inl ⟨rfl, he⟩
      · exact .inr ⟨rfl, he⟩
  | @interrupted bytes _ e' calls _ _ _ _ ih =>
      obtain ⟨before, offered, hlast⟩ := ih hfailure
      refine ⟨.write bytes (.error e') :: before, offered, ?_⟩
      obtain ⟨rfl, he⟩ | ⟨rfl, he⟩ := hlast
      · exact .inl ⟨rfl, he⟩
      · exact .inr ⟨rfl, he⟩
  | @refused bytes _ =>
      cases hfailure
      exact ⟨[], bytes, .inl ⟨rfl, rfl⟩⟩
  | @failed bytes _ _ final =>
      cases hfailure
      exact ⟨[], bytes, .inr ⟨rfl, final⟩⟩

/-- What is to be sent can be sent. -/
theorem exists_finished (bytes : Bytes) : ∃ calls, Transmission bytes calls [] none := by
  by_cases hbytes : bytes = []
  · subst hbytes
    exact ⟨[], .finished⟩
  · have hlength : bytes.length ≠ 0 := by simpa using hbytes
    exact ⟨[.write bytes (.ok bytes.length)], .accepted hbytes hlength (by simpa using .finished)⟩

end Transmission

/-! ## The whole of it -/

/-- How the writes of a transmit of `bytes` go together with its result. -/
structure Transmitted (bytes : Bytes) (calls : List TransportCall)
    (result : Except TransportError Unit) : Prop where
  /-- Every call is a write, and offers all that the ones before it have left. -/
  offered : ∀ before call rest, calls = before ++ call :: rest → ∃ left answer,
    call = .write left answer ∧ left ≠ [] ∧ accepted before ++ left = bytes
  /-- At every point what was accepted is the front of what is to be sent. -/
  front : ∀ before rest, calls = before ++ rest → accepted before <+: bytes
  complete : result = .ok () ↔ accepted calls = bytes
  /-- A write that accepts nothing is the last, and so is one that fails. -/
  refused : ∀ before left rest, calls = before ++ .write left (.ok 0) :: rest →
    rest = [] ∧ result = .error .closed
  failed : ∀ before left e rest, calls = before ++ .write left (.error e) :: rest →
    e.isInterrupted = false → rest = [] ∧ result = .error e
  /-- An interrupted one is followed by another of the same bytes. -/
  retried : ∀ before left e rest, calls = before ++ .write left (.error e) :: rest →
    e.isInterrupted = true → ∃ answer more, rest = .write left answer :: more
  /-- Nothing else makes a transmit fail. -/
  surfaced : ∀ e, result = .error e → ∃ before left,
    (calls = before ++ [.write left (.ok 0)] ∧ e = .closed) ∨
      calls = before ++ [.write left (.error e)] ∧ e.isInterrupted = false
  /-- For nothing to send no write is made. -/
  nothing : bytes = [] → calls = [] ∧ result = .ok ()

theorem Transmission.transmitted {bytes left : Bytes} {calls : List TransportCall}
    {result : Except TransportError Unit}
    (h : Transmission bytes calls left (failure? result)) : Transmitted bytes calls result where
  offered := by
    rintro before call rest rfl
    obtain ⟨remaining, hall, hrest⟩ := h.resume
    obtain ⟨hpending, answer, hcall⟩ := hrest.offers
    exact ⟨remaining, answer, hcall, hpending, hall⟩
  front := by
    rintro before rest rfl
    have hall := h.accepted_append
    rw [TypedChannel.accepted_append, List.append_assoc] at hall
    exact ⟨_, hall⟩
  complete := by
    have hall := h.accepted_append
    rw [← failure?_eq_none, h.failure_eq_none_iff]
    constructor
    · rintro rfl
      simpa using hall
    · intro hcalls
      rw [hcalls] at hall
      simpa using hall
  refused := by
    rintro before offered rest rfl
    obtain ⟨remaining, -, hrest⟩ := h.resume
    rw [← failure?_eq_some]
    exact hrest.of_refused
  failed := by
    rintro before offered e rest rfl final
    obtain ⟨remaining, -, hrest⟩ := h.resume
    rw [← failure?_eq_some]
    exact hrest.of_failed final
  retried := by
    rintro before offered e rest rfl again
    obtain ⟨remaining, -, hrest⟩ := h.resume
    exact hrest.of_interrupted again
  surfaced := by
    rintro e rfl
    exact h.failure_source
  nothing := by
    rintro rfl
    cases result with
    | ok answer =>
        cases h
        · exact ⟨rfl, rfl⟩
        · contradiction
        · contradiction
    | error e => cases h <;> contradiction

/-- Where a transmission can go on, nothing was lost, and all the rest can still be accepted. -/
theorem Transmission.Leads.transmitted {bytes left : Bytes} {calls : List TransportCall}
    (h : Leads bytes calls left) :
    TypedChannel.accepted calls ++ left = bytes ∧
      ∃ more, Transmitted bytes (calls ++ more) (.ok ()) := by
  obtain ⟨more, hmore⟩ := exists_finished left
  have hall := h more [] none hmore
  constructor
  · rw [← hmore.accepted_of_finished, ← TypedChannel.accepted_append, hall.accepted_of_finished]
  · exact ⟨more, hall.transmitted⟩

/-! ## Transmits that end -/

/-- Where every write comes back a transmit comes to its end, if each that is interrupted leaves
less of something that cannot become less for ever.  A round that is not the last leaves fewer
bytes, or the same bytes and less of that. -/
theorem Transport.transmit_completes {ω σ μ : Type} [Transport ω σ] [WellFoundedRelation μ]
    (ready : σ × ω → Prop) (fruitless : σ × ω → μ)
    (hwrite : ∀ bytes state, ready state →
      (writeRaw bytes : Action (σ × ω) TransportError Nat).Completes state fun result after =>
        ready after ∧ ∀ e, result = .error e → e.isInterrupted = true →
          WellFoundedRelation.rel (fruitless after) (fruitless state))
    (bytes : Bytes) {state : σ × ω} (hready : ready state) :
    (transmit bytes : Action (σ × ω) TransportError Unit).Completes state
      fun _ after => ready after := by
  refine completes_iterate (fun _ => ready) (fun left between => (left.length, fruitless between))
    (fun left between hbetween => ?_) hready
  by_cases hdone : left = []
  · subst hdone
    exact completes_pure hbetween
  · obtain ⟨result, after, hreturns, hafter, hless⟩ := hwrite left between hbetween
    refine ⟨_, after, transmitRound_returns hdone hreturns, ?_⟩
    cases result with
    | ok n =>
        by_cases hn : n = 0
        · simpa only [roundEnd, if_pos hn] using hafter
        · have hlength := List.length_pos_iff.mpr hdone
          have hshorter : (left.drop n).length < left.length := by
            rw [List.length_drop]
            omega
          simpa only [roundEnd, if_neg hn] using ⟨hafter, Prod.Lex.left _ _ hshorter⟩
    | error e =>
        cases he : e.isInterrupted with
        | false => simpa only [roundEnd, he, Bool.false_eq_true, if_false] using hafter
        | true => simpa only [roundEnd, he, if_true] using ⟨hafter, .right _ (hless e rfl he)⟩

/-- A transport whose writes come back. -/
structure Outlet (ω σ : Type) [Transport ω σ] where
  Ready : σ × ω → Prop
  /-- How many more times in a row a write can be interrupted. -/
  interruptions : σ × ω → Nat
  write : ∀ {state : σ × ω} (bytes : Bytes), Ready state → ∃ result after,
    (Transport.writeRaw bytes : Action (σ × ω) TransportError Nat).Returns state result after ∧
      Ready after ∧ ∀ e, result = .error e → e.isInterrupted = true →
        interruptions after < interruptions state

namespace Outlet

variable {ω σ : Type} [Transport ω σ]

/-- To write its calls down changes nothing about an outlet. -/
def recorded (outlet : Outlet ω σ) : Outlet ω (Recorded σ) where
  Ready state := outlet.Ready (state.1.inner, state.2)
  interruptions state := outlet.interruptions (state.1.inner, state.2)
  write bytes hready := by
    obtain ⟨result, after, hwrite, hafter⟩ := outlet.write bytes hready
    exact ⟨result, _, Recorded.returns_recording hwrite, hafter⟩

theorem transmit_completes (outlet : Outlet ω σ) (bytes : Bytes) {state : σ × ω}
    (hready : outlet.Ready state) :
    (Transport.transmit bytes : Action (σ × ω) TransportError Unit).Completes state
      fun _ after => outlet.Ready after :=
  Transport.transmit_completes outlet.Ready outlet.interruptions
    (fun bytes _ hready => outlet.write bytes hready) bytes hready

end Outlet

/-- An outlet that comes back from a flush and from its end too. -/
structure FullOutlet (ω σ : Type) [World ω] [Transport ω σ] extends Outlet ω σ where
  /-- What the log is told does not matter. -/
  note : ∀ {state : σ × ω} (event : Log.Event), Ready state →
    Ready (state.1, World.note event state.2)
  flush : ∀ {state : σ × ω}, Ready state →
    (Transport.flushRaw : Action (σ × ω) TransportError Unit).Completes state
      fun _ after => Ready after
  close : ∀ {state : σ × ω}, Ready state →
    (Transport.close : Action (σ × ω) Empty Unit).Completes state fun _ _ => True

def FullOutlet.recorded {ω σ : Type} [World ω] [Transport ω σ] (outlet : FullOutlet ω σ) :
    FullOutlet ω (Recorded σ) where
  toOutlet := outlet.toOutlet.recorded
  note event hready := outlet.note event hready
  flush hready := Recorded.completes_recording (outlet.flush hready)
  close hready := Recorded.completes_recording (outlet.close hready)

/-- A link, whatever its script makes of writes. -/
def Link.outlet (number : Nat) : Outlet Host Handle where
  Ready state := (∃ kind, state.1 = .link number kind) ∧
    ∃ link, state.2.links[number]? = some link
  interruptions state := (state.2.links[number]?).elim 0 (·.writes.length)
  write := by
    intro state bytes hready
    obtain ⟨handle, host⟩ := state
    obtain ⟨⟨kind, rfl⟩, link, hlink⟩ := hready
    cases hwrite : link.write bytes with
    | mk answer after =>
        have hset := Handle.getElem?_set_link hlink after
        cases answer with
        | ok accepted =>
            obtain ⟨delivered, hdelivered, -⟩ :=
              Handle.deliver_link { host with links := host.links.set number after } accepted hset
            refine ⟨_, _, Handle.write_returns hlink hwrite,
              ⟨⟨kind, rfl⟩, delivered, hdelivered⟩, ?_⟩
            intro e he
            contradiction
        | error stop =>
            have hshorter := Link.writes_of_error hwrite
            have hfewer : ((host.links.set number after)[number]?).elim 0 (·.writes.length) <
                (host.links[number]?).elim 0 (·.writes.length) := by
              simpa only [hset, hlink, Option.elim_some] using hshorter
            cases stop with
            | closed =>
                exact ⟨_, _, Handle.write_closed hlink hwrite, ⟨⟨kind, rfl⟩, after, hset⟩,
                  fun _ _ _ => hfewer⟩
            | failed e =>
                exact ⟨_, _, Handle.write_fails hlink hwrite, ⟨⟨kind, rfl⟩, after, hset⟩,
                  fun _ _ _ => hfewer⟩

/-- Its flushes and its end are not scripted. -/
def Link.fullOutlet (number : Nat) : FullOutlet Host Handle where
  toOutlet := Link.outlet number
  note _ hready := hready
  flush := by
    rintro ⟨handle, host⟩ ⟨⟨kind, rfl⟩, link, hlink⟩
    have hflush : (Handle.atLink number () (fun link => ((), link.logged .flush)) :
        Action (Handle × Host) TransportError Unit).Returns (.link number kind, host) _ _ :=
      Handle.atLink_returns (.link number kind) hlink rfl
    exact ⟨_, _, hflush, ⟨kind, rfl⟩, link.logged .flush, Handle.getElem?_set_link hlink _⟩
  close := by
    rintro ⟨handle, host⟩ -
    exact ⟨.ok (), (handle, handle.release host), ⟨0, fun _ _ => rfl⟩, trivial⟩

/-! ## Every sequence of answers -/

section Loop

variable {ω σ : Type} [Transport ω σ]

/-- After any number of rounds what was accepted and what is left are the bytes that are to be
sent, and the calls so far are the beginning of some that send them all.  When a transmit ends, its
calls and its result go together.  Into an outlet it does end. -/
theorem transmit_faithful (bytes : Bytes) (state : Recorded σ × ω) :
    (∀ n left between, Continues (Transport.transmitRound (ω := ω)) n bytes state left between →
      ∃ calls, between.1.calls = state.1.calls ++ calls ∧ accepted calls ++ left = bytes ∧
        ∃ more, Transmitted bytes (calls ++ more) (.ok ())) ∧
    ((Transport.transmit bytes : Action (Recorded σ × ω) TransportError Unit).Ensures state
      fun result after => ∃ calls, after.1.calls = state.1.calls ++ calls ∧
        Transmitted bytes calls result) ∧
    ∀ outlet : Outlet ω σ, outlet.Ready (state.1.inner, state.2) → ∃ result after calls,
      (Transport.transmit bytes : Action (Recorded σ × ω) TransportError Unit).Returns state result
          after ∧
        after.1.calls = state.1.calls ++ calls ∧ Transmitted bytes calls result := by
  have hends : (Transport.transmit bytes : Action (Recorded σ × ω) TransportError Unit).Ensures
      state fun result after => ∃ calls, after.1.calls = state.1.calls ++ calls ∧
        Transmitted bytes calls result := by
    refine (Transport.transmit_ensures bytes state).mono ?_
    rintro result after ⟨calls, hcalls, left, hall⟩
    exact ⟨calls, hcalls, hall.transmitted⟩
  refine ⟨?_, hends, ?_⟩
  · intro n left between hrounds
    obtain ⟨calls, hcalls, hleads⟩ := Transport.transmit_continues hrounds
    exact ⟨calls, hcalls, hleads.transmitted⟩
  · intro outlet hready
    obtain ⟨result, after, hreturns, -⟩ := outlet.recorded.transmit_completes bytes hready
    obtain ⟨calls, hcalls, hall⟩ := hends.of_returns hreturns
    exact ⟨result, after, calls, hreturns, hcalls, hall⟩

end Loop

/-- A link interrupts the first write, takes one byte of the second, interrupts the third and takes
nothing of the fourth: the transmit ends there, with one byte accepted. -/
theorem transmit_faithful_scripted : ∃ after,
    (Transport.transmit [1, 2, 3] : Action (Recorded Handle × Host) TransportError Unit).Returns
        (⟨.link 0 .stream, []⟩, { links := [{ writes := [.failed (.ofErrno .interrupted), .atMost 1,
          .failed (.ofErrno .interrupted), .atMost 0] }] }) (.error .closed) after ∧
      accepted after.1.calls = [1] ∧ Transmitted [1, 2, 3] after.1.calls (.error .closed) := by
  obtain ⟨result, after, calls, hreturns, hcalls, hall⟩ :=
    (transmit_faithful [1, 2, 3] (⟨.link 0 .stream, []⟩, { links := [{
      writes := [.failed (.ofErrno .interrupted), .atMost 1, .failed (.ofErrno .interrupted),
        .atMost 0] }] })).2.2 (Link.outlet 0) ⟨⟨_, rfl⟩, _, rfl⟩
  have hend : result = .error .closed ∧ accepted after.1.calls = [1] := by
    obtain ⟨enough, hrun⟩ := hreturns
    cases hrun (enough + 4) (Nat.le_add_right enough 4)
    exact ⟨rfl, rfl⟩
  rw [List.nil_append] at hcalls
  subst hcalls
  obtain ⟨rfl, haccepted⟩ := hend
  exact ⟨after, hreturns, haccepted, hall⟩

end TypedChannel
