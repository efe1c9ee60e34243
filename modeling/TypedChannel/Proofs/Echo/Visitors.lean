import TypedChannel.Proofs.Echo.Service
import TypedChannel.Proofs.RoundTrip.Malformed
import TypedChannel.Proofs.Transport.Datagram
/-!
# TypedChannel.Proofs.Echo.Visitors

A socket to which whoever likes sends datagrams, of any bytes or none, until no
more come.

1. Between two datagrams nothing may come for a while, so that a readiness check
   finds nothing; behind the last one every check that ends finds nothing.
2. A receive that is content with the first bytes passes over empty datagrams
   and waits on.  It gives a datagram that is not empty, or the time is over when
   none comes after an empty one (`Visitors.receive_ends`).
-/

namespace TypedChannel.Cli

open TypedChannel.Action

variable {ω σ : Type}

/-- A socket that brings datagrams, and takes every reply whole.  Receives on it may take `stall`
of time. -/
structure Visitors (ω σ : Type) (stall : Duration) [World ω] [Transport ω σ] [Terminal ω] where
  /-- These datagrams are still to come, the first one first. -/
  Brings : σ × ω → List Bytes → Prop
  output : σ × ω → Output Bytes
  /-- How many readiness checks may still find nothing before the next datagram is there. -/
  pauses : σ × ω → Nat
  /-- For how many more looks at the clock it can tell the time that is `stall` later. -/
  looks : σ × ω → Nat
  /-- The patience that a readiness check takes once all datagrams have come. -/
  patience : Nat
  datagram : ∀ {state : σ × ω} {datagrams : List Bytes}, Brings state datagrams →
    Transport.kind ω state.1 = .datagram
  /-- Nobody asks the server to stop. -/
  running : ∀ {state : σ × ω} {datagrams : List Bytes}, Brings state datagrams →
    Terminal.isInterrupted state.2 = false
  poll : ∀ {state : σ × ω} {datagrams : List Bytes} (timeout : Duration), Brings state datagrams →
    datagrams ≠ [] → ∃ answer after,
      (Transport.pollReadable (some timeout) : Action (σ × ω) TransportError Bool).Returns state
          (.ok answer) after ∧
        Brings after datagrams ∧ output after = output state ∧ looks state ≤ looks after ∧
        if answer = true then pauses after = 0 else pauses after < pauses state
  idle : ∀ {state : σ × ω} (timeout : Duration), Brings state [] → ∃ after,
    (∀ enough, patience ≤ enough →
      (Transport.pollReadable (some timeout) : Action (σ × ω) TransportError Bool) enough state =
        some (.ok false, after)) ∧
      Brings after [] ∧ output after = output state ∧ looks state ≤ looks after
  read : ∀ {state : σ × ω} {first : Bytes} {others : List Bytes} {room : Nat},
    Brings state (first :: others) → pauses state = 0 → room ≠ 0 → ∃ after,
      (Transport.readRaw room : Action (σ × ω) TransportError Bytes).Returns state
          (.ok (first.take room)) after ∧
        Brings after others ∧ output after = output state ∧ looks state ≤ looks after
  write : ∀ {state : σ × ω} {datagrams : List Bytes} {bytes : Bytes}, Brings state datagrams →
    bytes ≠ [] → ∃ after,
      (Transport.writeRaw bytes : Action (σ × ω) TransportError Nat).Returns state
          (.ok bytes.length) after ∧
        Brings after datagrams ∧
        output after = { output state with written := (output state).written ++ [bytes] } ∧
        looks state ≤ looks after
  look : ∀ {state : σ × ω} {datagrams : List Bytes}, Brings state datagrams →
    Brings (state.1, (World.look state.2).2) datagrams ∧
      output (state.1, (World.look state.2).2) = output state ∧
      pauses (state.1, (World.look state.2).2) ≤ pauses state ∧
      looks state ≤ looks (state.1, (World.look state.2).2) + 1 ∧
      (looks state ≠ 0 → ((World.look state.2).1.after? stall).isSome)
  note : ∀ {state : σ × ω} {datagrams : List Bytes} (event : Log.Event), Brings state datagrams →
    Brings (state.1, World.note event state.2) datagrams ∧
      output (state.1, World.note event state.2) = output state ∧
      looks state ≤ looks (state.1, World.note event state.2)
  print : ∀ {state : σ × ω} {datagrams : List Bytes} (text : String), Brings state datagrams →
    Brings (state.1, Terminal.print text state.2) datagrams ∧
      output (state.1, Terminal.print text state.2) =
        { output state with printed := (output state).printed ++ text } ∧
      looks state ≤ looks (state.1, Terminal.print text state.2)

namespace Visitors

variable [World ω] [Transport ω σ] [Terminal ω] {stall : Duration}

/-- Some rounds into a receive that is at `state`, with nothing received, a readiness check for as
long as is left of the deadline finds nothing: none of `rest` is still to come, or a pause comes
before the first. -/
def Late (visitors : Visitors ω σ stall) (room : Nat) (deadline : Deadline) (state : σ × ω)
    (rest : List Bytes) : Prop :=
  ∃ n asking after,
    Continues (Transport.receiveRound room (some stall) false deadline) n [] state [] asking ∧
    (Transport.pollReadable (deadline.remainingNow asking.2).1 :
      Action (σ × ω) TransportError Bool).Returns
        (asking.1, (deadline.remainingNow asking.2).2) (.ok false) after ∧
    visitors.Brings (asking.1, (deadline.remainingNow asking.2).2) rest ∧
    (rest = [] ∨ visitors.pauses (asking.1, (deadline.remainingNow asking.2).2) ≠ 0)

/-- One more round before does not matter. -/
theorem Late.again {visitors : Visitors ω σ stall} {room : Nat} {deadline : Deadline}
    {state between : σ × ω} {rest : List Bytes}
    (hround : (Transport.receiveRound room (some stall) false deadline []).Returns state
      (.ok (.again [])) between) (h : visitors.Late room deadline between rest) :
    visitors.Late room deadline state rest := by
  obtain ⟨n, asking, after, hrounds, hpoll, hend⟩ := h
  exact ⟨n + 1, asking, after, .again hround hrounds, hpoll, hend⟩

/-- Between the two nothing was put out and the clock was looked at so often at most; these
datagrams are still to come. -/
structure Waited (visitors : Visitors ω σ stall) (before after : σ × ω) (rest : List Bytes)
    (looks : Nat) : Prop where
  brings : visitors.Brings after rest
  output : visitors.output after = visitors.output before
  looks : visitors.looks before ≤ visitors.looks after + looks

theorem Waited.trans {visitors : Visitors ω σ stall} {before between after : σ × ω}
    {left rest : List Bytes} {looks more all : Nat} (h : visitors.Waited before between left looks)
    (h' : visitors.Waited between after rest more) (hall : looks + more ≤ all) :
    visitors.Waited before after rest all where
  brings := h'.brings
  output := h'.output.trans h.output
  looks := by
    have hfirst := h.looks
    have hsecond := h'.looks
    omega

/-- What is below a channel while it does not ask for datagrams: nothing to draw from. -/
def still (visitors : Visitors ω σ stall) (before : σ × ω) (rest : List Bytes) (looks : Nat) :
    Supply ω σ where
  Holds state pieces := pieces = [] ∧ visitors.Waited before state rest looks
  timed := false
  whole := true
  receive h := by
    obtain ⟨hnone, -⟩ := h
    contradiction
  look htimed := by contradiction
  note event h := by
    obtain ⟨hpieces, hwaited⟩ := h
    obtain ⟨hbrings, hsame, hlooks⟩ := visitors.note event hwaited.brings
    have hnoted : visitors.Waited _ _ rest 0 := ⟨hbrings, hsame, hlooks⟩
    exact ⟨hpieces, hwaited.trans hnoted (Nat.le_refl looks)⟩

/-- Where replies go, while these datagrams are still to come. -/
def replies (visitors : Visitors ω σ stall) (before : σ × ω) (rest : List Bytes) : Intake ω σ := by
  refine .ofWrites (fun state pieces => visitors.Brings state rest ∧
    visitors.output state = { visitors.output before with
      written := (visitors.output before).written ++ datagrams pieces } ∧
    visitors.looks before ≤ visitors.looks state) ?write ?empty ?note
  case write =>
    rintro state pieces piece ⟨hbrings, houtput, hlooks⟩ hpiece
    obtain ⟨after, hwrite, hafter, hmore, hkept⟩ := visitors.write hbrings hpiece
    exact ⟨after, hwrite, hafter, by simp [hmore, houtput, hpiece], Nat.le_trans hlooks hkept⟩
  case empty =>
    rintro state pieces ⟨hbrings, houtput, hlooks⟩
    exact ⟨hbrings, by simpa using houtput, hlooks⟩
  case note =>
    rintro transport world pieces event ⟨hbrings, houtput, hlooks⟩
    obtain ⟨hafter, hsame, hkept⟩ := visitors.note event hbrings
    exact ⟨hafter, hsame.trans houtput, Nat.le_trans hlooks hkept⟩

/-- A look at what is left of a deadline. -/
theorem remainingNow_waits (visitors : Visitors ω σ stall) {deadline : Deadline} {state : σ × ω}
    {datagrams : List Bytes} (hdeadline : deadline.at?.isSome)
    (hbrings : visitors.Brings state datagrams) : ∃ left,
      (deadline.remainingNow state.2).1 = some left ∧
        visitors.Waited state (state.1, (deadline.remainingNow state.2).2) datagrams 1 ∧
        visitors.pauses (state.1, (deadline.remainingNow state.2).2) ≤ visitors.pauses state := by
  obtain ⟨time, htime⟩ := Option.isSome_iff_exists.mp hdeadline
  obtain ⟨hafter, hsame, hpauses, hlooks, -⟩ := visitors.look hbrings
  have hnow : deadline.remainingNow state.2 =
      (some (time.since (World.look state.2).1), (World.look state.2).2) := by
    simp [Deadline.remainingNow, Deadline.remaining, htime]
  rw [hnow]
  exact ⟨_, rfl, ⟨hafter, hsame, hlooks⟩, hpauses⟩

/-- The rounds of a receive.  Each one but the last takes an empty datagram. -/
theorem receive_loops (visitors : Visitors ω σ stall) {room : Nat} {deadline : Deadline}
    (hroom : room ≠ 0) (hdeadline : deadline.at?.isSome) (datagrams : List Bytes) (state : σ × ω)
    (hbrings : visitors.Brings state datagrams) : ∃ skipped rest after,
      visitors.Waited state after rest (skipped + 1) ∧
      ((∃ first, first ≠ [] ∧ datagrams = List.replicate skipped [] ++ first :: rest ∧
          Loops (Transport.receiveRound room (some stall) false deadline) [] state
            (.ok (first.take room)) after) ∨
        (skipped = 0 → datagrams = [] ∨ visitors.pauses state ≠ 0) ∧
          datagrams = List.replicate skipped [] ++ rest ∧ visitors.Late room deadline state rest ∧
          Loops (Transport.receiveRound room (some stall) false deadline) [] state
            (.error (.timeout stall room 0)) after) := by
  have hmissing : ([] : Bytes).length < room := Nat.pos_of_ne_zero hroom
  obtain ⟨left, hleft, hlooked, hfewer⟩ := visitors.remainingNow_waits hdeadline hbrings
  cases datagrams with
  | nil =>
      obtain ⟨after, hpoll, hafter, hsame, hlooks⟩ := visitors.idle left hlooked.brings
      rw [← hleft] at hpoll
      have hpolled : visitors.Waited _ after [] 0 := ⟨hafter, hsame, hlooks⟩
      have hround := Transport.receiveRound_times_out (some stall) false hmissing
        ⟨visitors.patience, hpoll⟩
      have hlate : visitors.Late room deadline state [] :=
        ⟨0, state, after, .start [] state, ⟨visitors.patience, hpoll⟩, hlooked.brings, .inl rfl⟩
      exact ⟨0, [], after, hlooked.trans hpolled (Nat.le_refl 1),
        .inr ⟨fun _ => .inl rfl, rfl, hlate, .failed hround⟩⟩
  | cons first others =>
      obtain ⟨answer, polled, hpoll, hafter, hsame, hlooks, hanswer⟩ :=
        visitors.poll left hlooked.brings (List.cons_ne_nil first others)
      rw [← hleft] at hpoll
      have hpolled : visitors.Waited _ polled (first :: others) 0 := ⟨hafter, hsame, hlooks⟩
      have hready := hlooked.trans hpolled (Nat.le_refl 1)
      cases answer with
      | false =>
          simp only [Bool.false_eq_true, if_false] at hanswer
          have hround := Transport.receiveRound_times_out (some stall) false hmissing hpoll
          have hlate : visitors.Late room deadline state (first :: others) :=
            ⟨0, state, polled, .start [] state, hpoll, hlooked.brings,
              .inr (Nat.ne_zero_of_lt hanswer)⟩
          exact ⟨0, first :: others, polled, hready,
            .inr ⟨fun _ => .inr (by omega), rfl, hlate, .failed hround⟩⟩
      | true =>
          obtain ⟨taken, hread, hbrings, hkept, hmore⟩ := visitors.read hafter hanswer hroom
          have hgiven : visitors.Waited polled taken others 0 := ⟨hbrings, hkept, hmore⟩
          have htaken := hready.trans hgiven (Nat.le_refl 1)
          -- An empty datagram is gone for good, and the time that it took is not given back.
          by_cases hfirst : first = []
          · subst hfirst
            have hround := Transport.receiveRound_again (some stall) false hmissing hpoll hread
              (.inl ⟨rfl, .inr List.take_nil⟩)
            rw [List.take_nil, List.nil_append] at hround
            obtain ⟨skipped, rest, after, hafter, hend⟩ :=
              visitors.receive_loops hroom hdeadline others taken htaken.brings
            refine ⟨skipped + 1, rest, after, htaken.trans hafter (by omega), ?_⟩
            obtain ⟨next, hnext, hothers, hloops⟩ | ⟨-, hothers, hlate, hloops⟩ := hend
            · exact .inl ⟨next, hnext, congrArg (List.cons []) hothers, .again hround hloops⟩
            · exact .inr ⟨fun hzero => absurd hzero (Nat.succ_ne_zero skipped),
                congrArg (List.cons []) hothers, hlate.again hround, .again hround hloops⟩
          · have hround := Transport.receiveRound_first (some stall) hmissing
              (by simp [hroom, hfirst]) hpoll hread
            exact ⟨0, others, taken, htaken, .inl ⟨first, hfirst, rfl, .done hround⟩⟩

/-- A receive that begins when a datagram is there.  It gives the first one that is not empty,
unless none comes in time behind those that are. -/
theorem receive_ends (visitors : Visitors ω σ stall) {room : Nat} {datagrams : List Bytes}
    {state : σ × ω} (hroom : room ≠ 0) (hbrings : visitors.Brings state datagrams)
    (hpauses : visitors.pauses state = 0) (hthere : datagrams ≠ [])
    (hlooks : visitors.looks state ≠ 0) : ∃ skipped rest after,
      visitors.Waited state after rest (skipped + 2) ∧
      ((∃ first, first ≠ [] ∧ datagrams = List.replicate skipped [] ++ first :: rest ∧
          (Transport.receive room (some stall) false :
            Action (σ × ω) TransportError Bytes).Returns state (.ok (first.take room)) after) ∨
        skipped ≠ 0 ∧ datagrams = List.replicate skipped [] ++ rest ∧
          visitors.Late room (Deadline.startNow (some stall) state.2).1
            (state.1, (Deadline.startNow (some stall) state.2).2) rest ∧
          (Transport.receive room (some stall) false :
            Action (σ × ω) TransportError Bytes).Returns state (.error (.timeout stall room 0))
              after) := by
  obtain ⟨hlooked, hsame, hfewer, hmore, hclock⟩ := visitors.look hbrings
  have hstarted : visitors.Waited state (state.1, (Deadline.startNow (some stall) state.2).2)
      datagrams 1 := ⟨hlooked, hsame, hmore⟩
  obtain ⟨skipped, rest, after, hafter, hend⟩ :=
    visitors.receive_loops hroom (hclock hlooks) datagrams _ hstarted.brings
  refine ⟨skipped, rest, after, hstarted.trans hafter (by omega), ?_⟩
  obtain ⟨first, hfirst, hall, hloops⟩ | ⟨hnone, hall, hlate, hloops⟩ := hend
  · exact .inl ⟨first, hfirst, hall, (returns_step _).bind hloops.returns⟩
  · refine .inr ⟨fun hzero => ?_, hall, hlate, (returns_step _).bind hloops.returns⟩
    obtain hempty | hpause := hnone hzero
    · exact hthere hempty
    · exact hpause (Nat.eq_zero_of_le_zero (hpauses ▸ hfewer))

end Visitors

end TypedChannel.Cli
