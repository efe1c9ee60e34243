import TypedChannel.Proofs.Transport.Contract
/-!
# TypedChannel.Proofs.Transport.Supply

What a channel sees of a transport: an operation of the channel hands its bytes
over in pieces, one for each transmit, and asks for them in pieces, one for
each receive.

1. An `Intake` takes every transmit whole, and a `Supply` serves every request
   with one piece.  What lies between them decides which transports are such.
2. A stream is an intake and a supply whichever way it cuts the bytes
   (`Sink.intake`, `Flow.supply`): where a piece ends does not matter to it.
3. A transport that carries every write whole, and answers every read with a
   whole piece, is one too (`Intake.ofWrites`, `Supply.ofReads`).

A request in a limited time looks at the clock and may find its time over;
`timed` says whether such requests are served as well.
-/

namespace TypedChannel

open TypedChannel.Action

variable {ω σ : Type}

/-! ## Deadlines -/

/-- Whether a request may be made with this timeout, if `timed` says whether it may have one. -/
def InTime (timed : Bool) (timeout : Option Duration) : Prop := timeout = none ∨ timed = true

/-- Whether it may be made with this deadline. -/
def Deadline.InTime (timed : Bool) (deadline : Deadline) : Prop :=
  deadline.at? = none ∨ timed = true

section Deadline

variable [World ω] {timed : Bool}

theorem Deadline.inTime_startNow {timeout : Option Duration}
    (h : TypedChannel.InTime timed timeout) (world : ω) :
    (Deadline.startNow timeout world).1.InTime timed := by
  obtain rfl | htimed := h
  · exact .inl rfl
  · exact .inr htimed

theorem Deadline.inTime_remainingNow {deadline : Deadline} (h : deadline.InTime timed)
    (world : ω) : TypedChannel.InTime timed (deadline.remainingNow world).1 := by
  obtain hnone | htimed := h
  · exact .inl (by simp [Deadline.remainingNow, hnone])
  · exact .inr htimed

/-- What stays as it is while one looks at the clock stays so while a deadline starts. -/
theorem Deadline.startNow_keeps {P : ω → Prop} {timeout : Option Duration} {world : ω}
    (h : TypedChannel.InTime timed timeout) (hworld : P world)
    (hlook : timed = true → P (World.look world).2) : P (Deadline.startNow timeout world).2 := by
  cases timeout with
  | none => exact hworld
  | some _ => exact hlook (by simpa [TypedChannel.InTime] using h)

/-- And while one asks what is left of it. -/
theorem Deadline.remainingNow_keeps {P : ω → Prop} {deadline : Deadline} {world : ω}
    (h : deadline.InTime timed) (hworld : P world)
    (hlook : timed = true → P (World.look world).2) : P (deadline.remainingNow world).2 := by
  unfold Deadline.remainingNow
  cases hat : deadline.at? with
  | none => exact hworld
  | some _ => exact hlook (by simpa [Deadline.InTime, hat] using h)

/-- What a receive with this timeout is to wait for at first. -/
def Deadline.firstWait (timeout : Option Duration) (world : ω) : Option Duration × ω :=
  (Deadline.startNow timeout world).1.remainingNow (Deadline.startNow timeout world).2

/-- What stays as it is whenever one looks at the clock stays so until the first wait. -/
theorem Deadline.firstWait_keeps {P : ω → Prop} (timeout : Option Duration) {world : ω}
    (hworld : P world) (hlook : ∀ {world : ω}, P world → P (World.look world).2) :
    P (Deadline.firstWait timeout world).2 := by
  have htime : TypedChannel.InTime true timeout := .inr rfl
  have hstarted := Deadline.startNow_keeps htime hworld fun _ => hlook hworld
  exact Deadline.remainingNow_keeps (Deadline.inTime_startNow htime world) hstarted
    fun _ => hlook hstarted

end Deadline

/-! ## The two sides -/

/-- Where what is transmitted goes. -/
structure Intake (ω σ : Type) [World ω] [Transport ω σ] where
  /-- These pieces were transmitted, the first one first. -/
  Holds : σ × ω → List Bytes → Prop
  transmit : ∀ {state : σ × ω} {pieces : List Bytes} (piece : Bytes), Holds state pieces →
    ∃ after,
      (Transport.transmit piece : Action (σ × ω) TransportError Unit).Returns state (.ok ()) after ∧
        Holds after (pieces ++ [piece])
  note : ∀ {transport : σ} {world : ω} {pieces : List Bytes} (event : Log.Event),
    Holds (transport, world) pieces → Holds (transport, World.note event world) pieces

/-- Where requests are served from. -/
structure Supply (ω σ : Type) [World ω] [Transport ω σ] where
  /-- These pieces are still to come, one for each request. -/
  Holds : σ × ω → List Bytes → Prop
  /-- Whether requests in a limited time are served. -/
  timed : Bool
  /-- Whether a request that is content with the first bytes is served with the whole piece. -/
  whole : Bool
  receive : ∀ {state : σ × ω} {piece : Bytes} {pieces : List Bytes} {timeout : Option Duration}
    {everything : Bool}, Holds state (piece :: pieces) → InTime timed timeout →
    (everything = true ∨ whole = true) → ∃ after,
      (Transport.receive piece.length timeout everything :
        Action (σ × ω) TransportError Bytes).Returns state (.ok piece) after ∧ Holds after pieces
  look : ∀ {transport : σ} {world : ω} {pieces : List Bytes}, timed = true →
    Holds (transport, world) pieces → Holds (transport, (World.look world).2) pieces
  note : ∀ {transport : σ} {world : ω} {pieces : List Bytes} (event : Log.Event),
    Holds (transport, world) pieces → Holds (transport, World.note event world) pieces

variable [World ω] [Transport ω σ]

/-- What has gone into a sink. -/
def Sink.intake (sink : Sink ω σ) (start : Bytes) : Intake ω σ where
  Holds state pieces := sink.Ready state ∧ sink.accepted state = start ++ pieces.flatten
  transmit piece h := by
    obtain ⟨hready, haccepted⟩ := h
    obtain ⟨after, htransmit, hafter, hmore⟩ := sink.transmit_returns piece hready
    exact ⟨after, htransmit, hafter, by simp [hmore, haccepted]⟩
  note event h := by
    obtain ⟨hready, haccepted⟩ := h
    obtain ⟨hafter, hsame⟩ := sink.note event hready
    exact ⟨hafter, hsame.trans haccepted⟩

/-! ## Streams -/

/-- Bytes that can be read one after another, however the reads cut them. -/
structure Flow (ω σ : Type) [World ω] [Transport ω σ] where
  /-- These bytes are there to be read. -/
  Holds : σ × ω → Bytes → Prop
  timed : Bool
  /-- How many more times in a row a read can be interrupted. -/
  interruptions : σ × ω → Nat
  /-- It is a stream or a pipe. -/
  continuous : ∀ {state : σ × ω} {bytes : Bytes}, Holds state bytes →
    Transport.kind ω state.1 ≠ .datagram
  poll : ∀ {state : σ × ω} {bytes : Bytes} {timeout : Option Duration}, Holds state bytes →
    bytes ≠ [] → InTime timed timeout → ∃ after,
      (Transport.pollReadable timeout : Action (σ × ω) TransportError Bool).Returns state
          (.ok true) after ∧
        Holds after bytes ∧ interruptions after ≤ interruptions state
  read : ∀ {state : σ × ω} {bytes : Bytes} (room : Nat), Holds state bytes → room ≠ 0 →
    room ≤ bytes.length → ∃ result after,
      (Transport.readRaw room : Action (σ × ω) TransportError Bytes).Returns state result after ∧
        ((∃ chunk left, result = .ok chunk ∧ chunk ≠ [] ∧ chunk.length ≤ room ∧
            bytes = chunk ++ left ∧ Holds after left) ∨
          ∃ e, result = .error e ∧ e.isInterrupted = true ∧ Holds after bytes ∧
            interruptions after < interruptions state)
  look : ∀ {transport : σ} {world : ω} {bytes : Bytes}, timed = true →
    Holds (transport, world) bytes → Holds (transport, (World.look world).2) bytes ∧
      interruptions (transport, (World.look world).2) ≤ interruptions (transport, world)
  note : ∀ {transport : σ} {world : ω} {bytes : Bytes} (event : Log.Event),
    Holds (transport, world) bytes → Holds (transport, World.note event world) bytes

/-- A round of a receive that reads and is not the last one. -/
theorem Transport.receiveRound_again (timeout : Option Duration) (everything : Bool) {wanted : Nat}
    {deadline : Deadline} {got added : Bytes} {state polled after : σ × ω}
    {result : Except TransportError Bytes} (hmissing : got.length < wanted)
    (hpoll : (Transport.pollReadable (deadline.remainingNow state.2).1 :
      Action (σ × ω) TransportError Bool).Returns (state.1, (deadline.remainingNow state.2).2)
        (.ok true) polled)
    (hread : (Transport.readRaw (wanted - got.length) :
      Action (σ × ω) TransportError Bytes).Returns polled result after)
    (hadded : (result = .ok added ∧ (everything = true ∨ added = [])) ∨
      ∃ e, result = .error e ∧ e.isInterrupted = true ∧ added = []) :
    (Transport.receiveRound wanted timeout everything deadline got :
      Action (σ × ω) TransportError _).Returns state (.ok (.again (got ++ added))) after := by
  unfold Transport.receiveRound
  rw [if_neg (by omega)]
  refine (returns_step _).bind (hpoll.bind (hread.attempt.bind ?_))
  obtain ⟨rfl, hmore⟩ | ⟨e, rfl, he, rfl⟩ := hadded
  · have hgoes : (!everything && !added.isEmpty) = false := by
      obtain rfl | rfl := hmore <;> simp
    simp only [hgoes]
    exact returns_pure _
  · simp only [he, if_true, List.append_nil]
    exact returns_pure _

/-- A round that finds everything there is the last one. -/
theorem Transport.receiveRound_full {wanted : Nat} {timeout : Option Duration} {deadline : Deadline}
    {got : Bytes} {everything : Bool} {state : σ × ω} (hfull : wanted ≤ got.length) :
    (Transport.receiveRound wanted timeout everything deadline got :
      Action (σ × ω) TransportError _).Returns state (.ok (.done got)) state := by
  unfold Transport.receiveRound
  rw [if_pos hfull]
  exact returns_pure _

/-- A round whose read fails for good. -/
theorem Transport.receiveRound_fails (timeout : Option Duration) (everything : Bool) {wanted : Nat}
    {deadline : Deadline} {got : Bytes} {state polled after : σ × ω} {e : TransportError}
    (hmissing : got.length < wanted)
    (hpoll : (Transport.pollReadable (deadline.remainingNow state.2).1 :
      Action (σ × ω) TransportError Bool).Returns (state.1, (deadline.remainingNow state.2).2)
        (.ok true) polled)
    (hread : (Transport.readRaw (wanted - got.length) :
      Action (σ × ω) TransportError Bytes).Returns polled (.error e) after)
    (he : e.isInterrupted = false) :
    (Transport.receiveRound wanted timeout everything deadline got :
      Action (σ × ω) TransportError _).Returns state (.error e) after := by
  unfold Transport.receiveRound
  rw [if_neg (by omega)]
  refine (returns_step _).bind (hpoll.bind (hread.attempt.bind ?_))
  simp only [he, Bool.false_eq_true, if_false]
  exact returns_fail e

/-- A round whose readiness check fails. -/
theorem Transport.receiveRound_blind (timeout : Option Duration) (everything : Bool) {wanted : Nat}
    {deadline : Deadline} {got : Bytes} {state after : σ × ω} {e : TransportError}
    (hmissing : got.length < wanted)
    (hpoll : (Transport.pollReadable (deadline.remainingNow state.2).1 :
      Action (σ × ω) TransportError Bool).Returns (state.1, (deadline.remainingNow state.2).2)
        (.error e) after) :
    (Transport.receiveRound wanted timeout everything deadline got :
      Action (σ × ω) TransportError _).Returns state (.error e) after := by
  unfold Transport.receiveRound
  rw [if_neg (by omega)]
  exact (returns_step _).bind hpoll.bind_error

/-- A round in which nothing comes in time. -/
theorem Transport.receiveRound_times_out (timeout : Option Duration) (everything : Bool)
    {wanted : Nat} {deadline : Deadline} {got : Bytes} {state after : σ × ω}
    (hmissing : got.length < wanted)
    (hpoll : (Transport.pollReadable (deadline.remainingNow state.2).1 :
      Action (σ × ω) TransportError Bool).Returns (state.1, (deadline.remainingNow state.2).2)
        (.ok false) after) :
    (Transport.receiveRound wanted timeout everything deadline got :
      Action (σ × ω) TransportError _).Returns state
        (.error (.timeout (timeout.getD .zero) wanted got.length)) after := by
  unfold Transport.receiveRound
  rw [if_neg (by omega)]
  exact (returns_step _).bind (hpoll.bind (returns_fail _))

namespace Flow

/-- The rounds of a receive.  Each one finds fewer bytes missing, or the same number and fewer
interruptions. -/
theorem receive_loops (flow : Flow ω σ) (timeout : Option Duration) (deadline : Deadline)
    (htime : deadline.InTime flow.timed) (wanted : Nat) (got wire : Bytes) {rest : Bytes}
    (state : σ × ω) (hholds : flow.Holds state (wire ++ rest))
    (hwanted : wanted = got.length + wire.length) : ∃ after,
      Loops (Transport.receiveRound wanted timeout true deadline) got state (.ok (got ++ wire))
          after ∧
        flow.Holds after rest := by
  by_cases hdone : wire = []
  · subst hdone
    rw [List.append_nil]
    have hround : (Transport.receiveRound wanted timeout true deadline got :
        Action (σ × ω) TransportError _).Returns state (.ok (.done got)) state :=
      Transport.receiveRound_full (by simp [hwanted])
    exact ⟨state, .done hround, hholds⟩
  · have hpositive := List.length_pos_iff.mpr hdone
    have hroom : wanted - got.length = wire.length := by omega
    obtain ⟨hlooked, hearlier⟩ := Deadline.remainingNow_keeps
      (P := fun world => flow.Holds (state.1, world) (wire ++ rest) ∧
        flow.interruptions (state.1, world) ≤ flow.interruptions state)
      htime ⟨hholds, Nat.le_refl _⟩ fun htimed => flow.look htimed hholds
    obtain ⟨polled, hpoll, hpolled, hmore⟩ := flow.poll hlooked (by simp [hdone])
      (Deadline.inTime_remainingNow htime state.2)
    obtain ⟨result, between, hread, hend⟩ := flow.read (wanted - got.length) hpolled (by omega)
      (by rw [hroom, List.length_append]; omega)
    have hmissing : got.length < wanted := by omega
    obtain ⟨chunk, left, rfl, hchunk, hfits, hsplit, hleft⟩ | ⟨e, rfl, he, hsame, hfewer⟩ := hend
    · -- What was read is the front of what is wanted.
      have hfront : chunk <+: wire :=
        List.prefix_of_prefix_length_le ⟨left, hsplit.symm⟩ (List.prefix_append wire rest)
          (by omega)
      obtain ⟨missing, rfl⟩ := hfront
      rw [List.append_assoc, List.append_cancel_left_eq] at hsplit
      rw [List.length_append] at hwanted
      have hshorter : missing.length < (chunk ++ missing).length := by
        have := List.length_pos_iff.mpr hchunk
        rw [List.length_append]
        omega
      obtain ⟨after, hloops, hafter⟩ := flow.receive_loops timeout deadline htime wanted
        (got ++ chunk) missing between (hsplit ▸ hleft) (by rw [List.length_append]; omega)
      rw [List.append_assoc] at hloops
      exact ⟨after, .again (Transport.receiveRound_again timeout true hmissing hpoll hread
        (.inl ⟨rfl, .inl rfl⟩)) hloops, hafter⟩
    · have hlater : flow.interruptions between < flow.interruptions state := by omega
      obtain ⟨after, hloops, hafter⟩ := flow.receive_loops timeout deadline htime wanted got wire
        between hsame hwanted
      have hround := Transport.receiveRound_again timeout true hmissing hpoll hread
        (.inr ⟨e, rfl, he, rfl⟩)
      rw [List.append_nil] at hround
      exact ⟨after, .again hround hloops, hafter⟩
  termination_by (wire.length, flow.interruptions state)

/-- Where the pieces end does not matter to a flow. -/
def supply (flow : Flow ω σ) : Supply ω σ where
  Holds state pieces := flow.Holds state pieces.flatten
  timed := flow.timed
  whole := false
  receive {state piece pieces timeout everything} hholds htime hall := by
    have heverything : everything = true := by simpa using hall
    subst heverything
    have hstarted := Deadline.startNow_keeps
      (P := fun world => flow.Holds (state.1, world) (piece ++ pieces.flatten)) htime hholds
      fun htimed => (flow.look htimed hholds).1
    obtain ⟨after, hloops, hafter⟩ := flow.receive_loops timeout _
      (Deadline.inTime_startNow htime state.2) piece.length [] piece _ hstarted (by simp)
    exact ⟨after, (returns_step _).bind hloops.returns, hafter⟩
  look htimed h := (flow.look htimed h).1
  note event h := flow.note event h

end Flow

/-! ## Where nothing more comes -/

/-- The end of a stream, where every read fails for good. -/
structure Terminus (ω σ : Type) [World ω] [Transport ω σ] where
  Holds : σ × ω → Prop
  timed : Bool
  interruptions : σ × ω → Nat
  /-- Whether a failure tells of the end. -/
  Tells : TransportError → Prop
  final : ∀ {e : TransportError}, Tells e → e.isInterrupted = false
  poll : ∀ {state : σ × ω} {timeout : Option Duration}, Holds state → InTime timed timeout →
    ∃ after,
      (Transport.pollReadable timeout : Action (σ × ω) TransportError Bool).Returns state
          (.ok true) after ∧
        Holds after ∧ interruptions after ≤ interruptions state
  read : ∀ {state : σ × ω} {room : Nat}, Holds state → room ≠ 0 → ∃ e after,
    (Transport.readRaw room : Action (σ × ω) TransportError Bytes).Returns state (.error e) after ∧
      Holds after ∧ (Tells e ∨ e.isInterrupted = true ∧ interruptions after < interruptions state)
  look : ∀ {transport : σ} {world : ω}, timed = true → Holds (transport, world) →
    Holds (transport, (World.look world).2) ∧
      interruptions (transport, (World.look world).2) ≤ interruptions (transport, world)
  note : ∀ {transport : σ} {world : ω} (event : Log.Event), Holds (transport, world) →
    Holds (transport, World.note event world)

namespace Terminus

/-- The rounds of a receive at the end.  Each one but the last is interrupted. -/
theorem receive_loops (terminus : Terminus ω σ) (timeout : Option Duration) (deadline : Deadline)
    (htime : deadline.InTime terminus.timed) {wanted : Nat} {got : Bytes}
    (hmissing : got.length < wanted) (state : σ × ω) (hholds : terminus.Holds state) : ∃ e after,
      Loops (Transport.receiveRound wanted timeout true deadline) got state (.error e) after ∧
        terminus.Tells e ∧ terminus.Holds after := by
  obtain ⟨hlooked, hearlier⟩ := Deadline.remainingNow_keeps
    (P := fun world => terminus.Holds (state.1, world) ∧
      terminus.interruptions (state.1, world) ≤ terminus.interruptions state)
    htime ⟨hholds, Nat.le_refl _⟩ fun htimed => terminus.look htimed hholds
  obtain ⟨polled, hpoll, hpolled, hfewer⟩ :=
    terminus.poll hlooked (Deadline.inTime_remainingNow htime state.2)
  obtain ⟨e, after, hread, hafter, hend⟩ := terminus.read hpolled (Nat.sub_ne_zero_of_lt hmissing)
  obtain htells | ⟨hinterrupted, hless⟩ := hend
  · exact ⟨e, after, .failed (Transport.receiveRound_fails timeout true hmissing hpoll hread
      (terminus.final htells)), htells, hafter⟩
  · have hlater : terminus.interruptions after < terminus.interruptions state := by omega
    obtain ⟨e', last, hloops, htells, hlast⟩ :=
      terminus.receive_loops timeout deadline htime hmissing after hafter
    have hround := Transport.receiveRound_again timeout true hmissing hpoll hread
      (.inr ⟨e, rfl, hinterrupted, rfl⟩)
    rw [List.append_nil] at hround
    exact ⟨e', last, .again hround hloops, htells, hlast⟩
  termination_by terminus.interruptions state

theorem receive_returns (terminus : Terminus ω σ) {timeout : Option Duration}
    (htime : InTime terminus.timed timeout) {wanted : Nat} (hwanted : wanted ≠ 0) {state : σ × ω}
    (hholds : terminus.Holds state) : ∃ e after,
      (Transport.receive wanted timeout true : Action (σ × ω) TransportError Bytes).Returns state
          (.error e) after ∧
        terminus.Tells e ∧ terminus.Holds after := by
  have hmissing : ([] : Bytes).length < wanted := Nat.pos_of_ne_zero hwanted
  have hstarted := Deadline.startNow_keeps (P := fun world => terminus.Holds (state.1, world))
    htime hholds fun htimed => (terminus.look htimed hholds).1
  obtain ⟨e, after, hloops, htells, hafter⟩ := terminus.receive_loops timeout _
    (Deadline.inTime_startNow htime state.2) hmissing _ hstarted
  exact ⟨e, after, (returns_step _).bind hloops.returns, htells, hafter⟩

/-- Nothing can be asked for there. -/
def supply (terminus : Terminus ω σ) : Supply ω σ where
  Holds state pieces := pieces = [] ∧ terminus.Holds state
  timed := terminus.timed
  whole := true
  receive h := by
    obtain ⟨hnone, -⟩ := h
    contradiction
  look htimed h := ⟨h.1, (terminus.look htimed h.2).1⟩
  note event h := ⟨h.1, terminus.note event h.2⟩

end Terminus

/-- What is still to come from a source, for those who wait for as long as it takes. -/
def Source.flow (source : Source ω σ) : Flow ω σ where
  Holds state bytes := source.Ready state ∧ source.incoming state = bytes
  timed := false
  interruptions := source.interruptions
  continuous h := source.continuous h.1
  poll {state bytes timeout} h _ htime := by
    have hforever : timeout = none := by simpa [InTime] using htime
    subst hforever
    obtain ⟨after, hpoll, hafter, hsame, hmore⟩ := source.poll h.1
    exact ⟨after, hpoll, ⟨hafter, hsame.trans h.2⟩, hmore⟩
  read {state bytes} room h hroom hle := by
    have hsome : source.incoming state ≠ [] := by
      rw [h.2]
      exact List.ne_nil_of_length_pos (by omega)
    obtain ⟨result, after, hread, hafter, hend⟩ := source.read room h.1 hroom hsome
    refine ⟨result, after, hread, ?_⟩
    obtain ⟨chunk, hresult, hchunk, hfits, hsplit⟩ | ⟨e, hresult, he, hsame, hfewer⟩ := hend
    · exact .inl ⟨chunk, _, hresult, hchunk, hfits, h.2 ▸ hsplit, hafter, rfl⟩
    · exact .inr ⟨e, hresult, he, ⟨hafter, hsame.trans h.2⟩, hfewer⟩
  look htimed := nomatch htimed
  note event h := by
    obtain ⟨hafter, hsame⟩ := source.note event h.1
    exact ⟨hafter, hsame.trans h.2⟩

/-! ## Whole pieces -/

omit [World ω] in
theorem Transport.transmit_nil (state : σ × ω) :
    (Transport.transmit [] : Action (σ × ω) TransportError Unit).Returns state (.ok ()) state :=
  Loops.returns (.done (returns_pure _))

omit [World ω] in
/-- A transmit that is one write. -/
theorem Transport.transmit_whole {piece : Bytes} {state after : σ × ω} (hpiece : piece ≠ [])
    (hwrite : (Transport.writeRaw piece : Action (σ × ω) TransportError Nat).Returns state
      (.ok piece.length) after) :
    (Transport.transmit piece : Action (σ × ω) TransportError Unit).Returns state (.ok ())
      after := by
  have hround := Transport.transmitRound_returns hpiece hwrite
  have hlength : piece.length ≠ 0 := by simpa using hpiece
  rw [Transport.roundEnd, if_neg hlength, List.drop_length] at hround
  exact Loops.returns (.again hround (.done (returns_pure _)))

/-- A transport that carries every write whole. -/
def Intake.ofWrites (Holds : σ × ω → List Bytes → Prop)
    (write : ∀ {state : σ × ω} {pieces : List Bytes} {piece : Bytes}, Holds state pieces →
      piece ≠ [] → ∃ after,
        (Transport.writeRaw piece : Action (σ × ω) TransportError Nat).Returns state
            (.ok piece.length) after ∧
          Holds after (pieces ++ [piece]))
    (empty : ∀ {state : σ × ω} {pieces : List Bytes}, Holds state pieces →
      Holds state (pieces ++ [[]]))
    (note : ∀ {transport : σ} {world : ω} {pieces : List Bytes} (event : Log.Event),
      Holds (transport, world) pieces → Holds (transport, World.note event world) pieces) :
    Intake ω σ where
  Holds := Holds
  note := note
  transmit piece hholds := by
    by_cases hpiece : piece = []
    · subst hpiece
      exact ⟨_, Transport.transmit_nil _, empty hholds⟩
    · obtain ⟨after, hwrite, hafter⟩ := write hholds hpiece
      exact ⟨after, Transport.transmit_whole hpiece hwrite, hafter⟩

/-- A round that is content with what its read gives. -/
theorem Transport.receiveRound_first {wanted : Nat} {got chunk : Bytes} (timeout : Option Duration)
    {deadline : Deadline} {state polled after : σ × ω} (hmissing : got.length < wanted)
    (hchunk : chunk ≠ [])
    (hpoll : (Transport.pollReadable (deadline.remainingNow state.2).1 :
      Action (σ × ω) TransportError Bool).Returns (state.1, (deadline.remainingNow state.2).2)
        (.ok true) polled)
    (hread : (Transport.readRaw (wanted - got.length) :
      Action (σ × ω) TransportError Bytes).Returns polled (.ok chunk) after) :
    (Transport.receiveRound wanted timeout false deadline got :
      Action (σ × ω) TransportError _).Returns state (.ok (.done (got ++ chunk))) after := by
  unfold Transport.receiveRound
  rw [if_neg (by omega)]
  refine (returns_step _).bind (hpoll.bind (hread.attempt.bind ?_))
  simp only [Bool.not_false, Bool.true_and, List.isEmpty_eq_false_iff.mpr hchunk]
  exact returns_pure _

/-- A receive that is content with what the first read gives. -/
theorem Transport.receive_first {room : Nat} {chunk : Bytes} {timeout : Option Duration}
    {deadline : Deadline} {state polled after : σ × ω} (hroom : room ≠ 0) (hchunk : chunk ≠ [])
    (hpoll : (Transport.pollReadable (deadline.remainingNow state.2).1 :
      Action (σ × ω) TransportError Bool).Returns (state.1, (deadline.remainingNow state.2).2)
        (.ok true) polled)
    (hread : (Transport.readRaw room : Action (σ × ω) TransportError Bytes).Returns polled
      (.ok chunk) after) :
    (Action.iterate (Transport.receiveRound room timeout false deadline) [] :
      Action (σ × ω) TransportError Bytes).Returns state (.ok chunk) after := by
  have hmissing : ([] : Bytes).length < room := Nat.pos_of_ne_zero hroom
  exact Loops.returns (.done (Transport.receiveRound_first timeout hmissing hchunk hpoll hread))

/-- A receive that is one read.  If it asks for everything, one more round finds it there. -/
theorem Transport.receive_whole {piece : Bytes} {timeout : Option Duration} {deadline : Deadline}
    {everything : Bool} {state polled after : σ × ω} (hpiece : piece ≠ [])
    (hpoll : (Transport.pollReadable (deadline.remainingNow state.2).1 :
      Action (σ × ω) TransportError Bool).Returns (state.1, (deadline.remainingNow state.2).2)
        (.ok true) polled)
    (hread : (Transport.readRaw piece.length : Action (σ × ω) TransportError Bytes).Returns polled
      (.ok piece) after) :
    (Action.iterate (Transport.receiveRound piece.length timeout everything deadline) [] :
      Action (σ × ω) TransportError Bytes).Returns state (.ok piece) after := by
  have hmissing : ([] : Bytes).length < piece.length := List.length_pos_iff.mpr hpiece
  cases everything with
  | true =>
      have hround := Transport.receiveRound_again timeout true hmissing hpoll hread
        (.inl ⟨rfl, .inl rfl⟩)
      rw [List.nil_append] at hround
      exact Loops.returns (.again hround (.done (Transport.receiveRound_full (Nat.le_refl _))))
  | false => exact Transport.receive_first (Nat.ne_of_gt hmissing) hpiece hpoll hread

/-- A transport that answers every read with a whole piece. -/
def Supply.ofReads (Holds : σ × ω → List Bytes → Prop)
    (poll : ∀ {state : σ × ω} {piece : Bytes} {pieces : List Bytes} (timeout : Option Duration),
      Holds state (piece :: pieces) → piece ≠ [] → ∃ after,
        (Transport.pollReadable timeout : Action (σ × ω) TransportError Bool).Returns state
            (.ok true) after ∧
          Holds after (piece :: pieces))
    (read : ∀ {state : σ × ω} {piece : Bytes} {pieces : List Bytes},
      Holds state (piece :: pieces) → piece ≠ [] → ∃ after,
        (Transport.readRaw piece.length : Action (σ × ω) TransportError Bytes).Returns state
            (.ok piece) after ∧
          Holds after pieces)
    (empty : ∀ {state : σ × ω} {pieces : List Bytes}, Holds state ([] :: pieces) →
      Holds state pieces)
    (look : ∀ {transport : σ} {world : ω} {pieces : List Bytes},
      Holds (transport, world) pieces → Holds (transport, (World.look world).2) pieces)
    (note : ∀ {transport : σ} {world : ω} {pieces : List Bytes} (event : Log.Event),
      Holds (transport, world) pieces → Holds (transport, World.note event world) pieces) :
    Supply ω σ where
  Holds := Holds
  timed := true
  whole := true
  look _ := look
  note := note
  receive {state piece pieces timeout everything} hholds htime _ := by
    have hstarted := Deadline.startNow_keeps
      (P := fun world => Holds (state.1, world) (piece :: pieces)) htime hholds fun _ => look hholds
    by_cases hpiece : piece = []
    · subst hpiece
      exact ⟨_, (returns_step _).bind (Loops.returns (.done
        (Transport.receiveRound_full (Nat.zero_le _)))), empty hstarted⟩
    · have hlooked := Deadline.remainingNow_keeps
        (P := fun world => Holds (state.1, world) (piece :: pieces))
        (Deadline.inTime_startNow htime state.2) hstarted fun _ => look hstarted
      obtain ⟨polled, hpoll, hpolled⟩ := poll _ hlooked hpiece
      obtain ⟨after, hread, hafter⟩ := read hpolled hpiece
      exact ⟨after, (returns_step _).bind (Transport.receive_whole hpiece hpoll hread), hafter⟩

end TypedChannel
