import TypedChannel.Channel.Basic
import TypedChannel.Proofs.Transport.Contract
import TypedChannel.Proofs.Transport.Recorded
import TypedChannel.Transport.Handle
/-!
# TypedChannel.Proofs.Host.Link

In-memory links whose script only cuts the bytes.

A link is a sink if its script lets every write move something or be
interrupted (`Link.cutsWrites`), and a source if it does so for every read and
holds a stream (`Link.cutsReads`).  The script is any: where it cuts and how
often it interrupts is free.
-/

namespace TypedChannel

open TypedChannel.Action

/-- A host that holds one link, without diagnostics. -/
def Surroundings.withLink (link : Link) : Surroundings Host :=
  { world := { links := [link] }, diagnostics := .empty }

/-- A channel over that link which accepts strings of at most this many bytes. -/
def Channel.overLink (maxStringLength : Nat) : Channel (Recorded Handle) :=
  opened ⟨.link 0 .stream, []⟩ .localEnd
    { maxStringLength, diagnostics := { sink := none, slot := 0 } }

/-! ## Scripts that cut -/

/-- Whether an event lets something move or is an interruption. -/
def LinkEvent.cuts : LinkEvent → Bool
  | .closed => false
  | .atMost n => n != 0
  | .failed e => (TransportError.io e).isInterrupted

namespace Link

/-- Whether every write is cut or interrupted at most. -/
def cutsWrites (link : Link) : Bool :=
  link.writeChunk != some 0 && link.writes.all LinkEvent.cuts

/-- Whether every read is, and the link holds a stream that is always said to be ready. -/
def cutsReads (link : Link) : Bool :=
  link.kind != .datagram && link.readChunk != some 0 && link.reads.all LinkEvent.cuts &&
    link.polls.all (· == .ready true)

/-- All bytes that a link has accepted, from the first call to the last. -/
def written (link : Link) : Bytes :=
  link.calls.reverse.flatMap fun call => match call with
    | .write accepted => accepted
    | _ => []

theorem cut_pos {limit : Option Nat} {n : Nat} (hlimit : limit ≠ some 0) (hn : n ≠ 0) :
    cut limit n ≠ 0 := by
  cases limit with
  | none => exact hn
  | some most =>
      have hmost : most ≠ 0 := fun h => hlimit (by rw [h])
      show min n most ≠ 0
      omega

theorem cut_le (limit : Option Nat) (n : Nat) : cut limit n ≤ n := by
  cases limit with
  | none => exact Nat.le_refl n
  | some most => exact Nat.min_le_left n most

/-- A write of such a link accepts something, or is interrupted and has one event less to come. -/
theorem write_of_cutsWrites {link : Link} (h : link.cutsWrites = true) {bytes : Bytes}
    (hbytes : bytes ≠ []) : ∃ after : Link, after.cutsWrites = true ∧
      ((∃ n, n ≠ 0 ∧ link.write bytes = (.ok (bytes.take n), after) ∧
          after.written = link.written ++ bytes.take n) ∨
        ∃ e, (TransportError.io e).isInterrupted = true ∧
          link.write bytes = (.error (.failed e), after) ∧ after.written = link.written ∧
          after.writes.length < link.writes.length) := by
  obtain ⟨hchunk, hevents⟩ :
      link.writeChunk ≠ some 0 ∧ link.writes.all LinkEvent.cuts = true := by
    simpa only [cutsWrites, Bool.and_eq_true, bne_iff_ne] using h
  have hlength : bytes.length ≠ 0 := by simpa using hbytes
  have hmost := cut_pos hchunk hlength
  unfold write
  cases hwrites : link.writes with
  | nil =>
      have hwritten : ∀ accepted, (link.logged (.write accepted)).written =
          link.written ++ accepted := by
        simp [written, logged]
      exact ⟨link.logged (.write (bytes.take (cut link.writeChunk bytes.length))), h,
        .inl ⟨cut link.writeChunk bytes.length, hmost, rfl, hwritten _⟩⟩
  | cons event events =>
      rw [hwrites, List.all_cons, Bool.and_eq_true] at hevents
      obtain ⟨hevent, hrest⟩ := hevents
      cases event with
      | closed => contradiction
      | atMost n =>
          have hn : n ≠ 0 := by simpa [LinkEvent.cuts] using hevent
          refine ⟨_, ?_, .inl ⟨min n (cut link.writeChunk bytes.length), by omega, rfl, ?_⟩⟩
          · simp [cutsWrites, logged, hchunk, hrest]
          · simp [written, logged]
      | failed e =>
          refine ⟨_, ?_, .inr ⟨e, hevent, rfl, ?_, ?_⟩⟩
          · simp [cutsWrites, logged, hchunk, hrest]
          · simp [written, logged]
          · simp

/-- A write fails only where the script says so, and uses that event up. -/
theorem writes_of_error {link after : Link} {bytes : Bytes} {stop : LinkStop}
    (h : link.write bytes = (.error stop, after)) : after.writes.length < link.writes.length := by
  unfold write at h
  cases hwrites : link.writes with
  | nil => simp [hwrites] at h
  | cons event events =>
      cases event with
      | closed | failed e =>
          simp only [hwrites, Prod.mk.injEq] at h
          rw [← h.2, List.length_cons]
          exact Nat.lt_succ_self _
      | atMost n => simp [hwrites] at h

/-- A read of such a link gives some of the bytes that wait, or is interrupted and has one event
less to come. -/
theorem read_of_cutsReads {link : Link} (h : link.cutsReads = true) {room : Nat} (hroom : room ≠ 0)
    (hstream : link.stream ≠ []) : ∃ after : Link, after.cutsReads = true ∧
      ((∃ n, n ≠ 0 ∧ n ≤ room ∧ link.read room = (.ok (link.stream.take n), after) ∧
          after.stream = link.stream.drop n) ∨
        ∃ e, (TransportError.io e).isInterrupted = true ∧
          link.read room = (.error (.failed e), after) ∧ after.stream = link.stream ∧
          after.reads.length < link.reads.length) := by
  obtain ⟨⟨⟨hkind, hchunk⟩, hevents⟩, hpolls⟩ : ((link.kind ≠ .datagram ∧
      link.readChunk ≠ some 0) ∧ link.reads.all LinkEvent.cuts = true) ∧
      link.polls.all (· == .ready true) = true := by
    simpa only [cutsReads, Bool.and_eq_true, bne_iff_ne] using h
  have hmost := cut_pos hchunk hroom
  have hle := cut_le link.readChunk room
  have htake : ∀ (n : Nat) (logged : Link), logged.kind ≠ .datagram → logged.stream ≠ [] →
      logged.take n = (.ok (logged.stream.take n),
        { logged with stream := logged.stream.drop n }) := by
    intro n logged hkind hstream
    unfold take
    cases hcase : logged.kind with
    | datagram => exact absurd hcase hkind
    | stream | pipe => simp [hstream]
  unfold read
  cases hreads : link.reads with
  | nil =>
      refine ⟨{ link.logged (.read room) with
          stream := link.stream.drop (cut link.readChunk room) },
        h, .inl ⟨cut link.readChunk room, hmost, hle, ?_, rfl⟩⟩
      simp [hmost, htake, hkind, hstream, logged, hreads]
  | cons event events =>
      rw [hreads, List.all_cons, Bool.and_eq_true] at hevents
      obtain ⟨hevent, hrest⟩ := hevents
      cases event with
      | closed => contradiction
      | atMost n =>
          have hn : n ≠ 0 := by simpa [LinkEvent.cuts] using hevent
          have hboth : min n (cut link.readChunk room) ≠ 0 := by omega
          refine ⟨{ link.logged (.read room) with
              reads := events, stream := link.stream.drop (min n (cut link.readChunk room)) },
            ?_, .inl ⟨min n (cut link.readChunk room), hboth, by omega, ?_, rfl⟩⟩
          · simp [cutsReads, logged, hkind, hchunk, hrest] at hpolls ⊢
            exact hpolls
          · simp [logged, hreads, hboth, htake, hkind, hstream]
      | failed e =>
          refine ⟨{ link.logged (.read room) with reads := events }, ?_,
            .inr ⟨e, hevent, by simp [logged, hreads], rfl, by simp⟩⟩
          simp [cutsReads, logged, hkind, hchunk, hrest] at hpolls ⊢
          exact hpolls

/-- A readiness check of such a link without a timeout says yes. -/
theorem poll_of_cutsReads {link : Link} (h : link.cutsReads = true) : ∃ after : Link,
    link.poll none = (.ok true, after) ∧ after.cutsReads = true ∧ after.stream = link.stream ∧
      after.reads = link.reads := by
  unfold poll
  cases hpolls : link.polls with
  | nil => exact ⟨link.logged (.poll none), by simp [logged, hpolls], h, rfl, rfl⟩
  | cons answer answers =>
      simp only [cutsReads, hpolls, List.all_cons, Bool.and_eq_true, beq_iff_eq] at h
      obtain ⟨hlink, rfl, hanswers⟩ := h
      refine ⟨{ link.logged (.poll none) with polls := answers }, by simp [logged, hpolls], ?_,
        rfl, rfl⟩
      simp only [cutsReads, logged, Bool.and_eq_true]
      exact ⟨hlink, hanswers⟩

/-- A bound on the reads that can still give nothing: the script says so, or a datagram is
empty. -/
def fruitless (link : Link) : Nat := link.reads.length + link.datagrams.length

/-- A readiness check uses up nothing that a read would. -/
theorem poll_keeps (timeout : Option Duration) (link : Link) :
    (link.poll timeout).2.fruitless = link.fruitless ∧
      (link.poll timeout).2.readChunk = link.readChunk := by
  simp only [poll, logged]
  cases link.polls with
  | nil => exact ⟨rfl, rfl⟩
  | cons answer answers =>
      cases answer with
      | ready _ | failed _ => exact ⟨rfl, rfl⟩

theorem take_readChunk (n : Nat) (link : Link) : (link.take n).2.readChunk = link.readChunk := by
  unfold take
  cases link.kind with
  | datagram => cases link.datagrams <;> rfl
  | stream | pipe => by_cases hstream : link.stream.isEmpty = true <;> simp [hstream]

theorem read_readChunk (room : Nat) (link : Link) :
    (link.read room).2.readChunk = link.readChunk := by
  unfold read
  cases hreads : link.reads with
  | nil =>
      by_cases hmost : cut link.readChunk room = 0 <;>
        simp [logged, hreads, hmost, take_readChunk]
  | cons event events =>
      cases event with
      | closed | failed _ => simp [logged, hreads]
      | atMost n =>
          by_cases hnone : min n (cut link.readChunk room) = 0 <;>
            simp [logged, hreads, hnone, take_readChunk]

/-- What is taken of a stream is something; of datagrams it is one, which may be empty. -/
theorem fruitless_of_take {n : Nat} {link after : Link} {answer : Except LinkStop Bytes}
    (hn : n ≠ 0) (h : link.take n = (answer, after)) :
    after.fruitless ≤ link.fruitless ∧ (answer = .ok [] → after.fruitless < link.fruitless) ∧
      ∀ e, answer ≠ .error (.failed e) := by
  unfold take at h
  cases hkind : link.kind with
  | datagram =>
      cases hdatagrams : link.datagrams with
      | nil =>
          simp only [hkind, hdatagrams, Prod.mk.injEq] at h
          obtain ⟨rfl, rfl⟩ := h
          exact ⟨Nat.le_refl _, nofun, nofun⟩
      | cons datagram datagrams =>
          simp only [hkind, hdatagrams, Prod.mk.injEq] at h
          obtain ⟨rfl, rfl⟩ := h
          simp [fruitless, hdatagrams]
  | stream | pipe =>
      by_cases hstream : link.stream = []
      · simp only [hkind, hstream, List.isEmpty_nil, if_true, Prod.mk.injEq] at h
        obtain ⟨rfl, rfl⟩ := h
        exact ⟨Nat.le_refl _, nofun, nofun⟩
      · simp only [hkind, List.isEmpty_eq_false_iff.mpr hstream, Bool.false_eq_true, if_false,
          Prod.mk.injEq] at h
        obtain ⟨rfl, rfl⟩ := h
        simp [fruitless, hn, hstream]

/-- A read that gives nothing or fails by the script brings the end of such reads nearer. -/
theorem fruitless_of_read {room : Nat} {link after : Link} {answer : Except LinkStop Bytes}
    (hchunk : link.readChunk ≠ some 0) (hroom : room ≠ 0) (h : link.read room = (answer, after))
    (hnothing : answer = .ok [] ∨ ∃ e, answer = .error (.failed e)) :
    after.fruitless < link.fruitless := by
  have hmost := cut_pos hchunk hroom
  have htaken : ∀ {n : Nat} {before : Link}, n ≠ 0 → before.take n = (answer, after) →
      after.fruitless < before.fruitless := by
    intro n before hn htake
    obtain ⟨-, hempty, hfailed⟩ := fruitless_of_take hn htake
    obtain hgives | ⟨e, he⟩ := hnothing
    · exact hempty hgives
    · exact absurd he (hfailed e)
  unfold read at h
  cases hreads : link.reads with
  | nil =>
      simp only [logged, hreads, if_neg hmost] at h
      have hless := htaken hmost h
      simpa [fruitless, hreads] using hless
  | cons event events =>
      simp only [logged, hreads] at h
      have hshorter : events.length < link.reads.length := by
        rw [hreads]
        exact Nat.lt_succ_self _
      cases event with
      | closed | failed e =>
          simp only [Prod.mk.injEq] at h
          rw [← h.2]
          simp only [fruitless]
          omega
      | atMost n =>
          by_cases hnone : min n (cut link.readChunk room) = 0
          · simp only [if_pos hnone, Prod.mk.injEq] at h
            rw [← h.2]
            simp only [fruitless]
            omega
          · simp only [if_neg hnone] at h
            have hless := htaken hnone h
            simp only [fruitless] at hless ⊢
            omega

/-- What others send to a link touches neither its calls nor what its script makes of writes. -/
theorem deliver_keeps (bytes : Bytes) (link : Link) :
    (link.deliver bytes).calls = link.calls ∧ (link.deliver bytes).writes = link.writes ∧
      (link.deliver bytes).writeChunk = link.writeChunk := by
  unfold deliver
  cases link.kind with
  | datagram | stream | pipe => exact ⟨rfl, rfl, rfl⟩

end Link

namespace Handle

variable {α ε : Type} {host : Host} {number : Nat} {link : Link}

theorem changeHost_returns (f : Host → α × Host) (handle : Handle) (host : Host) :
    (changeHost f : Action (Handle × Host) ε α).Returns (handle, host) (.ok (f host).1)
      (handle, (f host).2) :=
  ⟨0, fun _ _ => rfl⟩

/-- An operation of a link that is there takes no patience. -/
theorem atLink_eq {absent a : α} {f : Link → α × Link} {after : Link} (handle : Handle)
    (patience : Nat) (hlink : host.links[number]? = some link) (hf : f link = (a, after)) :
    (atLink number absent f : Action (Handle × Host) ε α) patience (handle, host) =
      some (.ok a, (handle, { host with links := host.links.set number after })) := by
  have hstep : stepAt number absent f host.links = (a, host.links.set number after) := by
    simp only [stepAt, hlink, hf]
  show some (Except.ok (stepAt number absent f host.links).1,
    (handle, { host with links := (stepAt number absent f host.links).2 })) = _
  rw [hstep]

theorem atLink_returns {absent a : α} {f : Link → α × Link} {after : Link} (handle : Handle)
    (hlink : host.links[number]? = some link) (hf : f link = (a, after)) :
    (atLink number absent f : Action (Handle × Host) ε α).Returns (handle, host) (.ok a)
      (handle, { host with links := host.links.set number after }) :=
  ⟨0, fun patience _ => atLink_eq handle patience hlink hf⟩

theorem getElem?_set_link (hlink : host.links[number]? = some link) (after : Link) :
    (host.links.set number after)[number]? = some after := by
  obtain ⟨hbound, -⟩ := List.getElem?_eq_some_iff.mp hlink
  exact List.getElem?_set_self hbound

/-- What a link delivers may come back to itself, which does not touch its writes. -/
theorem deliver_link (host : Host) (accepted : Bytes) (hlink : host.links[number]? = some link) :
    ∃ after, (deliver number accepted host).links[number]? = some after ∧
      after.calls = link.calls ∧ after.writes = link.writes ∧
      after.writeChunk = link.writeChunk := by
  unfold deliver
  rw [hlink]
  cases htarget : link.target with
  | none => exact ⟨link, by simpa [htarget] using hlink, rfl, rfl, rfl⟩
  | some target =>
      simp only [Option.bind_some, htarget]
      by_cases hnone : accepted.isEmpty = true
      · rw [if_pos hnone]
        exact ⟨link, hlink, rfl, rfl, rfl⟩
      · rw [if_neg hnone]
        by_cases hself : target = number
        · exact ⟨link.deliver accepted, by simp [hself, hlink], link.deliver_keeps accepted⟩
        · exact ⟨link, by simp [hself, hlink], rfl, rfl, rfl⟩

/-! Each operation of a handle hands on what its link says. -/

variable {kind : TransportKind} {after : Link}

theorem write_returns {bytes accepted : Bytes} (hlink : host.links[number]? = some link)
    (hwrite : link.write bytes = (.ok accepted, after)) :
    (write bytes : HandleAction Host Nat).Returns (.link number kind, host) (.ok accepted.length)
      (.link number kind, deliver number accepted { host with
        links := host.links.set number after }) := by
  refine (returns_see _).bind ((atLink_returns _ hlink hwrite).bind ?_)
  exact (changeHost_returns _ _ _).bind (returns_pure _)

theorem write_fails {bytes : Bytes} {e : IoError} (hlink : host.links[number]? = some link)
    (hwrite : link.write bytes = (.error (.failed e), after)) :
    (write bytes : HandleAction Host Nat).Returns (.link number kind, host) (.error (.io e))
      (.link number kind, { host with links := host.links.set number after }) := by
  refine (returns_see _).bind ((atLink_returns _ hlink hwrite).bind ?_)
  exact returns_fail _

theorem write_closed {bytes : Bytes} (hlink : host.links[number]? = some link)
    (hwrite : link.write bytes = (.error .closed, after)) :
    (write bytes : HandleAction Host Nat).Returns (.link number kind, host) (.error .closed)
      (.link number kind, { host with links := host.links.set number after }) := by
  refine (returns_see _).bind ((atLink_returns _ hlink hwrite).bind ?_)
  exact returns_fail _

theorem read_returns {room : Nat} {chunk : Bytes} (hlink : host.links[number]? = some link)
    (hread : link.read room = (.ok chunk, after)) :
    (read room : HandleAction Host Bytes).Returns (.link number kind, host) (.ok chunk)
      (.link number kind, { host with links := host.links.set number after }) := by
  refine (returns_see _).bind ((atLink_returns _ hlink hread).bind ?_)
  exact returns_pure _

theorem read_fails {room : Nat} {e : IoError} (hlink : host.links[number]? = some link)
    (hread : link.read room = (.error (.failed e), after)) :
    (read room : HandleAction Host Bytes).Returns (.link number kind, host) (.error (.io e))
      (.link number kind, { host with links := host.links.set number after }) := by
  refine (returns_see _).bind ((atLink_returns _ hlink hread).bind ?_)
  exact returns_fail _

theorem read_closed {room : Nat} (hlink : host.links[number]? = some link)
    (hread : link.read room = (.error .closed, after)) :
    (read room : HandleAction Host Bytes).Returns (.link number kind, host) (.error .closed)
      (.link number kind, { host with links := host.links.set number after }) := by
  refine (returns_see _).bind ((atLink_returns _ hlink hread).bind ?_)
  exact returns_fail _

theorem pollReadable_eq {timeout : Option Duration} {answer : Bool} (patience : Nat)
    (hlink : host.links[number]? = some link)
    (hpoll : link.poll timeout = (.ok answer, after)) :
    (pollReadable timeout : HandleAction Host Bool) patience (.link number kind, host) =
      some (.ok answer,
        (.link number kind, { host with links := host.links.set number after })) := by
  unfold pollReadable
  simp only [bind, andThen, Transport.handle, see]
  rw [atLink_eq _ patience hlink hpoll]
  rfl

theorem pollReadable_returns {timeout : Option Duration} {answer : Bool}
    (hlink : host.links[number]? = some link)
    (hpoll : link.poll timeout = (.ok answer, after)) :
    (pollReadable timeout : HandleAction Host Bool).Returns (.link number kind, host) (.ok answer)
      (.link number kind, { host with links := host.links.set number after }) :=
  ⟨0, fun patience _ => pollReadable_eq patience hlink hpoll⟩

theorem pollReadable_fails {timeout : Option Duration} {e : IoError}
    (hlink : host.links[number]? = some link)
    (hpoll : link.poll timeout = (.error e, after)) :
    (pollReadable timeout : HandleAction Host Bool).Returns (.link number kind, host)
      (.error (.io e))
      (.link number kind, { host with links := host.links.set number after }) := by
  refine (returns_see _).bind ((atLink_returns _ hlink hpoll).bind ?_)
  exact returns_fail _

end Handle

/-! ## Links as sinks and sources -/

/-- A link to write to. -/
def Link.sink (number : Nat) : Sink Host Handle where
  Ready state := (∃ kind, state.1 = .link number kind) ∧
    ∃ link, state.2.links[number]? = some link ∧ link.cutsWrites = true
  accepted state := (state.2.links[number]?).elim [] Link.written
  interruptions state := (state.2.links[number]?).elim 0 (·.writes.length)
  write := by
    intro state bytes hready hbytes
    obtain ⟨handle, host⟩ := state
    obtain ⟨⟨kind, rfl⟩, link, hlink, hcuts⟩ := hready
    obtain ⟨after, hafter, hend⟩ := Link.write_of_cutsWrites hcuts hbytes
    have hset := Handle.getElem?_set_link hlink after
    obtain ⟨n, hn, hwrite, hwritten⟩ | ⟨e, he, hwrite, hwritten, hfewer⟩ := hend
    · obtain ⟨delivered, hdelivered, hcalls, hwrites, hchunk⟩ :=
        Handle.deliver_link { host with links := host.links.set number after } (bytes.take n) hset
      have hsome : (bytes.take n).length ≠ 0 := by
        have hpositive := List.length_pos_iff.mpr hbytes
        rw [List.length_take]
        omega
      have haccepted : delivered.written = link.written ++ bytes.take (bytes.take n).length := by
        rw [List.length_take, ← List.take_eq_take_min, ← hwritten]
        simp only [Link.written, hcalls]
      have hstill : delivered.cutsWrites = after.cutsWrites := by
        simp only [Link.cutsWrites, hwrites, hchunk]
      exact ⟨_, _, Handle.write_returns hlink hwrite,
        ⟨⟨kind, rfl⟩, delivered, hdelivered, hstill.trans hafter⟩,
        .inl ⟨_, rfl, hsome, by simpa only [hdelivered, hlink, Option.elim_some] using haccepted⟩⟩
    · exact ⟨_, _, Handle.write_fails hlink hwrite, ⟨⟨kind, rfl⟩, after, hset, hafter⟩,
        .inr ⟨_, rfl, he, by simpa only [hset, hlink, Option.elim_some] using hwritten,
          by simpa only [hset, hlink, Option.elim_some] using hfewer⟩⟩
  note := fun _ hready => ⟨hready, rfl⟩

/-- A link to read from. -/
def Link.source (number : Nat) : Source Host Handle where
  Ready state := (∃ kind : TransportKind, kind ≠ .datagram ∧ state.1 = .link number kind) ∧
    ∃ link, state.2.links[number]? = some link ∧ link.cutsReads = true
  incoming state := (state.2.links[number]?).elim [] Link.stream
  interruptions state := (state.2.links[number]?).elim 0 (·.reads.length)
  continuous := by
    intro state hready
    obtain ⟨handle, host⟩ := state
    obtain ⟨⟨kind, hkind, rfl⟩, -⟩ := hready
    exact hkind
  poll := by
    intro state hready
    obtain ⟨handle, host⟩ := state
    obtain ⟨⟨kind, hkind, rfl⟩, link, hlink, hcuts⟩ := hready
    obtain ⟨after, hpoll, hafter, hstream, hreads⟩ := Link.poll_of_cutsReads hcuts
    have hset := Handle.getElem?_set_link hlink after
    have hsame : after.reads.length ≤ link.reads.length := by
      simp only [hreads, Nat.le_refl]
    exact ⟨_, Handle.pollReadable_returns hlink hpoll,
      ⟨⟨kind, hkind, rfl⟩, after, hset, hafter⟩,
      by simpa only [hset, hlink, Option.elim_some] using hstream,
      by simpa only [hset, hlink, Option.elim_some] using hsame⟩
  read := by
    intro state room hready hroom hincoming
    obtain ⟨handle, host⟩ := state
    obtain ⟨⟨kind, hkind, rfl⟩, link, hlink, hcuts⟩ := hready
    dsimp only at hincoming
    rw [hlink, Option.elim_some] at hincoming
    obtain ⟨after, hafter, hend⟩ := Link.read_of_cutsReads hcuts hroom hincoming
    have hset := Handle.getElem?_set_link hlink after
    obtain ⟨n, hn, hle, hread, hstream⟩ | ⟨e, he, hread, hstream, hfewer⟩ := hend
    · have hsome : link.stream.take n ≠ [] := by
        simp only [ne_eq, List.take_eq_nil_iff, hn, hincoming, or_self, not_false_eq_true]
      have hfits : (link.stream.take n).length ≤ room := by
        rw [List.length_take]
        omega
      have hsplit : link.stream = link.stream.take n ++ after.stream := by
        rw [hstream, List.take_append_drop]
      exact ⟨_, _, Handle.read_returns hlink hread, ⟨⟨kind, hkind, rfl⟩, after, hset, hafter⟩,
        .inl ⟨_, rfl, hsome, hfits, by simpa only [hset, hlink, Option.elim_some] using hsplit⟩⟩
    · exact ⟨_, _, Handle.read_fails hlink hread, ⟨⟨kind, hkind, rfl⟩, after, hset, hafter⟩,
        .inr ⟨_, rfl, he, by simpa only [hset, hlink, Option.elim_some] using hstream,
          by simpa only [hset, hlink, Option.elim_some] using hfewer⟩⟩
  note := fun _ hready => ⟨hready, rfl⟩

end TypedChannel
