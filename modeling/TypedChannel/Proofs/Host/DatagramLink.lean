import TypedChannel.Proofs.Host.Link
import TypedChannel.Proofs.Transport.Datagram
import TypedChannel.Proofs.Transport.Letters
/-!
# TypedChannel.Proofs.Host.DatagramLink

In-memory links that carry datagrams whole.

What was sent, and what was cut off, is read from the calls that a link has
seen: every write is there with the bytes that it accepted, and every read with
the room that it offered.  A link whose script interrupts reads is a letterbox
(`Link.letters`).
-/

namespace TypedChannel

open TypedChannel.Action

namespace Link

/-- The writes that a link has accepted, the first one first. -/
def sent (link : Link) : List Bytes :=
  link.calls.reverse.filterMap fun call => match call with
    | .write accepted => some accepted
    | _ => none

/-- The room that each read has offered, the first one first. -/
def rooms (link : Link) : List Nat :=
  link.calls.reverse.filterMap fun call => match call with
    | .read room => some room
    | _ => none

/-- How many bytes were cut off by the reads of a link, if they took their datagrams from `all`. -/
def cutOff (all : List Bytes) (link : Link) : Nat :=
  (all.zipWith (fun datagram room => datagram.drop room) link.rooms).flatten.length

theorem sent_logged (call : LinkCall) (link : Link) :
    (link.logged call).sent = link.sent ++ match call with
      | .write accepted => [accepted]
      | _ => [] := by
  cases call <;> simp [sent, logged]

theorem rooms_logged (call : LinkCall) (link : Link) :
    (link.logged call).rooms = link.rooms ++ match call with
      | .read room => [room]
      | _ => [] := by
  cases call <;> simp [rooms, logged]

@[simp] theorem datagrams_logged (call : LinkCall) (link : Link) :
    (link.logged call).datagrams = link.datagrams := rfl

/-- Whether every write is accepted whole. -/
def carriesWrites (link : Link) : Prop := link.writes = [] ∧ link.writeChunk = none

/-- Whether every read takes one of the datagrams `all`, the first one first, and each readiness
check says that there is one as long as there is. -/
structure CarriesReads (all : List Bytes) (link : Link) : Prop where
  kind : link.kind = .datagram
  reads : link.reads = []
  readChunk : link.readChunk = none
  polls : link.polls = []
  taken : ∃ taken, all = taken ++ link.datagrams ∧ taken.length = link.rooms.length

theorem write_of_carriesWrites {link : Link} (h : link.carriesWrites) (bytes : Bytes) :
    link.write bytes = (.ok bytes, link.logged (.write bytes)) := by
  obtain ⟨hwrites, hchunk⟩ := h
  simp [write, hwrites, hchunk, cut]

theorem CarriesReads.poll {all : List Bytes} {link : Link} (h : CarriesReads all link)
    (timeout : Option Duration) (hwaiting : link.datagrams ≠ []) :
    link.poll timeout = (.ok true, link.logged (.poll timeout)) := by
  simp [Link.poll, logged, h.polls, hwaiting]

/-- Without a script a read takes the next datagram, as far as there is room for it. -/
theorem read_datagram {link : Link} {room : Nat} {first : Bytes} {others : List Bytes}
    (hkind : link.kind = .datagram) (hreads : link.reads = []) (hchunk : link.readChunk = none)
    (hroom : room ≠ 0) (hwaiting : link.datagrams = first :: others) :
    link.read room =
      (.ok (first.take room), { link.logged (.read room) with datagrams := others }) := by
  simp [Link.read, logged, hreads, hchunk, cut, hroom, take, hkind, hwaiting]

/-- Reading the next datagram cuts off what the room does not hold. -/
theorem CarriesReads.after_read {all : List Bytes} {link : Link} (h : CarriesReads all link)
    (room : Nat) {first : Bytes} {others : List Bytes}
    (hwaiting : link.datagrams = first :: others) :
    CarriesReads all { link.logged (.read room) with datagrams := others } ∧
      cutOff all { link.logged (.read room) with datagrams := others } =
        cutOff all link + (first.length - room) := by
  obtain ⟨taken, hall, hcount⟩ := h.taken
  rw [hwaiting] at hall
  have hrooms : ({ link.logged (.read room) with datagrams := others } : Link).rooms =
      link.rooms ++ [room] := rooms_logged (.read room) link
  refine ⟨⟨h.kind, h.reads, h.readChunk, h.polls, taken ++ [first], by simp [hall],
    by simp [hrooms, hcount]⟩, ?_⟩
  have hsplit : ∀ more, all.zipWith (fun datagram room => datagram.drop room)
      (link.rooms ++ more) =
      taken.zipWith (fun datagram room => datagram.drop room) link.rooms ++
        (first :: others).zipWith (fun datagram room => datagram.drop room) more := by
    intro more
    rw [hall, List.zipWith_append hcount]
  have hbefore := hsplit []
  rw [List.append_nil, List.zipWith_nil_right, List.append_nil] at hbefore
  rw [cutOff, cutOff, hrooms, hbefore, hsplit, List.flatten_append, List.length_append]
  simp

end Link

namespace Handle

/-- A flush of a link that is there does nothing but be seen. -/
theorem flush_returns {host : Host} {number : Nat} {link : Link} {kind : TransportKind}
    (hlink : host.links[number]? = some link) :
    (Transport.flushRaw : HandleAction Host Unit).Returns (.link number kind, host) (.ok ())
      (.link number kind, { host with links := host.links.set number (link.logged .flush) }) :=
  (returns_see _).bind (atLink_returns _ hlink rfl)

end Handle

/-- A link to send datagrams into. -/
def Link.outbox (number : Nat) : Outbox Host Handle where
  Ready state := (∃ kind, state.1 = .link number kind) ∧
    ∃ link, state.2.links[number]? = some link ∧ link.carriesWrites
  sent state := (state.2.links[number]?).elim [] Link.sent
  write := by
    rintro ⟨handle, host⟩ bytes ⟨⟨kind, rfl⟩, link, hlink, hcarries⟩ hbytes
    have hwrite := Link.write_of_carriesWrites hcarries bytes
    have hset := Handle.getElem?_set_link hlink (link.logged (.write bytes))
    obtain ⟨after, hafter, hcalls, hwrites, hchunk⟩ := Handle.deliver_link
      { host with links := host.links.set number (link.logged (.write bytes)) } bytes hset
    have hsent : after.sent = link.sent ++ [bytes] := by
      rw [← Link.sent_logged (.write bytes) link]
      simp only [Link.sent, hcalls]
    exact ⟨_, Handle.write_returns hlink hwrite,
      ⟨⟨kind, rfl⟩, after, hafter, hwrites.trans hcarries.1, hchunk.trans hcarries.2⟩,
      by simpa only [hafter, hlink, Option.elim_some] using hsent⟩
  flush := by
    rintro ⟨handle, host⟩ ⟨⟨kind, rfl⟩, link, hlink, hcarries⟩
    have hset := Handle.getElem?_set_link hlink (link.logged .flush)
    have hsent : (link.logged .flush).sent = link.sent := by
      simpa using Link.sent_logged .flush link
    exact ⟨_, Handle.flush_returns hlink, ⟨⟨kind, rfl⟩, _, hset, hcarries⟩,
      by simpa only [hset, hlink, Option.elim_some] using hsent⟩
  note := fun _ hready => ⟨hready, rfl⟩

/-- A link in which the datagrams `all` were put before anything was read from it. -/
def Link.inbox (number : Nat) (all : List Bytes) : Inbox Host Handle where
  Ready state := state.1 = .link number .datagram ∧
    ∃ link, state.2.links[number]? = some link ∧ Link.CarriesReads all link
  waiting state := (state.2.links[number]?).elim [] Link.datagrams
  lost state := (state.2.links[number]?).elim 0 (Link.cutOff all)
  datagram := by
    rintro ⟨handle, host⟩ ⟨rfl, -⟩
    rfl
  poll := by
    rintro ⟨handle, host⟩ timeout ⟨rfl, link, hlink, hcarries⟩ hwaiting
    dsimp only at hwaiting
    rw [hlink, Option.elim_some] at hwaiting
    have hset := Handle.getElem?_set_link hlink (link.logged (.poll timeout))
    have hrooms : (link.logged (.poll timeout)).rooms = link.rooms := by
      simpa using Link.rooms_logged (.poll timeout) link
    have hafter : Link.CarriesReads all (link.logged (.poll timeout)) :=
      { hcarries with taken := by rw [hrooms]; exact hcarries.taken }
    have hcut : Link.cutOff all (link.logged (.poll timeout)) = Link.cutOff all link := by
      rw [Link.cutOff, hrooms, Link.cutOff]
    exact ⟨_, Handle.pollReadable_returns hlink (hcarries.poll timeout hwaiting),
      ⟨rfl, _, hset, hafter⟩,
      by simp only [hset, hlink, Option.elim_some]; rfl,
      by simpa only [hset, hlink, Option.elim_some] using hcut⟩
  read := by
    rintro ⟨handle, host⟩ room first others ⟨rfl, link, hlink, hcarries⟩ hroom hwaiting
    dsimp only at hwaiting
    rw [hlink, Option.elim_some] at hwaiting
    obtain ⟨hafter, hcut⟩ := hcarries.after_read room hwaiting
    have hset := Handle.getElem?_set_link hlink
      { link.logged (.read room) with datagrams := others }
    have hread := Link.read_datagram hcarries.kind hcarries.reads hcarries.readChunk hroom hwaiting
    exact ⟨_, Handle.read_returns hlink hread, ⟨rfl, _, hset, hafter⟩,
      by simp only [hset, Option.elim_some],
      by simpa only [hset, hlink, Option.elim_some] using hcut⟩
  look := fun hready => ⟨hready, rfl, rfl⟩
  note := fun _ hready => ⟨hready, rfl, rfl⟩

namespace Link

/-- Whether the peer of a link has closed, and what waits there is what of the datagrams `all` has
not been asked for yet. -/
structure Finite (all : List Bytes) (link : Link) : Prop where
  kind : link.kind = .datagram
  ended : link.ended = true
  reads : link.reads = []
  readChunk : link.readChunk = none
  polls : link.polls = []
  waits : link.datagrams = all.drop link.rooms.length

theorem Finite.carriesReads {all : List Bytes} {link : Link} (h : Finite all link)
    (hwaiting : link.datagrams ≠ []) : CarriesReads all link := by
  have hless : link.rooms.length ≤ all.length := by
    refine Nat.le_of_not_lt fun hlt => hwaiting ?_
    rw [h.waits, List.drop_of_length_le (Nat.le_of_lt hlt)]
  refine ⟨h.kind, h.reads, h.readChunk, h.polls, all.take link.rooms.length, ?_, ?_⟩
  · rw [h.waits, List.take_append_drop]
  · rw [List.length_take, Nat.min_eq_left hless]

theorem Finite.poll {all : List Bytes} {link : Link} (h : Finite all link)
    (timeout : Option Duration) :
    link.poll timeout = (.ok true, link.logged (.poll timeout)) ∧
      Finite all (link.logged (.poll timeout)) := by
  have hrooms : (link.logged (.poll timeout)).rooms = link.rooms := by
    simpa using rooms_logged (.poll timeout) link
  refine ⟨by simp [Link.poll, logged, h.polls, h.ended], { h with waits := ?_ }⟩
  rw [hrooms]
  exact h.waits

/-- Reading the next datagram leaves those behind it. -/
theorem Finite.after_read {all : List Bytes} {link : Link} (h : Finite all link) (room : Nat)
    {first : Bytes} {others : List Bytes} (hwaiting : link.datagrams = first :: others) :
    Finite all { link.logged (.read room) with datagrams := others } := by
  have hrooms : ({ link.logged (.read room) with datagrams := others } : Link).rooms =
      link.rooms ++ [room] := rooms_logged (.read room) link
  refine { h with waits := ?_ }
  have hall : all.drop link.rooms.length = first :: others := h.waits.symm.trans hwaiting
  show others = _
  rw [hrooms, List.length_append, ← List.drop_drop, hall]
  rfl

/-- Behind the last datagram the link says that its peer has closed. -/
theorem Finite.read_end {all : List Bytes} {link : Link} (h : Finite all link) {room : Nat}
    (hroom : room ≠ 0) (hnone : link.datagrams = []) :
    link.read room = (.error .closed, link.logged (.read room)) ∧
      Finite all (link.logged (.read room)) := by
  have hrooms : (link.logged (.read room)).rooms = link.rooms ++ [room] :=
    rooms_logged (.read room) link
  refine ⟨by simp [Link.read, logged, h.reads, h.readChunk, cut, hroom, take, h.kind, hnone],
    { h with waits := ?_ }⟩
  have hall : all.drop link.rooms.length = [] := h.waits.symm.trans hnone
  show link.datagrams = all.drop (link.logged (.read room)).rooms.length
  rw [hnone, hrooms, List.length_append, ← List.drop_drop, hall, List.drop_nil]

end Link

/-- The same for a link whose peer has closed, down to the end of its datagrams. -/
def Link.finiteInbox (number : Nat) (all : List Bytes) : Inbox Host Handle where
  Ready state := state.1 = .link number .datagram ∧
    ∃ link, state.2.links[number]? = some link ∧ Link.Finite all link
  waiting := (Link.inbox number all).waiting
  lost := (Link.inbox number all).lost
  datagram := by
    rintro ⟨handle, host⟩ ⟨rfl, -⟩
    rfl
  poll := by
    rintro ⟨handle, host⟩ timeout ⟨rfl, link, hlink, hfinite⟩ hwaiting
    have hsome : link.datagrams ≠ [] := by simpa [Link.inbox, hlink] using hwaiting
    obtain ⟨hpoll, hafter⟩ := hfinite.poll timeout
    have hset := Handle.getElem?_set_link hlink (link.logged (.poll timeout))
    obtain ⟨after, hreturns, -, hsame, hkept⟩ := (Link.inbox number all).poll timeout
      ⟨rfl, link, hlink, hfinite.carriesReads hsome⟩ hwaiting
    obtain ⟨-, rfl⟩ := hreturns.unique (Handle.pollReadable_returns hlink hpoll)
    exact ⟨_, hreturns, ⟨rfl, _, hset, hafter⟩, hsame, hkept⟩
  read := by
    rintro ⟨handle, host⟩ room first others ⟨rfl, link, hlink, hfinite⟩ hroom hwaiting
    have hdatagrams : link.datagrams = first :: others := by
      simpa [Link.inbox, hlink] using hwaiting
    have hcarries := hfinite.carriesReads (by simp [hdatagrams])
    have hset := Handle.getElem?_set_link hlink
      { link.logged (.read room) with datagrams := others }
    obtain ⟨after, hreturns, -, hsame, hkept⟩ := (Link.inbox number all).read
      ⟨rfl, link, hlink, hcarries⟩ hroom hwaiting
    obtain ⟨-, rfl⟩ := hreturns.unique (Handle.read_returns hlink (Link.read_datagram
      hfinite.kind hfinite.reads hfinite.readChunk hroom hdatagrams))
    exact ⟨_, hreturns, ⟨rfl, _, hset, hfinite.after_read room hdatagrams⟩, hsame, hkept⟩
  look := fun hready => ⟨hready, rfl, rfl⟩
  note := fun _ hready => ⟨hready, rfl, rfl⟩

/-- Where it says that its peer has closed. -/
theorem Link.finiteInbox_ended (number : Nat) (all : List Bytes) (timeout : Option Duration) :
    (Link.finiteInbox number all).Ended timeout (some .closed) where
  final := by
    rintro cause ⟨⟩
    rfl
  poll := by
    rintro ⟨handle, host⟩ hready hnone
    let inbox := Link.finiteInbox number all
    obtain ⟨⟨rfl, link, hlink, hfinite⟩, hwaiting⟩ :=
      Deadline.firstWait_keeps (P := fun host : Host => inbox.Ready (handle, host) ∧
        inbox.waiting (handle, host) = []) timeout ⟨hready, hnone⟩ id
    obtain ⟨hpoll, hafter⟩ := hfinite.poll (Deadline.firstWait timeout host).1
    have hset := Handle.getElem?_set_link hlink
      (link.logged (.poll (Deadline.firstWait timeout host).1))
    have hdatagrams : link.datagrams = [] := by
      simpa [inbox, Link.finiteInbox, Link.inbox, hlink] using hwaiting
    exact ⟨_, Handle.pollReadable_returns hlink hpoll, ⟨rfl, _, hset, hafter⟩,
      by simpa [Link.finiteInbox, Link.inbox, hset] using hdatagrams⟩
  read := by
    rintro ⟨handle, host⟩ room cause ⟨⟩ ⟨rfl, link, hlink, hfinite⟩ hnone hroom
    have hdatagrams : link.datagrams = [] := by
      simpa [Link.finiteInbox, Link.inbox, hlink] using hnone
    obtain ⟨hread, hafter⟩ := hfinite.read_end hroom hdatagrams
    have hset := Handle.getElem?_set_link hlink (link.logged (.read room))
    exact ⟨_, Handle.read_closed hlink hread, ⟨rfl, _, hset, hafter⟩,
      by simpa [Link.finiteInbox, Link.inbox, hset] using hdatagrams⟩

/-! ## Interrupted reads -/

namespace Link

/-- Whether its reads are interrupted, each time that the script says so, and after that take one
of these datagrams each. -/
structure Lettered (queue : List Bytes) (link : Link) : Prop where
  kind : link.kind = .datagram
  readChunk : link.readChunk = none
  polls : link.polls = []
  datagrams : link.datagrams = queue
  reads : ∀ event ∈ link.reads,
    ∃ e, event = .failed e ∧ (TransportError.io e).isInterrupted = true

theorem Lettered.poll {queue : List Bytes} {link : Link} (h : Lettered queue link)
    (timeout : Option Duration) (hwaiting : queue ≠ []) :
    link.poll timeout = (.ok true, link.logged (.poll timeout)) := by
  simp [Link.poll, logged, h.polls, h.datagrams, hwaiting]

/-- A read takes the next datagram, or is interrupted and has one event less to come. -/
theorem Lettered.read {first : Bytes} {others : List Bytes} {link : Link} {room : Nat}
    (h : Lettered (first :: others) link) (hroom : room ≠ 0) : ∃ after : Link,
      link.read room = (.ok (first.take room), after) ∧ Lettered others after ∨
        ∃ e, (TransportError.io e).isInterrupted = true ∧
          link.read room = (.error (.failed e), after) ∧ Lettered (first :: others) after ∧
          after.reads.length < link.reads.length := by
  cases hreads : link.reads with
  | nil =>
      exact ⟨_, .inl ⟨read_datagram h.kind hreads h.readChunk hroom h.datagrams,
        ⟨h.kind, h.readChunk, h.polls, rfl, h.reads⟩⟩⟩
  | cons event events =>
      have hevents := h.reads
      rw [hreads, List.forall_mem_cons] at hevents
      obtain ⟨⟨e, rfl, he⟩, hrest⟩ := hevents
      refine ⟨{ link.logged (.read room) with reads := events }, .inr ⟨e, he, ?_, ?_, ?_⟩⟩
      · simp [Link.read, logged, hreads]
      · exact ⟨h.kind, h.readChunk, h.polls, h.datagrams, hrest⟩
      · simp

end Link

/-- A link with datagrams, whose reads the script interrupts. -/
def Link.letters (number : Nat) : Letterbox Host Handle where
  Holds state queue := state.1 = .link number .datagram ∧
    ∃ link, state.2.links[number]? = some link ∧ Link.Lettered queue link
  interruptions state := (state.2.links[number]?).elim 0 (·.reads.length)
  datagram := by
    rintro ⟨handle, host⟩ queue ⟨rfl, -⟩
    rfl
  poll := by
    rintro ⟨handle, host⟩ queue timeout ⟨rfl, link, hlink, hletters⟩ hwaiting
    have hset := Handle.getElem?_set_link hlink (link.logged (.poll timeout))
    exact ⟨_, Handle.pollReadable_returns hlink (hletters.poll timeout hwaiting),
      ⟨rfl, _, hset, { hletters with }⟩,
      by simp only [hset, hlink, Option.elim_some]; exact Nat.le_refl _⟩
  read := by
    rintro ⟨handle, host⟩ first others room ⟨rfl, link, hlink, hletters⟩ hroom
    obtain ⟨after, ⟨hread, hafter⟩ | ⟨e, he, hread, hafter, hfewer⟩⟩ := hletters.read hroom
    · have hset := Handle.getElem?_set_link hlink after
      exact ⟨_, _, Handle.read_returns hlink hread, .inl ⟨rfl, rfl, _, hset, hafter⟩⟩
    · have hset := Handle.getElem?_set_link hlink after
      exact ⟨_, _, Handle.read_fails hlink hread, .inr ⟨_, rfl, he, ⟨rfl, _, hset, hafter⟩,
        by simpa only [hset, hlink, Option.elim_some] using hfewer⟩⟩
  look := fun h => ⟨h, Nat.le_refl _⟩
  note := fun _ h => h

end TypedChannel
