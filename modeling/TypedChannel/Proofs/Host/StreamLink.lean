import TypedChannel.Proofs.Echo.Dialogue
import TypedChannel.Proofs.Host.DatagramLink
/-!
# TypedChannel.Proofs.Host.StreamLink

In-memory links with a peer that has sent all it has to say and closed.

Such a link may cut what is read from it, accepts every write whole, and hands
it on to no other link.
-/

namespace TypedChannel

open TypedChannel.Action

namespace Link

/-- Whether a link holds a stream up to its end, and its script lets every call succeed. -/
structure Converses (link : Link) : Prop where
  kind : link.kind ≠ .datagram
  reads : link.reads = []
  readChunk : link.readChunk ≠ some 0
  polls : link.polls = []
  ended : link.ended = true
  target : link.target = none
  writes : link.carriesWrites

theorem Converses.poll {link : Link} (h : link.Converses) (timeout : Option Duration) :
    link.poll timeout = (.ok true, link.logged (.poll timeout)) := by
  simp [Link.poll, logged, h.polls, h.ended]

/-- A read takes the next bytes, as many as the link gives at once. -/
theorem Converses.read {link : Link} (h : link.Converses) {room : Nat} (hroom : room ≠ 0)
    (hstream : link.stream ≠ []) : ∃ n, n ≠ 0 ∧ n ≤ room ∧ link.read room =
      (.ok (link.stream.take n),
        { link.logged (.read room) with stream := link.stream.drop n }) := by
  refine ⟨cut link.readChunk room, cut_pos h.readChunk hroom, cut_le _ _, ?_⟩
  have hmost := cut_pos h.readChunk hroom
  unfold Link.read take
  cases hkind : link.kind with
  | datagram => exact absurd hkind h.kind
  | stream | pipe => simp [logged, h.reads, hmost, hkind, hstream]

/-- Behind the last byte it finds the end. -/
theorem Converses.read_end {link : Link} (h : link.Converses) {room : Nat} (hroom : room ≠ 0)
    (hstream : link.stream = []) :
    link.read room = (.error .closed, link.logged (.read room)) := by
  have hmost := cut_pos h.readChunk hroom
  unfold Link.read take
  cases hkind : link.kind with
  | datagram => exact absurd hkind h.kind
  | stream | pipe => simp [logged, h.reads, hmost, hkind, hstream]

theorem written_logged (call : LinkCall) (link : Link) :
    (link.logged call).written = link.written ++ match call with
      | .write accepted => accepted
      | _ => [] := by
  cases call <;> simp [written, logged]

end Link

namespace Handle

variable {host : Host} {number : Nat} {link after : Link} {kind : TransportKind}

/-- A link that hands on what is written to it to no other link. -/
theorem write_returns_untargeted {bytes accepted : Bytes} (hlink : host.links[number]? = some link)
    (hwrite : link.write bytes = (.ok accepted, after)) (htarget : after.target = none) :
    (write bytes : HandleAction Host Nat).Returns (.link number kind, host) (.ok accepted.length)
      (.link number kind, { host with links := host.links.set number after }) := by
  have hkept : deliver number accepted { host with links := host.links.set number after } =
      { host with links := host.links.set number after } := by
    simp only [deliver, getElem?_set_link hlink after, Option.bind_some, htarget]
  have hreturns : (write bytes : HandleAction Host Nat).Returns (.link number kind, host) _ _ :=
    write_returns hlink hwrite
  rwa [hkept] at hreturns

end Handle

open Cli

/-- The stream of such a link, whichever way it is divided into runs. -/
def Link.dialogue (number : Nat) : Dialogue Host Handle where
  Brings state runs := (∃ kind : TransportKind, kind ≠ .datagram ∧ state.1 = .link number kind) ∧
    state.2.interrupted = false ∧ ∃ link, state.2.links[number]? = some link ∧ link.Converses ∧
      link.stream = runs.flatten
  output state :=
    { written := (state.2.links[number]?).elim [] Link.written, printed := state.2.output }
  pauses _ := 0
  interruptions _ := 0
  continuous := by
    rintro ⟨handle, host⟩ runs ⟨⟨kind, hkind, rfl⟩, -⟩
    exact hkind
  running h := h.2.1
  empty := Iff.rfl
  poll := by
    rintro ⟨handle, host⟩ runs timeout
      ⟨⟨kind, hkind, rfl⟩, hrunning, link, hlink, hconverses, hruns⟩
    have hset := Handle.getElem?_set_link hlink (link.logged (.poll timeout))
    have hwritten : (link.logged (.poll timeout)).written = link.written := by
      simpa using Link.written_logged (.poll timeout) link
    exact ⟨true, _, Handle.pollReadable_returns hlink (hconverses.poll timeout),
      ⟨⟨kind, hkind, rfl⟩, hrunning, _, hset, { hconverses with }, hruns⟩,
      by simp only [hset, hlink, Option.elim_some, hwritten], Nat.le_refl 0, rfl⟩
  read := by
    rintro ⟨handle, host⟩ run runs room
      ⟨⟨kind, hkind, rfl⟩, hrunning, link, hlink, hconverses, hruns⟩ - hroom hle
    rw [List.flatten_cons] at hruns
    have hrun : run ≠ [] :=
      List.ne_nil_of_length_pos (Nat.lt_of_lt_of_le (Nat.pos_of_ne_zero hroom) hle)
    obtain ⟨n, hn, hfits, hread⟩ := hconverses.read hroom (by simp [hruns, hrun])
    rw [hruns, List.take_append_of_le_length (by omega), List.drop_append_of_le_length (by omega)]
      at hread
    have hset := Handle.getElem?_set_link hlink
      { link.logged (.read room) with stream := run.drop n ++ runs.flatten }
    have hwritten : ({ link.logged (.read room) with stream := run.drop n ++ runs.flatten } :
        Link).written = link.written :=
      (Link.written_logged (.read room) link).trans (List.append_nil _)
    exact ⟨_, _, Handle.read_returns hlink hread,
      by simp only [hset, hlink, Option.elim_some, hwritten],
      .inl ⟨run.take n, run.drop n, rfl, by simp [hn, hrun], by rw [List.length_take]; omega,
        (List.take_append_drop n run).symm,
        ⟨⟨kind, hkind, rfl⟩, hrunning, _, hset, { hconverses with }, rfl⟩, fun _ => rfl⟩⟩
  close := by
    rintro ⟨handle, host⟩ room
      ⟨⟨kind, hkind, rfl⟩, hrunning, link, hlink, hconverses, hruns⟩ - hroom
    have hset := Handle.getElem?_set_link hlink (link.logged (.read room))
    have hwritten : (link.logged (.read room)).written = link.written := by
      simpa using Link.written_logged (.read room) link
    exact ⟨.closed, _, Handle.read_closed hlink (hconverses.read_end hroom hruns),
      ⟨⟨kind, hkind, rfl⟩, hrunning, _, hset, { hconverses with }, hruns⟩,
      by simp only [hset, hlink, Option.elim_some, hwritten], rfl, .inl rfl⟩
  write := by
    rintro ⟨handle, host⟩ runs bytes
      ⟨⟨kind, hkind, rfl⟩, hrunning, link, hlink, hconverses, hruns⟩ hbytes
    have hwrite := Link.write_of_carriesWrites hconverses.writes bytes
    have hset := Handle.getElem?_set_link hlink (link.logged (.write bytes))
    have hwritten := Link.written_logged (.write bytes) link
    exact ⟨_, _, Handle.write_returns_untargeted hlink hwrite hconverses.target,
      ⟨⟨kind, hkind, rfl⟩, hrunning, _, hset, { hconverses with }, hruns⟩,
      .inl ⟨bytes.length, rfl, by simpa using hbytes,
        by simp only [hset, hlink, Option.elim_some, hwritten, List.take_length]⟩⟩
  look := fun h => ⟨h, rfl, Nat.le_refl 0, Nat.le_refl 0⟩
  note := fun _ h => ⟨h, rfl, Nat.le_refl 0⟩
  print := fun _ h => ⟨h, rfl⟩

end TypedChannel
