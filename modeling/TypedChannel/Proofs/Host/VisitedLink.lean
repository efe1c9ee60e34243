import TypedChannel.Proofs.Echo.Visitors
import TypedChannel.Proofs.Host.StreamLink
/-!
# TypedChannel.Proofs.Host.VisitedLink

In-memory links to which datagrams came that nobody adds to any more.

The next readiness checks may be told to find nothing.  After those a check
finds the next datagram as long as there is one.
-/

namespace TypedChannel

open TypedChannel.Action

namespace Link

/-- Whether a link holds datagrams alone, and its script tells no more than some of the next
readiness checks to find nothing. -/
structure Visited (link : Link) : Prop where
  kind : link.kind = .datagram
  stream : link.stream = []
  ended : link.ended = false
  reads : link.reads = []
  readChunk : link.readChunk = none
  polls : ∀ poll ∈ link.polls, poll = .ready false
  target : link.target = none
  writes : link.carriesWrites

/-- A readiness check that finds nothing was told to, or there is nothing. -/
theorem Visited.poll {link : Link} (h : link.Visited) (timeout : Duration) : ∃ answer after,
    link.poll (some timeout) = (.ok answer, after) ∧ after.Visited ∧ after.sent = link.sent ∧
      after.datagrams = link.datagrams ∧
      if answer = true then link.datagrams ≠ [] ∧ after.polls = []
      else link.datagrams = [] ∨ after.polls.length < link.polls.length := by
  have hsent : (link.logged (.poll (some timeout))).sent = link.sent := by
    simpa using sent_logged (.poll (some timeout)) link
  cases hpolls : link.polls with
  | nil =>
      refine ⟨!link.datagrams.isEmpty, link.logged (.poll (some timeout)), ?_, { h with }, hsent,
        rfl, ?_⟩
      · simp [Link.poll, logged, hpolls, h.stream, h.ended]
      · cases hwaiting : link.datagrams with
        | nil => exact .inl rfl
        | cons first others => exact ⟨List.cons_ne_nil first others, hpolls⟩
  | cons poll rest =>
      have hfalse : poll = .ready false := h.polls poll (by simp [hpolls])
      refine ⟨false, { link.logged (.poll (some timeout)) with polls := rest }, ?_,
        { h with polls := fun later hlater => h.polls later (by simp [hpolls, hlater]) }, hsent,
        rfl, .inr (Nat.lt_succ_self rest.length)⟩
      simp [Link.poll, logged, hpolls, hfalse]

end Link

open Cli

/-- The datagrams of such a link. -/
def Link.visitors (number : Nat) (stall : Duration) : Visitors Host Handle stall where
  Brings state datagrams := state.1 = .link number .datagram ∧ state.2.interrupted = false ∧
    ∃ link, state.2.links[number]? = some link ∧ link.Visited ∧ link.datagrams = datagrams
  output state :=
    { written := (state.2.links[number]?).elim [] Link.sent, printed := state.2.output }
  pauses state := (state.2.links[number]?).elim 0 (·.polls.length)
  looks state := Instant.limit - (state.2.clock + stall.nanos)
  patience := 0
  datagram := by
    rintro ⟨handle, host⟩ datagrams ⟨rfl, -⟩
    rfl
  running h := h.2.1
  poll := by
    rintro ⟨handle, host⟩ datagrams timeout ⟨rfl, hrunning, link, hlink, hvisited, rfl⟩ hthere
    obtain ⟨answer, after, hpoll, hafter, hsent, hsame, hanswer⟩ := hvisited.poll timeout
    have hset := Handle.getElem?_set_link hlink after
    refine ⟨answer, _, Handle.pollReadable_returns hlink hpoll,
      ⟨rfl, hrunning, after, hset, hafter, hsame⟩,
      by simp only [hset, hlink, Option.elim_some, hsent], Nat.le_refl _, ?_⟩
    cases answer with
    | true => simpa [hset] using hanswer.2
    | false =>
        obtain hnone | hfewer := hanswer
        · exact absurd hnone hthere
        · simpa [hset, hlink] using hfewer
  idle := by
    rintro ⟨handle, host⟩ timeout ⟨rfl, hrunning, link, hlink, hvisited, hnone⟩
    obtain ⟨answer, after, hpoll, hafter, hsent, hsame, hanswer⟩ := hvisited.poll timeout
    have hset := Handle.getElem?_set_link hlink after
    cases answer with
    | true => exact absurd hnone hanswer.1
    | false =>
        exact ⟨_, fun patience _ => Handle.pollReadable_eq patience hlink hpoll,
          ⟨rfl, hrunning, after, hset, hafter, hsame.trans hnone⟩,
          by simp only [hset, hlink, Option.elim_some, hsent], Nat.le_refl _⟩
  read := by
    rintro ⟨handle, host⟩ first others room ⟨rfl, hrunning, link, hlink, hvisited, hwaiting⟩ - hroom
    have hset := Handle.getElem?_set_link hlink
      { link.logged (.read room) with datagrams := others }
    have hsent : ({ link.logged (.read room) with datagrams := others } : Link).sent =
        link.sent := (Link.sent_logged (.read room) link).trans (List.append_nil _)
    have hread := Link.read_datagram hvisited.kind hvisited.reads hvisited.readChunk hroom hwaiting
    exact ⟨_, Handle.read_returns hlink hread,
      ⟨rfl, hrunning, _, hset, { hvisited with }, rfl⟩,
      by simp only [hset, hlink, Option.elim_some, hsent], Nat.le_refl _⟩
  write := by
    rintro ⟨handle, host⟩ datagrams bytes ⟨rfl, hrunning, link, hlink, hvisited, hwaiting⟩ -
    have hwrite := Link.write_of_carriesWrites hvisited.writes bytes
    have hset := Handle.getElem?_set_link hlink (link.logged (.write bytes))
    have hsent := Link.sent_logged (.write bytes) link
    exact ⟨_, Handle.write_returns_untargeted hlink hwrite hvisited.target,
      ⟨rfl, hrunning, _, hset, { hvisited with }, hwaiting⟩,
      by simp only [hset, hlink, Option.elim_some, hsent], Nat.le_refl _⟩
  look := by
    rintro ⟨handle, host⟩ datagrams h
    refine ⟨h, rfl, Nat.le_refl _, ?_, fun hlooks => ?_⟩
    · show Instant.limit - (host.clock + stall.nanos) ≤
        Instant.limit - (host.clock + 1 + stall.nanos) + 1
      omega
    · have hbefore : host.clock + stall.nanos < Instant.limit := by
        dsimp only at hlooks
        omega
      show (Instant.after? ⟨host.clock⟩ stall).isSome = true
      simp [Instant.after?, hbefore]
  note := fun _ h => ⟨h, rfl, Nat.le_refl _⟩
  print := fun _ h => ⟨h, rfl, Nat.le_refl _⟩

end TypedChannel
