import TypedChannel.Proofs.Buffered.Pieces
import TypedChannel.Proofs.Host.DatagramLink
import TypedChannel.Proofs.RoundTrip.Malformed
/-!
# TypedChannel.Proofs.Buffered.Terminated

Terminated messages on datagrams, read with and without buffers in between.

1. A reader of terminated messages answers to one piece after another
   (`Channel.acceptEach_returns`), whatever its pieces come from.
2. So without a buffer it answers to datagrams, and with one to what the buffer
   makes of them.  That is the same as long as no datagram is cut, and only so
   long (`Channel.terminatedOverDatagrams`).
-/

namespace TypedChannel

open TypedChannel.Action

/-! ## Readers -/

/-- An error as a channel with these settings reports it. -/
def ChannelConfig.failure (config : ChannelConfig) (cause : ChannelError) : ChannelError :=
  if config.errorsFatal && !cause.isFatal then .fatal cause else cause

namespace Channel

variable {ω σ α : Type} [World ω] [Transport ω σ] {room : Nat} {feed : Feed ω σ room}

/-- What a reader of terminated messages answers to a piece. -/
def answer (config : ChannelConfig) (terminator piece : Bytes) : Except ChannelError Bytes :=
  match Bytes.indexOf? terminator piece with
  | some length => .ok (piece.take length)
  | none => .error (config.failure (.terminatorNotFound piece.length))

/-- What it answers to one request after another.  Behind the last piece requests fail, with each
timeout for a cause of its own. -/
def answers (config : ChannelConfig) (cause? : Option Duration → Option TransportError) :
    List (Bytes × ReceiveOptions) → List Bytes → List (Except ChannelError Bytes)
  | [], _ => []
  | (_, options) :: requests, [] =>
    let cause := shortfall config.terminatedBufferSize options.timeout (cause? options.timeout)
    .error (config.failure (.transport cause)) :: answers config cause? requests []
  | (terminator, _) :: requests, piece :: pieces =>
    answer config terminator piece :: answers config cause? requests pieces

/-- Make one request after another, whatever comes of each. -/
def acceptEach :
    List (Bytes × ReceiveOptions) → ChannelAction σ ω (List (Except ChannelError Bytes))
  | [] => pure []
  | (terminator, options) :: requests => do
    let result ← Action.attempt (acceptTerminatedBytes terminator options)
    return result :: (← acceptEach requests)

/-- A failure is told to the log and leaves the transport alone. -/
theorem fail_returns (cause : ChannelError) (state : Channel σ × Surroundings ω)
    {pieces : List Bytes} (hholds : feed.Holds (below state) pieces) : ∃ after,
      (fail cause : ChannelAction σ ω α).Returns state (.error (state.1.config.failure cause))
          after ∧
        feed.Holds (below after) pieces ∧ after.1.config = state.1.config :=
  ⟨_, ⟨0, fun _ _ => rfl⟩, feed.note _ hholds, rfl⟩

variable {terminator : Bytes} {state : Channel σ × Surroundings ω} {pieces : List Bytes}

/-- A piece is answered to, and nothing of it is left. -/
theorem acceptTerminatedBytes_answers (options : ReceiveOptions) (hroom : room ≠ 0)
    (hsize : state.1.config.terminatedBufferSize = room) (hterminator : terminator ≠ [])
    {piece : Bytes} (hholds : feed.Holds (below state) (piece :: pieces)) : ∃ after,
      (acceptTerminatedBytes terminator options).Returns state
          (answer state.1.config terminator piece) after ∧
        feed.Holds (below after) pieces ∧ after.1.config = state.1.config := by
  obtain ⟨received, hreceive, hreceived⟩ :=
    feed.receive_returns hroom options.partial.timeout hholds
  have hpartial : (Transport.receive room options.partial.timeout options.partial.everything :
      Action (σ × ω) TransportError Bytes).Returns (below state) (.ok piece) received := hreceive
  obtain ⟨taken, event, htake, hbelow, -, hconfig⟩ := acceptBytes_returns hpartial
  have htaken : feed.Holds (below taken) pieces := by
    rw [hbelow]
    exact feed.note event hreceived
  have hanswer : ∃ after,
      (match Bytes.indexOf? terminator piece with
        | some length => pure (piece.take length)
        | none => fail (.terminatorNotFound piece.length) : ChannelAction σ ω Bytes).Returns taken
          (answer state.1.config terminator piece) after ∧
        feed.Holds (below after) pieces ∧ after.1.config = state.1.config := by
    unfold answer
    cases Bytes.indexOf? terminator piece with
    | some length => exact ⟨taken, returns_pure _, htaken, hconfig⟩
    | none =>
        obtain ⟨after, hfail, hafter, hsame⟩ :=
          fail_returns (α := Bytes) (.terminatorNotFound piece.length) taken htaken
        rw [hconfig] at hfail
        exact ⟨after, hfail, hafter, hsame.trans hconfig⟩
  obtain ⟨after, hreturns, hafter⟩ := hanswer
  have hdatagram : (acceptTerminatedDatagram terminator options).Returns state
      (answer state.1.config terminator piece) after := by
    refine (returns_see _).bind ?_
    rw [hsize]
    exact htake.bind hreturns
  exact ⟨after, acceptTerminatedBytes_of_datagram hterminator (feed.datagram hholds) hdatagram,
    hafter⟩

/-- Behind the last piece a request fails. -/
theorem acceptTerminatedBytes_ends {options : ReceiveOptions} {cause? : Option TransportError}
    (hends : feed.Ends options.timeout cause?) (hroom : room ≠ 0)
    (hsize : state.1.config.terminatedBufferSize = room) (hterminator : terminator ≠ [])
    (hholds : feed.Holds (below state) []) : ∃ after,
      (acceptTerminatedBytes terminator options).Returns state
          (.error (state.1.config.failure (.transport (shortfall room options.timeout cause?))))
          after ∧
        feed.Holds (below after) [] ∧ after.1.config = state.1.config := by
  obtain ⟨received, hreceive, hreceived⟩ := hends.receive_returns hroom hholds
  have hpartial : (Transport.receive room options.partial.timeout options.partial.everything :
      Action (σ × ω) TransportError Bytes).Returns (below state)
        (.error (shortfall room options.timeout cause?)) received := hreceive
  obtain ⟨after, hfail, hafter, hsame⟩ := fail_returns (α := Bytes)
    (.transport (shortfall room options.timeout cause?))
    ({ state.1 with transport := received.1 }, { state.2 with world := received.2 }) hreceived
  have hdatagram : (acceptTerminatedDatagram terminator options).Returns state
      (.error (state.1.config.failure (.transport (shortfall room options.timeout cause?))))
      after := by
    refine (returns_see _).bind ?_
    rw [hsize]
    exact ((returns_onTransport hpartial).bind hfail.bind_error).bind_error
  exact ⟨after, acceptTerminatedBytes_of_datagram hterminator (feed.datagram hholds) hdatagram,
    hafter, hsame⟩

/-- One request after another is answered to, each with the next piece. -/
theorem acceptEach_returns (hroom : room ≠ 0) {cause? : Option Duration → Option TransportError}
    {requests : List (Bytes × ReceiveOptions)} (hterminators : ∀ request ∈ requests, request.1 ≠ [])
    (hends : ∀ request ∈ requests.drop pieces.length,
      feed.Ends request.2.timeout (cause? request.2.timeout))
    (hsize : state.1.config.terminatedBufferSize = room)
    (hholds : feed.Holds (below state) pieces) :
    ∃ after,
      (acceptEach requests).Returns state (.ok (answers state.1.config cause? requests pieces))
          after ∧
        feed.Holds (below after) (pieces.drop requests.length) ∧
        after.1.config = state.1.config := by
  induction requests generalizing pieces state with
  | nil => exact ⟨state, returns_pure _, hholds, rfl⟩
  | cons request requests ih =>
      obtain ⟨terminator, options⟩ := request
      obtain ⟨hterminator, hlater⟩ := List.forall_mem_cons.mp hterminators
      cases pieces with
      | nil =>
          obtain ⟨hfails, hfail⟩ := List.forall_mem_cons.mp hends
          obtain ⟨between, hfirst, hbetween, hconfig⟩ :=
            acceptTerminatedBytes_ends hfails hroom hsize hterminator hholds
          obtain ⟨after, hrest, hafter, hsame⟩ := ih hlater (by simpa using hfail)
            (by rw [hconfig, hsize]) hbetween
          rw [hconfig] at hrest
          subst hsize
          exact ⟨after, hfirst.attempt.bind (hrest.bind (returns_pure _)), by simpa using hafter,
            hsame.trans hconfig⟩
      | cons piece pieces =>
          obtain ⟨between, hfirst, hbetween, hconfig⟩ := acceptTerminatedBytes_answers
            options hroom hsize hterminator hholds
          obtain ⟨after, hrest, hafter, hsame⟩ := ih hlater hends (by rw [hconfig, hsize]) hbetween
          rw [hconfig] at hrest
          exact ⟨after, hfirst.attempt.bind (hrest.bind (returns_pure _)), hafter,
            hsame.trans hconfig⟩

/-! ## With and without a buffer -/

/-- Only as many pieces are answered to as there are requests. -/
theorem answers_take (config : ChannelConfig) (cause? : Option Duration → Option TransportError)
    (requests : List (Bytes × ReceiveOptions)) (pieces : List Bytes) :
    answers config cause? requests (pieces.take requests.length) =
      answers config cause? requests pieces := by
  induction requests generalizing pieces with
  | nil => rfl
  | cons request requests ih =>
      cases pieces with
      | nil => rw [List.take_nil]
      | cons piece pieces => rw [List.length_cons, List.take_succ_cons, answers, answers, ih]

/-- Whether nothing is unread in the buffer, and the same datagrams wait behind it as for a channel
without one. -/
structure InStep (inbox : Inbox ω σ) (plain : Channel σ × Surroundings ω)
    (buffered : Channel (Buffered σ) × Surroundings ω) : Prop where
  unread : buffered.1.transport.unread = []
  waiting : inbox.waiting (Buffered.inside (below buffered)) = inbox.waiting (below plain)

/-- What the same requests come to without a buffer, and through one of this capacity. -/
structure Compared (inbox : Inbox ω σ) (config : ChannelConfig)
    (cause? : Option Duration → Option TransportError) (capacity : Nat) (queue : List Bytes)
    (requests : List (Bytes × ReceiveOptions))
    (direct through : List (Except ChannelError Bytes)) (plain : Channel σ × Surroundings ω)
    (buffered : Channel (Buffered σ) × Surroundings ω) : Prop where
  directly : direct =
    answers config cause? requests (queue.map (·.take config.terminatedBufferSize))
  waiting : inbox.waiting (below plain) = queue.drop requests.length
  cutUp : through = answers config cause? requests
    (queue.flatMap (Buffered.cut capacity config.terminatedBufferSize))
  /-- It is the same as long as the datagrams stay whole. -/
  same : (∀ datagram ∈ queue.take requests.length,
    Buffered.Whole capacity config.terminatedBufferSize datagram) →
      through = direct ∧ InStep inbox plain buffered
  /-- And only so long. -/
  whole : requests.length ≤ queue.length → InStep inbox plain buffered →
    ∀ datagram ∈ queue.take requests.length,
      Buffered.Whole capacity config.terminatedBufferSize datagram

section Run

variable {inbox : Inbox ω σ} {queue : List Bytes} {cause? : Option Duration → Option TransportError}
  {requests : List (Bytes × ReceiveOptions)}

/-- If there are requests behind the datagrams that are taken, all datagrams are. -/
theorem drop_of_mem {request : Bytes × ReceiveOptions}
    (h : request ∈ requests.drop ((queue.take requests.length).map (·.take room)).length) :
    request ∈ requests.drop queue.length ∧ queue.drop requests.length = [] := by
  rw [List.length_map, List.length_take] at h
  obtain hlt | hle := Nat.lt_or_ge queue.length requests.length
  · rw [Nat.min_eq_right (Nat.le_of_lt hlt)] at h
    exact ⟨h, List.drop_of_length_le (Nat.le_of_lt hlt)⟩
  · rw [Nat.min_eq_left hle, List.drop_length] at h
    contradiction

/-- Without a buffer every request takes one datagram. -/
theorem acceptEach_direct {plain : Channel σ × Surroundings ω}
    (hqueue : ∀ datagram ∈ queue, datagram ≠ [])
    (hterminators : ∀ request ∈ requests, request.1 ≠ [])
    (hended : ∀ request ∈ requests.drop queue.length,
      inbox.Ended request.2.timeout (cause? request.2.timeout))
    (hsize : plain.1.config.terminatedBufferSize = room) (hroom : room ≠ 0)
    (hready : inbox.Ready (below plain)) (hwaiting : inbox.waiting (below plain) = queue) :
    ∃ after,
      (acceptEach requests).Returns plain
          (.ok (answers plain.1.config cause? requests (queue.map (·.take room)))) after ∧
        inbox.waiting (below after) = queue.drop requests.length := by
  have hends : ∀ request ∈
      requests.drop ((queue.take requests.length).map (·.take room)).length,
      (inbox.feed (queue.drop requests.length) hroom).Ends request.2.timeout
        (cause? request.2.timeout) := by
    intro request hrequest
    obtain ⟨hbehind, hnone⟩ := drop_of_mem hrequest
    rw [hnone]
    exact (hended request hbehind).feed hroom
  obtain ⟨after, hreturns, ⟨-, front, hafter, -, hfront⟩, -⟩ := acceptEach_returns hroom
    hterminators hends hsize ⟨hready, _, by rw [hwaiting, List.take_append_drop],
      fun datagram hdatagram => hqueue datagram (List.mem_of_mem_take hdatagram), rfl⟩
  rw [List.map_take, answers_take] at hreturns
  obtain rfl : front = [] := by simpa using hfront
  exact ⟨after, hreturns, hafter⟩

variable {buffered : Channel (Buffered σ) × Surroundings ω} {capacity : Nat}

/-- Through a buffer every request takes one piece. -/
theorem acceptEach_through (hqueue : ∀ datagram ∈ queue, datagram ≠ [])
    (hterminators : ∀ request ∈ requests, request.1 ≠ [])
    (hended : ∀ request ∈ requests.drop queue.length,
      inbox.Ended request.2.timeout (cause? request.2.timeout))
    (hsize : buffered.1.config.terminatedBufferSize = room) (hroom : room ≠ 0)
    (hcapacity : buffered.1.transport.capacity = capacity)
    (hunread : buffered.1.transport.unread = [])
    (hready : inbox.Ready (Buffered.inside (below buffered)))
    (hwaiting : inbox.waiting (Buffered.inside (below buffered)) = queue) :
    ∃ after,
      (acceptEach requests).Returns buffered
          (.ok (answers buffered.1.config cause? requests
            (queue.flatMap (Buffered.cut capacity room)))) after ∧
        Buffered.Cutting inbox [] capacity room (below after)
          ((queue.flatMap (Buffered.cut capacity room)).drop requests.length) := by
  have hends : ∀ request ∈ requests.drop (queue.flatMap (Buffered.cut capacity room)).length,
      (Buffered.feed inbox [] capacity hroom).Ends request.2.timeout
        (cause? request.2.timeout) := by
    intro request hrequest
    have hpieces := (Buffered.length_le_length_cut capacity hroom hqueue).1
    exact Buffered.feed_ends (hended request (List.drop_subset_drop_left requests hpieces hrequest))
      capacity hroom
  have hunread' : (below buffered).1.unread = [] := hunread
  obtain ⟨after, hreturns, hafter, -⟩ := acceptEach_returns hroom hterminators hends hsize
    ⟨hready, hcapacity, queue, by rw [hwaiting, List.append_nil], hqueue,
      by rw [hunread', Bytes.inPieces_nil, List.nil_append]⟩
  exact ⟨after, hreturns, hafter⟩

/-- Which is one datagram, as long as they stay whole. -/
theorem acceptEach_whole (hqueue : ∀ datagram ∈ queue, datagram ≠ [])
    (hterminators : ∀ request ∈ requests, request.1 ≠ [])
    (hended : ∀ request ∈ requests.drop queue.length,
      inbox.Ended request.2.timeout (cause? request.2.timeout))
    (hsize : buffered.1.config.terminatedBufferSize = room) (hroom : room ≠ 0)
    (hcapacity : buffered.1.transport.capacity = capacity)
    (hunread : buffered.1.transport.unread = [])
    (hready : inbox.Ready (Buffered.inside (below buffered)))
    (hwaiting : inbox.waiting (Buffered.inside (below buffered)) = queue)
    (hwhole : ∀ datagram ∈ queue.take requests.length, Buffered.Whole capacity room datagram) :
    ∃ after,
      (acceptEach requests).Returns buffered
          (.ok (answers buffered.1.config cause? requests (queue.map (·.take room)))) after ∧
        after.1.transport.unread = [] ∧
        inbox.waiting (Buffered.inside (below after)) = queue.drop requests.length := by
  have hfront : ∀ datagram ∈ queue.take requests.length, datagram ≠ [] :=
    fun datagram hdatagram => hqueue datagram (List.mem_of_mem_take hdatagram)
  have hends : ∀ request ∈
      requests.drop ((queue.take requests.length).map (·.take room)).length,
      (Buffered.feed inbox (queue.drop requests.length) capacity hroom).Ends request.2.timeout
        (cause? request.2.timeout) := by
    intro request hrequest
    obtain ⟨hbehind, hnone⟩ := drop_of_mem hrequest
    rw [hnone]
    exact Buffered.feed_ends (hended request hbehind) capacity hroom
  have hunread' : (below buffered).1.unread = [] := hunread
  obtain ⟨after, hreturns, hafter, -⟩ := acceptEach_returns hroom hterminators hends hsize
    ⟨hready, hcapacity, _, by rw [hwaiting, List.take_append_drop], hfront,
      by rw [hunread', Bytes.inPieces_nil, List.nil_append, Buffered.flatMap_cut hfront hwhole]⟩
  rw [List.map_take, answers_take] at hreturns
  rw [List.map_take, List.drop_eq_nil_of_le (List.length_take_le ..)] at hafter
  exact ⟨after, hreturns, hafter.finished hroom⟩

end Run

/-- A buffer is no concern of a reader of terminated messages on datagrams, unless it holds more
than the reader has room for and a datagram is longer than that. -/
theorem terminatedOverDatagrams (inbox : Inbox ω σ) {queue : List Bytes}
    {cause? : Option Duration → Option TransportError} {requests : List (Bytes × ReceiveOptions)}
    {plain : Channel σ × Surroundings ω} {buffered : Channel (Buffered σ) × Surroundings ω}
    (hqueue : ∀ datagram ∈ queue, datagram ≠ [])
    (hterminators : ∀ request ∈ requests, request.1 ≠ [])
    (hended : ∀ request ∈ requests.drop queue.length,
      inbox.Ended request.2.timeout (cause? request.2.timeout))
    (hsize : plain.1.config.terminatedBufferSize ≠ 0)
    (hready : inbox.Ready (below plain)) (hwaiting : inbox.waiting (below plain) = queue)
    (hconfig : buffered.1.config = plain.1.config) (hunread : buffered.1.transport.unread = [])
    (hinside : inbox.Ready (Buffered.inside (below buffered)))
    (hbehind : inbox.waiting (Buffered.inside (below buffered)) = queue) :
    ∃ direct through plainAfter bufferedAfter,
      (acceptEach requests).Returns plain (.ok direct) plainAfter ∧
      (acceptEach requests).Returns buffered (.ok through) bufferedAfter ∧
      Compared inbox plain.1.config cause? buffered.1.transport.capacity queue requests direct
        through plainAfter bufferedAfter := by
  have hroom : buffered.1.config.terminatedBufferSize = plain.1.config.terminatedBufferSize := by
    rw [hconfig]
  obtain ⟨plainAfter, hdirect, hleft⟩ :=
    acceptEach_direct hqueue hterminators hended rfl hsize hready hwaiting
  obtain ⟨bufferedAfter, hthrough, hcutting⟩ :=
    acceptEach_through hqueue hterminators hended hroom hsize rfl hunread hinside hbehind
  refine ⟨_, _, plainAfter, bufferedAfter, hdirect, hthrough, ?_⟩
  rw [hconfig]
  refine ⟨rfl, hleft, rfl, fun hwhole => ?_, fun hle hsame => ?_⟩
  · obtain ⟨wholeAfter, hwholeReturns, hnone, hothers⟩ := acceptEach_whole hqueue hterminators
      hended hroom hsize rfl hunread hinside hbehind hwhole
    obtain ⟨hresult, rfl⟩ := hwholeReturns.unique hthrough
    rw [hconfig] at hresult
    exact ⟨(Except.ok.inj hresult).symm, hnone, hothers.trans hleft.symm⟩
  · exact hcutting.whole hsize hqueue hle hsame.unread (hsame.waiting.trans hleft)

/-- A channel with room for four bytes of a terminated message, over a link whose peer has sent
these datagrams and closed. -/
def narrow (datagrams : List Bytes) : Channel Handle × Surroundings Host :=
  (opened (.link 0 .datagram) .localEnd
      { terminatedBufferSize := 4, diagnostics := { sink := none, slot := 0 } },
    Surroundings.withLink { kind := .datagram, datagrams, ended := true })

/-- The same with a buffer of eight bytes in between. -/
def narrowBuffered (datagrams : List Bytes) : Channel (Buffered Handle) × Surroundings Host :=
  ((narrow datagrams).1.mapTransport (.wrap 8), (narrow datagrams).2)

theorem narrow_ready (datagrams : List Bytes) :
    (Link.finiteInbox 0 datagrams).Ready (below (narrow datagrams)) :=
  ⟨rfl, _, rfl, rfl, rfl, rfl, rfl, rfl, rfl⟩

/-- Two messages that fit, and a third request. -/
theorem terminatedOverDatagrams_whole :
    ∃ plainAfter bufferedAfter,
      (acceptEach (List.replicate 3 ([59], .ofMillis 20))).Returns
        (narrow [[104, 105, 59], [111, 107, 59]])
        (.ok [.ok [104, 105], .ok [111, 107], .error (.transport .closed)]) plainAfter ∧
      (acceptEach (List.replicate 3 ([59], .ofMillis 20))).Returns
        (narrowBuffered [[104, 105, 59], [111, 107, 59]])
        (.ok [.ok [104, 105], .ok [111, 107], .error (.transport .closed)]) bufferedAfter ∧
      InStep (Link.finiteInbox 0 [[104, 105, 59], [111, 107, 59]]) plainAfter bufferedAfter := by
  let datagrams : List Bytes := [[104, 105, 59], [111, 107, 59]]
  obtain ⟨direct, through, plainAfter, bufferedAfter, hdirect, hthrough, hcompared⟩ :=
    @terminatedOverDatagrams Host Handle _ _ (Link.finiteInbox 0 datagrams) datagrams
      (fun _ => some .closed) (List.replicate 3 ([59], .ofMillis 20)) (narrow datagrams)
      (narrowBuffered datagrams) (by decide) (by decide)
      (fun _ _ => Link.finiteInbox_ended 0 datagrams _) (by decide) (narrow_ready datagrams) rfl rfl
      rfl (narrow_ready datagrams) rfl
  obtain ⟨hsame, hinStep⟩ := hcompared.same (by decide)
  obtain rfl : through = direct := hsame
  obtain rfl := hcompared.directly
  exact ⟨plainAfter, bufferedAfter, hdirect, hthrough, hinStep⟩

/-- Two messages in one datagram that does not fit, and one behind it: the rest of the first
datagram comes up as the second message. -/
theorem terminatedOverDatagrams_cut :
    ∃ plainAfter bufferedAfter,
      (acceptEach (List.replicate 2 ([59], .blocking))).Returns
        (narrow [[104, 105, 59, 97, 98, 59], [111, 107, 59]])
        (.ok [.ok [104, 105], .ok [111, 107]]) plainAfter ∧
      (acceptEach (List.replicate 2 ([59], .blocking))).Returns
        (narrowBuffered [[104, 105, 59, 97, 98, 59], [111, 107, 59]])
        (.ok [.ok [104, 105], .ok [98]]) bufferedAfter := by
  let datagrams : List Bytes := [[104, 105, 59, 97, 98, 59], [111, 107, 59]]
  let requests : List (Bytes × ReceiveOptions) := List.replicate 2 ([59], .blocking)
  let closed : Option Duration → Option TransportError := fun _ => some .closed
  have hqueue : ∀ datagram ∈ datagrams, datagram ≠ [] := by decide
  have hterminators : ∀ request ∈ requests, request.1 ≠ [] := by decide
  have hended : ∀ request ∈ requests.drop datagrams.length,
      (Link.finiteInbox 0 datagrams).Ended request.2.timeout (closed request.2.timeout) :=
    fun _ _ => Link.finiteInbox_ended 0 datagrams _
  have hsize : (narrowBuffered datagrams).1.config.terminatedBufferSize = 4 := rfl
  have hcut : datagrams.flatMap (Buffered.cut 8 4) =
      [[104, 105, 59, 97], [98, 59], [111, 107, 59]] := by
    simp [datagrams, Buffered.cut, Bytes.inPieces]
  obtain ⟨plainAfter, hdirect, -⟩ := acceptEach_direct hqueue hterminators hended hsize (by decide)
    (narrow_ready datagrams) rfl
  obtain ⟨bufferedAfter, hthrough, -⟩ := acceptEach_through hqueue hterminators hended hsize
    (by decide) rfl rfl (narrow_ready datagrams) rfl
  rw [show (narrowBuffered datagrams).1.transport.capacity = 8 from rfl, hcut] at hthrough
  exact ⟨plainAfter, bufferedAfter, hdirect, hthrough⟩

end Channel

end TypedChannel
