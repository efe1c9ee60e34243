import TypedChannel.Proofs.Buffered.Ledger
import TypedChannel.Proofs.Channel.Through
/-!
# TypedChannel.Proofs.Channel.Correspondence

Whom the bytes of a buffered channel reach, if its peer may change.

Every byte was meant for the peer that the channel had when the byte was
written.  It goes out later, when the buffer overflows, on a flush or when the
channel is closed, and it goes to the peer of that time.

1. A send, a flush and the end of the channel keep the peer: what they send
   goes to it (`Sends`).  Accepts and readiness checks send nothing, but an
   accept may change the peer (`Holds`).
2. So from a state in which everything that waits is meant for the peer, an
   operation leads to another one exactly if it does not change the peer while
   something waits (`Disturbs`).
3. A flush that succeeds delivers everything as it was meant exactly from such
   a state (`Correspondence`).
-/

namespace TypedChannel

/-- Buffers around a handle.  Outside it is noted whom each byte was written for, and within whom
it went to. -/
abbrev Correspondent : Type := Ledger (Buffered (Ledger Handle))

namespace Correspondent

/-- What was written, each byte with the peer at that time. -/
def meant (c : Correspondent) : List (Option SocketAddress × UInt8) := c.posted

/-- What has gone out, each byte with the peer it went to. -/
def sent (c : Correspondent) : List (Option SocketAddress × UInt8) := c.inner.inner.posted

/-- What was written and has not gone out. -/
def waiting (c : Correspondent) : Bytes := c.inner.pending

/-- What has gone out, and then what waits, as it would go out now. -/
def bound (c : Correspondent) : List (Option SocketAddress × UInt8) :=
  c.sent ++ addressed (Addressed.peer c) c.waiting

/-! ## From state to state -/

/-- Between the two `bytes` were written, and the front of what waited and was written has gone to
the peer, who is the same. -/
structure Sends (bytes : Bytes) (before after : Correspondent) : Prop where
  mails : Buffered.Mails bytes before.inner after.inner
  meant : after.meant = before.meant ++ addressed (Addressed.peer before) bytes

/-- Between the two nothing was written and nothing has gone out; the peer may be another one. -/
structure Holds (before after : Correspondent) : Prop where
  meant : after.meant = before.meant
  sent : after.sent = before.sent
  waiting : after.waiting = before.waiting

/-- The peer becomes another one while something waits. -/
def Disturbs (before after : Correspondent) : Prop :=
  Addressed.peer after ≠ Addressed.peer before ∧ before.waiting ≠ []

variable {bytes more : Bytes} {before between after : Correspondent}

theorem sends_refl (c : Correspondent) : Sends [] c c :=
  ⟨Buffered.mails_refl _, by simp⟩

theorem Sends.peer (h : Sends bytes before after) :
    Addressed.peer after = Addressed.peer before := h.mails.peer

theorem Sends.trans (h : Sends bytes before between) (h' : Sends more between after) :
    Sends (bytes ++ more) before after where
  mails := h.mails.trans h'.mails
  meant := by rw [h'.meant, h.meant, h.peer, addressed_append, List.append_assoc]

/-- What is written is bound for the peer, whether it goes out or waits. -/
theorem Sends.bound (h : Sends bytes before after) :
    after.bound = before.bound ++ addressed (Addressed.peer before) bytes := by
  obtain ⟨gone, hbytes, hsent⟩ := h.mails.posted
  calc after.bound
      = before.sent ++ addressed (Addressed.peer before) (gone ++ after.waiting) := by
        rw [Correspondent.bound, h.peer, addressed_append, ← List.append_assoc]
        exact congrArg (· ++ _) hsent
    _ = before.sent ++ addressed (Addressed.peer before) (before.waiting ++ bytes) :=
        congrArg (fun all => before.sent ++ addressed _ all) hbytes
    _ = before.bound ++ addressed (Addressed.peer before) bytes := by
        rw [addressed_append, ← List.append_assoc]
        rfl

theorem holds_refl (c : Correspondent) : Holds c c := ⟨rfl, rfl, rfl⟩

theorem Holds.trans (h : Holds before between) (h' : Holds between after) : Holds before after :=
  ⟨h'.meant.trans h.meant, h'.sent.trans h.sent, h'.waiting.trans h.waiting⟩

/-- Every byte that was written has gone out or waits, in order. -/
def Kept (c : Correspondent) : Prop := c.bound.map Prod.snd = c.meant.map Prod.snd

/-- Everything has gone to whom it was meant for, or would go there now. -/
def Faithful (c : Correspondent) : Prop := c.bound = c.meant

theorem Sends.kept (h : Sends bytes before after) (hkept : before.Kept) : after.Kept := by
  rw [Kept, h.bound, h.meant, List.map_append, List.map_append, hkept]

theorem bound_bytes (c : Correspondent) :
    c.bound.map Prod.snd = c.sent.map Prod.snd ++ c.waiting := by
  rw [bound, List.map_append, map_snd_addressed]

theorem Holds.kept (h : Holds before after) (hkept : before.Kept) : after.Kept := by
  rw [Kept, bound_bytes, h.sent, h.waiting, h.meant, ← bound_bytes]
  exact hkept

theorem Sends.faithful (h : Sends bytes before after) (hbefore : before.Faithful) :
    after.Faithful ↔ ¬ Disturbs before after := by
  have hafter : after.Faithful := by rw [Faithful, h.bound, h.meant, hbefore]
  exact iff_of_true hafter fun hdisturbs => hdisturbs.1 h.peer

theorem Holds.faithful (h : Holds before after) (hbefore : before.Faithful) :
    after.Faithful ↔ ¬ Disturbs before after := by
  calc after.Faithful
      ↔ addressed (Addressed.peer after) before.waiting =
          addressed (Addressed.peer before) before.waiting := by
        rw [Faithful, h.meant, ← hbefore, bound, bound, h.sent, h.waiting,
          List.append_cancel_left_eq]
    _ ↔ ¬ Disturbs before after := by
        rw [addressed_inj, Decidable.or_iff_not_not_and_not]
        rfl

/-! ## Calls of the transport -/

variable {ω : Type} [HostWorld ω]

/-- Every write is told from the state before and after it. -/
theorem sends_account : Transport.Account ω Sends where
  nothing := sends_refl
  append h h' := h.trans h'
  write bytes _ := Ledger.writing_ensures <|
    ((Buffered.mails_account Handle.keepsPeer).writeRaw bytes _).mono
      fun _ _ hmails => ⟨hmails, rfl⟩

theorem flush_sends (state : Correspondent × ω) :
    (Transport.flushRaw : Action (Correspondent × ω) TransportError Unit).Ensures state
      fun result after => Sends [] state.1 after.1 ∧ (result = .ok () → after.1.waiting = []) := by
  refine Ledger.passing_ensures (((Buffered.mails_account Handle.keepsPeer).flushRaw _).mono ?_)
  rintro result after ⟨hmails, hnone⟩
  exact ⟨⟨hmails, by simp [meant]⟩, fun hok => hnone (by rw [hok]; rfl)⟩

theorem close_sends (state : Correspondent × ω) :
    (Transport.close : Action (Correspondent × ω) Empty Unit).Ensures state
      fun _ after => Sends [] state.1 after.1 := by
  refine Ledger.passing_ensures ((Buffered.close_mails Handle.keepsPeer _).mono ?_)
  exact fun _ _ hmails => ⟨hmails, by simp [meant]⟩

theorem read_holds (room : Nat) :
    (Transport.readRaw room : Action (Correspondent × ω) TransportError Bytes).Obeys
      (Channel.Across Holds) := by
  refine fun state => Ledger.passing_ensures ((Buffered.readRaw_rests room _).mono ?_)
  exact fun _ _ hrests => ⟨rfl, hrests.1, hrests.2⟩

theorem poll_holds (timeout : Option Duration) :
    (Transport.pollReadable timeout : Action (Correspondent × ω) TransportError Bool).Obeys
      (Channel.Across Holds) := by
  refine fun state => Ledger.passing_ensures ((Buffered.pollReadable_rests timeout _).mono ?_)
  exact fun _ _ hrests => ⟨rfl, hrests.1, hrests.2⟩

/-! ## Operations of the channel -/

open Channel

theorem perform_sends {operation : Operation} (hputs : operation.puts = true) :
    (operation.perform : ChannelAction Correspondent ω Unit).Obeys
      (Through fun before after => ∃ bytes, Sends bytes before after) := by
  refine Operation.perform_puts (fun c => ⟨[], sends_refl c⟩) ?_ ?_ ?_ hputs
  · rintro _ _ _ ⟨bytes, h⟩ ⟨more, h'⟩
    exact ⟨bytes ++ more, h.trans h'⟩
  · exact fun bytes state => (sends_account.write bytes state).mono fun _ _ h => ⟨_, h⟩
  · exact fun state => (flush_sends state).mono fun _ _ h => ⟨[], h.1⟩

theorem perform_holds {operation : Operation} (hasks : operation.puts = false) :
    (operation.perform : ChannelAction Correspondent ω Unit).Obeys (Through Holds) :=
  Operation.perform_asks holds_refl Holds.trans read_holds poll_holds hasks

/-- A flush that succeeds leaves nothing waiting. -/
theorem channelFlush_sends (state : Channel Correspondent × Surroundings ω) :
    (Channel.flush : ChannelAction Correspondent ω Unit).Ensures state fun result after =>
      Sends [] state.1.transport after.1.transport ∧
        (result = .ok () → after.1.transport.waiting = []) := by
  refine onTransport_orFail_ensures ((flush_sends _).mono ?_)
  rintro result after ⟨hsends, hnone⟩
  cases result with
  | ok _ => exact ⟨hsends, fun _ => hnone rfl⟩
  | error cause =>
      rintro e ⟨channel, around⟩ - ⟨_, _, rfl⟩
      exact ⟨hsends, nofun⟩

/-- Every operation leads from a faithful state to one exactly if it does not disturb. -/
theorem perform_faithful (operation : Operation)
    (state : Channel Correspondent × Surroundings ω) (hbefore : state.1.transport.Faithful) :
    (operation.perform : ChannelAction Correspondent ω Unit).Ensures state fun _ after =>
      (after.1.transport.Faithful ↔ ¬ Disturbs state.1.transport after.1.transport) := by
  cases hputs : operation.puts with
  | true =>
      exact (perform_sends hputs state).mono fun _ _ ⟨_, hsends⟩ => hsends.faithful hbefore
  | false =>
      exact (perform_holds hputs state).mono fun _ _ hholds => hholds.faithful hbefore

theorem perform_kept (operation : Operation) (state : Channel Correspondent × Surroundings ω)
    (hbefore : state.1.transport.Kept) :
    (operation.perform : ChannelAction Correspondent ω Unit).Ensures state fun _ after =>
      after.1.transport.Kept := by
  cases hputs : operation.puts with
  | true => exact (perform_sends hputs state).mono fun _ _ ⟨_, hsends⟩ => hsends.kept hbefore
  | false => exact (perform_holds hputs state).mono fun _ _ hholds => hholds.kept hbefore

/-! ## Histories -/

/-- The states that operations on a channel lead to that was opened over a handle with buffers of
`capacity` bytes, and the transport before and after each of them.  Each may end well or not, and
between two of them the channel may be given other settings and the world may become any other. -/
inductive History (capacity : Nat) : Channel Correspondent × Surroundings ω →
    List (Correspondent × Correspondent) → Prop
  | opened (handle : Handle) (role : Role) (config : ChannelConfig) (around : Surroundings ω) :
      History capacity (Channel.opened ⟨.wrap capacity ⟨handle, []⟩, []⟩ role config, around) []
  | ran {state after : Channel Correspondent × Surroundings ω}
      {turns : List (Correspondent × Correspondent)} {result : Except ChannelError Unit}
      (patience : Nat) (operation : Operation) (before : History capacity state turns)
      (run : operation.perform patience state = some (result, after)) :
      History capacity after (turns ++ [(state.1.transport, after.1.transport)])
  | elsewhere {channel : Channel Correspondent} {around : Surroundings ω}
      {turns : List (Correspondent × Correspondent)} (config : ChannelConfig)
      (around' : Surroundings ω) (before : History capacity (channel, around) turns) :
      History capacity ({ channel with config }, around') turns

variable {capacity : Nat} {state : Channel Correspondent × Surroundings ω}
  {turns : List (Correspondent × Correspondent)}

theorem History.kept (h : History capacity state turns) : state.1.transport.Kept := by
  induction h with
  | opened handle role config around => rfl
  | ran patience operation before run ih => exact perform_kept operation _ ih _ _ _ run
  | elsewhere config around' before ih => exact ih

theorem History.faithful (h : History capacity state turns)
    (hcalm : ∀ turn ∈ turns, ¬ Disturbs turn.1 turn.2) : state.1.transport.Faithful := by
  induction h with
  | opened handle role config around => rfl
  | ran patience operation before run ih =>
      have hbefore := ih fun turn hturn => hcalm turn (List.mem_append_left _ hturn)
      refine (perform_faithful operation _ hbefore _ _ _ run).mpr (hcalm (_, _) ?_)
      exact List.mem_append_right _ List.mem_cons_self
  | elsewhere config around' before ih => exact ih hcalm

/-- Whom the bytes of a buffered channel reach. -/
structure Correspondence (state : Channel Correspondent × Surroundings ω)
    (turns : List (Correspondent × Correspondent)) : Prop where
  /-- Nothing is lost, repeated or reordered. -/
  kept : state.1.transport.Kept
  /-- A send that succeeds has written its message for the peer. -/
  written : ∀ message, (sendMessage message : ChannelAction Correspondent ω Unit).Ensures state
    fun result after => result = .ok () →
      Sends message.wire state.1.transport after.1.transport
  writtenTraced : ∀ depth description message,
    (sendMessageTraced depth description message : ChannelAction Correspondent ω Unit).Ensures state
      fun result after => result = .ok () →
        Sends message.wire state.1.transport after.1.transport
  /-- Whatever a send or a flush sends, also one that fails, goes to the peer. -/
  puts : ∀ operation : Operation, operation.puts = true →
    (operation.perform : ChannelAction Correspondent ω Unit).Ensures state fun _ after =>
      ∃ bytes, Sends bytes state.1.transport after.1.transport
  /-- So does what is sent when the channel is closed. -/
  closes : (Transport.close : Action (Correspondent × ω) Empty Unit).Ensures
    (state.1.transport, state.2.world) fun _ after => Sends [] state.1.transport after.1
  /-- Nothing else sends. -/
  asks : ∀ operation : Operation, operation.puts = false →
    (operation.perform : ChannelAction Correspondent ω Unit).Ensures state fun _ after =>
      Holds state.1.transport after.1.transport
  /-- After a flush that succeeds nothing waits.  What was written has reached whom it was meant
  for exactly if all that waited was meant for the peer. -/
  flushes : (Channel.flush : ChannelAction Correspondent ω Unit).Ensures state fun result after =>
    result = .ok () → after.1.transport.waiting = [] ∧
      after.1.transport.sent = state.1.transport.bound ∧
      (after.1.transport.sent = after.1.transport.meant ↔ state.1.transport.Faithful)
  /-- That stays so exactly until an operation changes the peer while something waits. -/
  steps : ∀ operation : Operation, state.1.transport.Faithful →
    (operation.perform : ChannelAction Correspondent ω Unit).Ensures state fun _ after =>
      (after.1.transport.Faithful ↔ ¬ Disturbs state.1.transport after.1.transport)
  /-- It is so if no operation ever did. -/
  faithful : (∀ turn ∈ turns, ¬ Disturbs turn.1 turn.2) → state.1.transport.Faithful

theorem History.corresponds (h : History capacity state turns) : Correspondence state turns where
  kept := h.kept
  written message := sendMessage_writes sends_account message state
  writtenTraced depth description message :=
    sendMessageTraced_writes sends_account depth description message state
  puts _ hputs := perform_sends hputs state
  closes := close_sends _
  asks _ hasks := perform_holds hasks state
  flushes := by
    refine (channelFlush_sends state).mono ?_
    rintro result after ⟨hsends, hnone⟩ hok
    have hsent : after.1.transport.sent = state.1.transport.bound := by
      calc after.1.transport.sent = after.1.transport.bound := by
            rw [bound, hnone hok, addressed_nil, List.append_nil]
        _ = state.1.transport.bound := by rw [hsends.bound, addressed_nil, List.append_nil]
    refine ⟨hnone hok, hsent, ?_⟩
    rw [hsent, hsends.meant, addressed_nil, List.append_nil]
    rfl
  steps operation hbefore := perform_faithful operation state hbefore
  faithful := h.faithful

/-- In every state that operations on a buffered channel lead to, it is known whom its bytes reach;
and on a host the peer of a datagram handle is who sent the last datagram that it took. -/
theorem correspondence (h : History capacity state turns) : Correspondence state turns ∧
    ∀ number role peer descriptor host, Handle.Replies number role peer descriptor host :=
  ⟨h.corresponds, Handle.replies⟩

/-! ### Two visitors -/

/-- An address on the host itself. -/
def here (port : UInt16) : SocketAddress := { ip := .loopback .v4, port }

/-- A host with a socket that two visitors have sent a number to, and their sockets. -/
def visited : Surroundings Host :=
  { diagnostics := .empty
    world :=
      { network :=
          { datagrams :=
              [{ address := here 5000,
                 queue := [([0, 0, 0, 1], here 5001), ([0, 0, 0, 2], here 5002)] },
                { address := here 5001 }, { address := here 5002 }] } } }

/-- A channel over the first of these sockets, with buffers of 16 bytes. -/
def visitedServer : Channel Correspondent :=
  .opened ⟨.wrap 16 ⟨.datagram 0 .server none 3, []⟩, []⟩ .server
    { diagnostics := { sink := none, slot := 0 } }

/-- The first visitor is answered and flushed before the second one is heard. -/
theorem correspondence_answers : ∃ (state : Channel Correspondent × Surroundings Host)
    (turns : List (Correspondent × Correspondent)), History 16 state turns ∧
      state.1.transport.sent = addressed (some (here 5001)) [0, 0, 0, 7] ++
        addressed (some (here 5002)) [0, 0, 0, 9] ∧
      Correspondence state turns := by
  have hopened : History 16 (visitedServer, visited) [] := .opened _ _ _ _
  have hfirst := History.ran 3 (.accept .blocking (.primitive .int32)) hopened rfl
  have hanswer := History.ran 3 (.send (.primitive .int32 (.ofInt .int32 7))) hfirst rfl
  have hflushed := History.ran 3 .flush hanswer rfl
  have hsecond := History.ran 3 (.accept .blocking (.primitive .int32)) hflushed rfl
  have hagain := History.ran 3 (.send (.primitive .int32 (.ofInt .int32 9))) hsecond rfl
  have hall := History.ran 3 .flush hagain rfl
  exact ⟨_, _, hall, rfl, (correspondence hall).1⟩

/-- The second visitor is heard before the answer to the first one is flushed, and gets it. -/
theorem correspondence_astray : ∃ (state : Channel Correspondent × Surroundings Host)
    (turns : List (Correspondent × Correspondent)), History 16 state turns ∧
      state.1.transport.waiting = [] ∧
      state.1.transport.meant = addressed (some (here 5001)) [0, 0, 0, 7] ∧
      state.1.transport.sent = addressed (some (here 5002)) [0, 0, 0, 7] ∧
      state.2.world.network.datagrams.map (·.queue) = [[], [], [([0, 0, 0, 7], here 5000)]] := by
  have hopened : History 16 (visitedServer, visited) [] := .opened _ _ _ _
  have hfirst := History.ran 3 (.accept .blocking (.primitive .int32)) hopened rfl
  have hanswer := History.ran 3 (.send (.primitive .int32 (.ofInt .int32 7))) hfirst rfl
  have hsecond := History.ran 3 (.accept .blocking (.primitive .int32)) hanswer rfl
  have hall := History.ran 3 .flush hsecond rfl
  exact ⟨_, _, hall, rfl, rfl, rfl, rfl⟩

end Correspondent

end TypedChannel
