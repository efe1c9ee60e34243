import TypedChannel.Proofs.Host.VisitedLink
/-!
# TypedChannel.Proofs.Echo.Datagrams

A conversation with visitors, where each message ends with a terminator and
nobody asks for a number of them.

1. An exchange passes over empty datagrams and takes one that is not empty: that
   is answered, or dropped (`exchange_visited`).
2. If none comes in time behind an empty one, the exchange takes that for a peer
   that stalls, and the conversation ends.
3. So a conversation goes on for ever, unless an empty datagram ends it
   (`talk_visited`).
-/

namespace TypedChannel.Cli

open TypedChannel.Action TypedChannel.Channel

/-- What is heard in a datagram: what stands before the terminator, in the part that fits in the
buffer, if that is text. -/
def Echo.datagramHeard? (settings : EchoSettings) (config : ChannelConfig) (datagram : Bytes) :
    Option Echo.Heard :=
  settings.terminator.bind fun terminator =>
    let seen := datagram.take config.terminatedBufferSize
    (Bytes.indexOf? (Text.Utf8.encode terminator) seen).bind fun length =>
      Echo.hear (seen.take length)

/-- What can be told of visitors. -/
def Visitors.record {ω σ : Type} [World ω] [Transport ω σ] [Terminal ω] {stall : Duration}
    (visitors : Visitors ω σ stall) (settings : EchoSettings) : Echo.Record ω σ Bytes Bytes where
  Brings := visitors.Brings
  output := visitors.output
  hear := Echo.datagramHeard? settings
  units datagram := [datagram]
  format := settings.format

namespace Echo

variable {ω σ : Type} [World ω] [Transport ω σ] [Terminal ω] {settings : EchoSettings}
  {visitors : Visitors ω σ settings.stallTimeout}

/-! ## One receive -/

/-- A payload is decoded if something is heard in it, and is one to skip otherwise. -/
theorem decodeText_hears (payload : Bytes) {before : σ × ω} {state : Channel σ × Surroundings ω}
    {rest : List Bytes} {looks : Nat} (hwaited : visitors.Waited before (below state) rest looks) :
    ∃ after, visitors.Waited before (below after) rest looks ∧
      after.1.config = state.1.config ∧
      ((∃ heard, hear payload = some heard ∧ Text.Utf8.encode heard.text = heard.payload ∧
          (decodeText payload : ChannelAction σ ω String).Returns state (.ok heard.text) after) ∨
        hear payload = none ∧ ∃ e,
          (decodeText payload : ChannelAction σ ω String).Returns state (.error e) after ∧
            e.leavesAligned = true) := by
  have hholds : (visitors.still before rest looks).Holds (below state) [] := ⟨rfl, hwaited⟩
  cases hheard : hear payload with
  | some heard =>
      obtain ⟨rfl, htext⟩ := hear_eq_some hheard
      obtain ⟨after, hdecodes, ⟨-, hafter⟩, -, hconfig⟩ :=
        decodeText_draws heard.text state [] hholds
      rw [htext] at hdecodes
      exact ⟨after, hafter, hconfig, .inl ⟨heard, rfl, htext, hdecodes⟩⟩
  | none =>
      obtain ⟨fault, hfault⟩ := hear_eq_none hheard
      obtain ⟨e, after, hfails, hroot, ⟨-, hafter⟩, -, hconfig⟩ :=
        decodeText_breaks hfault state [] hholds
      have haligned : e.leavesAligned = true := by
        rw [← ChannelError.leavesAligned_root, hroot]
        rfl
      exact ⟨after, hafter, hconfig, .inr ⟨rfl, e, hfails, haligned⟩⟩

/-- The datagram that a receive gives is heard, or reported as one to skip. -/
theorem receive_datagram {terminator : String} (hterminator : settings.terminator = some terminator)
    (hsome : settings.terminator ≠ some "") {state : Channel σ × Surroundings ω}
    (hkind : Transport.kind ω state.1.transport = .datagram) {first : Bytes} {rest : List Bytes}
    {looks : Nat} {received : σ × ω}
    (hreceive : (Transport.receive state.1.config.terminatedBufferSize (some settings.stallTimeout)
      false : Action (σ × ω) TransportError Bytes).Returns (below state)
        (.ok (first.take state.1.config.terminatedBufferSize)) received)
    (hwaited : visitors.Waited (below state) received rest looks) : ∃ after,
      visitors.Waited (below state) (below after) rest looks ∧
      after.1.config = state.1.config ∧
      ((∃ heard, datagramHeard? settings state.1.config first = some heard ∧
          Text.Utf8.encode heard.text = heard.payload ∧
          (receive settings).Returns state (.ok heard.text) after) ∨
        datagramHeard? settings state.1.config first = none ∧
          ∃ e, (receive settings).Returns state (.error e) after ∧ e.leavesAligned = true) := by
  have hbytes := encode_ne_nil hsome hterminator
  let supply := visitors.still (below state) rest looks
  have hreceive' : (Transport.receive state.1.config.terminatedBufferSize
      (stalling settings).partial.timeout (stalling settings).partial.everything :
        Action (σ × ω) TransportError Bytes).Returns (below state) _ received := hreceive
  obtain ⟨taken, event, htakes, hbelow, -, hconfig⟩ := acceptBytes_returns hreceive'
  have htaken : supply.Holds (below taken) [] := by
    rw [hbelow]
    exact supply.note event ⟨rfl, hwaited⟩
  rw [receive_terminated hterminator, datagramHeard?, hterminator, Option.bind_some]
  dsimp only
  cases hindex : Bytes.indexOf? (Text.Utf8.encode terminator)
      (first.take state.1.config.terminatedBufferSize) with
  | none =>
      have hmissing : ∀ got, Breaks supply taken [] (·.leavesAligned = true)
          (Channel.fail (.terminatorNotFound got) : ChannelAction σ ω Bytes) :=
        fun got => fail_breaks _ rfl (by rfl) taken
      obtain ⟨e, after, hfails, haligned, ⟨-, hafter⟩, -, hkept⟩ := hmissing _ [] htaken
      rw [ChannelError.leavesAligned_root] at haligned
      have haccept : (acceptTerminatedDatagram (Text.Utf8.encode terminator) (stalling settings) :
          ChannelAction σ ω Bytes).Returns state (.error e) after := by
        refine (returns_see _).bind (htakes.bind ?_)
        rw [hindex]
        exact hfails
      have hall := acceptTerminatedBytes_of_datagram hbytes hkind haccept
      exact ⟨after, hafter, hkept.trans hconfig, .inr ⟨rfl, e, hall.bind_error, haligned⟩⟩
  | some length =>
      have haccept : (acceptTerminatedDatagram (Text.Utf8.encode terminator) (stalling settings) :
          ChannelAction σ ω Bytes).Returns state
            (.ok ((first.take state.1.config.terminatedBufferSize).take length)) taken := by
        refine (returns_see _).bind (htakes.bind ?_)
        rw [hindex]
        exact returns_pure _
      have hall := acceptTerminatedBytes_of_datagram hbytes hkind haccept
      rw [Option.bind_some]
      obtain ⟨after, hafter, hkept, hend⟩ := decodeText_hears
        ((first.take state.1.config.terminatedBufferSize).take length) htaken.2
      refine ⟨after, hafter, hkept.trans hconfig, ?_⟩
      obtain ⟨heard, hheard, htext, hdecodes⟩ | ⟨hnothing, e, hfails, haligned⟩ := hend
      · exact .inl ⟨heard, hheard, htext, hall.bind hdecodes⟩
      · exact .inr ⟨hnothing, e, hall.bind hfails, haligned⟩

/-- A receive that is over before a datagram with bytes came fails as one that timed out. -/
theorem receive_stalls {terminator : String} (hterminator : settings.terminator = some terminator)
    (hsome : settings.terminator ≠ some "") {state : Channel σ × Surroundings ω}
    (hkind : Transport.kind ω state.1.transport = .datagram) {rest : List Bytes} {looks : Nat}
    {received : σ × ω} {timeout : Duration} {wanted got : Nat}
    (hreceive : (Transport.receive state.1.config.terminatedBufferSize (some settings.stallTimeout)
      false : Action (σ × ω) TransportError Bytes).Returns (below state)
        (.error (.timeout timeout wanted got)) received)
    (hwaited : visitors.Waited (below state) received rest looks) : ∃ e after,
      (receive settings).Returns state (.error e) after ∧ e.category = .timeout ∧
      visitors.Waited (below state) (below after) rest looks ∧
      after.1.config = state.1.config := by
  have hreceive' : (Transport.receive state.1.config.terminatedBufferSize
      (stalling settings).partial.timeout (stalling settings).partial.everything :
        Action (σ × ω) TransportError Bytes).Returns (below state) _ received := hreceive
  -- Nothing is drawn any more, so it is enough to be told what stays as it is.
  have htaken : (visitors.still (below state) rest looks).Holds received [] := ⟨rfl, hwaited⟩
  obtain ⟨e, after, hfails, hroot, ⟨-, hafter⟩, -, hconfig⟩ := acceptBytes_breaks hreceive' htaken
  have haccept : (acceptTerminatedDatagram (Text.Utf8.encode terminator) (stalling settings) :
      ChannelAction σ ω Bytes).Returns state (.error e) after :=
    (returns_see _).bind hfails.bind_error
  have hall := acceptTerminatedBytes_of_datagram (encode_ne_nil hsome hterminator) hkind haccept
  rw [receive_terminated hterminator]
  exact ⟨e, after, hall.bind_error, ChannelError.category_of_root hroot, hafter, hconfig⟩

/-! ## One exchange -/

theorem datagramHeard?_empty (hsome : settings.terminator ≠ some "") (config : ChannelConfig) :
    datagramHeard? settings config [] = none := by
  cases hterminator : settings.terminator with
  | none => rw [datagramHeard?, hterminator, Option.bind_none]
  | some terminator =>
      have hbytes := encode_ne_nil hsome hterminator
      have hindex : Bytes.indexOf? (Text.Utf8.encode terminator) [] = none := by
        rw [Bytes.indexOf?, if_neg (by simpa using hbytes)]
      rw [datagramHeard?, hterminator, Option.bind_some, List.take_nil]
      simp only [hindex, Option.bind_none]

/-- Nothing is heard in empty datagrams. -/
theorem heardIn_empties (hsome : settings.terminator ≠ some "") (config : ChannelConfig)
    (count : Nat) : (visitors.record settings).heardIn config (List.replicate count []) = [] :=
  List.filterMap_replicate_of_none (datagramHeard?_empty hsome config)

/-- What was received is replied to, or dropped, and the conversation goes on. -/
theorem exchange_datagram {terminator : String}
    (hterminator : settings.terminator = some terminator) (hsome : settings.terminator ≠ some "")
    {state : (Channel σ × Surroundings ω) × Nat}
    (hkind : Transport.kind ω state.1.1.transport = .datagram) {first : Bytes} {rest : List Bytes}
    {looks : Nat} {received : σ × ω} (skipped : Nat)
    (hreceive : (Transport.receive state.1.1.config.terminatedBufferSize
      (some settings.stallTimeout) false : Action (σ × ω) TransportError Bytes).Returns
        (below state.1) (.ok (first.take state.1.1.config.terminatedBufferSize)) received)
    (hwaited : visitors.Waited (below state.1) received rest looks) : ∃ after,
      (exchange settings).Returns state (.ok (.again ())) after ∧
        (visitors.record settings).Served state after (List.replicate skipped [] ++ [first]) rest ∧
        visitors.looks (below state.1) ≤ visitors.looks (below after.1) + looks := by
  have hheardIn : (visitors.record settings).heardIn state.1.1.config
      (List.replicate skipped [] ++ [first]) =
        (datagramHeard? settings state.1.1.config first).toList := by
    rw [Record.heardIn_append, heardIn_empties hsome, Record.heardIn_singleton]
    rfl
  obtain ⟨between, hbetween, hconfig, hend⟩ :=
    receive_datagram hterminator hsome hkind hreceive hwaited
  obtain ⟨heard, hheard, htext, hreceives⟩ | ⟨hnothing, e, hreceives, haligned⟩ := hend
  · have hholds : (visitors.replies (below between) rest).Holds (below between) [] :=
      ⟨hbetween.brings, by simp, Nat.le_refl _⟩
    obtain ⟨replied, hexchange, ⟨hbrings, houtput, hlooks⟩, hkept⟩ :=
      exchange_replies _ hreceives htext hholds
    obtain ⟨hafter, hreported, hmost⟩ :=
      visitors.print (renderEcho heard.text heard.reply settings.format) hbrings
    have hwire : int32Wire heard.reply ≠ [] := List.ne_nil_of_length_pos (by simp)
    rw [datagrams_cons hwire, datagrams_nil, hbetween.output] at houtput
    have hwritten : (visitors.output (below replied)).written =
        (visitors.output (below state.1)).written ++ [int32Wire heard.reply] := by rw [houtput]
    have hprinted : (visitors.output (below replied)).printed =
        (visitors.output (below state.1)).printed := by rw [houtput]
    refine ⟨_, hexchange, .replied hafter ((congrArg Output.written hreported).trans hwritten)
      ((congrArg Output.printed hreported).trans (congrArg (· ++ _) hprinted)) rfl
      (hkept.trans hconfig) ?_, ?_⟩
    · rw [hheardIn, hheard, Option.toList_some]
    · have hfirst := hbetween.looks
      have hlast := Nat.le_trans hlooks hmost
      exact Nat.le_trans hfirst (Nat.add_le_add_right hlast looks)
  · obtain ⟨event, hexchange⟩ := exchange_skips hreceives haligned
    obtain ⟨hafter, hsame, hlooks⟩ := visitors.note event hbetween.brings
    refine ⟨_, hexchange, .silent hafter (hsame.trans hbetween.output) rfl hconfig ?_, ?_⟩
    · rw [hheardIn, hnothing, Option.toList_none]
    · exact Nat.le_trans hbetween.looks (Nat.add_le_add_right hlooks looks)

/-- The receive that begins here passes over empty datagrams and then waits in vain for the first
of `rest`. -/
def Stalls (visitors : Visitors ω σ settings.stallTimeout) (state : Channel σ × Surroundings ω)
    (rest : List Bytes) : Prop :=
  visitors.Late state.1.config.terminatedBufferSize
    (Deadline.startNow (some settings.stallTimeout) (below state).2).1
    ((below state).1, (Deadline.startNow (some settings.stallTimeout) (below state).2).2) rest

/-- An exchange that begins when a datagram is there.  It passes over empty ones and takes one that
is not, or ends behind an empty one. -/
theorem exchange_visited {terminator : String} (hterminator : settings.terminator = some terminator)
    (hsome : settings.terminator ≠ some "") (state : (Channel σ × Surroundings ω) × Nat)
    {datagrams : List Bytes} (hroom : state.1.1.config.terminatedBufferSize ≠ 0)
    (hbrings : visitors.Brings (below state.1) datagrams)
    (hpauses : visitors.pauses (below state.1) = 0) (hthere : datagrams ≠ [])
    (hlooks : 2 * datagrams.length ≤ visitors.looks (below state.1)) : ∃ taken rest after,
      datagrams = taken ++ rest ∧ taken ≠ [] ∧
        (visitors.record settings).Served state after taken rest ∧
        ((exchange settings).Returns state (.ok (.again ())) after ∧ taken.getLast? ≠ some [] ∧
            2 * rest.length ≤ visitors.looks (below after.1) ∨
          (exchange settings).Returns state (.ok (.done .ended)) after ∧
            taken.getLast? = some [] ∧ Stalls visitors state.1 rest) := by
  have hkind : Transport.kind ω state.1.1.transport = .datagram := visitors.datagram hbrings
  have hpositive := List.length_pos_iff.mpr hthere
  obtain ⟨skipped, rest, received, hwaited, hend⟩ :=
    visitors.receive_ends hroom hbrings hpauses hthere (by omega)
  obtain ⟨first, hfirst, rfl, hreceive⟩ | ⟨hskipped, rfl, hlate, hreceive⟩ := hend
  · obtain ⟨after, hexchange, hserved, hleft⟩ :=
      exchange_datagram hterminator hsome hkind skipped hreceive hwaited
    simp only [List.length_append, List.length_replicate, List.length_cons] at hlooks
    exact ⟨List.replicate skipped [] ++ [first], rest, after, by simp, by simp, hserved,
      .inl ⟨hexchange, by simpa using hfirst, by omega⟩⟩
  · obtain ⟨e, between, hreceives, htimeout, hbetween, hconfig⟩ :=
      receive_stalls hterminator hsome hkind hreceive hwaited
    obtain ⟨event, hexchange⟩ := exchange_stalls hreceives htimeout
    obtain ⟨hafter, hsame, -⟩ := visitors.note event hbetween.brings
    refine ⟨List.replicate skipped [], rest, _, rfl, by simpa using hskipped, ?_,
      .inr ⟨hexchange, by simp [List.getLast?_replicate, hskipped], hlate⟩⟩
    exact .silent hafter (hsame.trans hbetween.output) rfl hconfig (heardIn_empties hsome _ _)

/-! ## A conversation -/

/-- Some rounds into a conversation a datagram is there, and the receive of that round passes over
empty ones and waits in vain for the first of `rest`. -/
def GivesUp (visitors : Visitors ω σ settings.stallTimeout)
    (state : (Channel σ × Surroundings ω) × Nat) (rest : List Bytes) : Prop :=
  ∃ n asking ready, Continues (talkRound settings) n () state () asking ∧
    (messageReady (some pollInterval) : ChannelAction σ ω Bool).Returns asking.1 (.ok true) ready ∧
    Stalls visitors ready rest

/-- How a conversation goes with visitors that send these datagrams. -/
inductive Outcome (visitors : Visitors ω σ settings.stallTimeout)
    (state : (Channel σ × Surroundings ω) × Nat) : List Bytes → Prop
  /-- It goes on for ever, and from some round on all datagrams are taken and answered. -/
  | persists {datagrams : List Bytes} (first : Nat)
      (endless : Endless (talkRound settings) () state)
      (served : ∀ n, first ≤ n → ∃ later, Continues (talkRound settings) n () state () later ∧
        (visitors.record settings).Served state later datagrams [])
      (last : datagrams.getLast? ≠ some []) : Outcome visitors state datagrams
  /-- It ends behind an empty datagram, when none comes in time. -/
  | ends {taken rest : List Bytes} {after : (Channel σ × Surroundings ω) × Nat}
      (loops : Loops (talkRound settings) () state (.ok .ended) after)
      (served : (visitors.record settings).Served state after taken rest)
      (last : taken.getLast? = some []) (late : GivesUp visitors state rest) :
      Outcome visitors state (taken ++ rest)

/-- A round that goes on puts what it takes before. -/
theorem Outcome.again {state between : (Channel σ × Surroundings ω) × Nat}
    {taken left : List Bytes}
    (hround : (talkRound settings ()).Returns state (.ok (.again ())) between)
    (htaken : (visitors.record settings).Served state between taken left)
    (hlast : taken.getLast? ≠ some []) (h : Outcome visitors between left) :
    Outcome visitors state (taken ++ left) := by
  cases h with
  | persists first endless served last =>
      refine .persists (first + 1) (.again hround endless) ?_ ?_
      · intro n hn
        obtain ⟨n, rfl⟩ : ∃ m, n = m + 1 := ⟨n - 1, by omega⟩
        obtain ⟨later, hcontinues, hlater⟩ := served n (by omega)
        exact ⟨later, .again hround hcontinues, htaken.trans hlater⟩
      · rw [List.getLast?_append]
        cases hleft : left.getLast? with
        | none => simpa using hlast
        | some datagram => simpa [hleft] using last
  | @ends more rest after loops served last late =>
      obtain ⟨n, asking, ready, hrounds, hstalls⟩ := late
      rw [← List.append_assoc]
      refine .ends (.again hround loops) (htaken.trans served) ?_
        ⟨n + 1, asking, ready, .again hround hrounds, hstalls⟩
      rw [List.getLast?_append, last]
      rfl

/-- Once all datagrams have come, every round finds nothing. -/
theorem talkRound_waits (hcount : settings.count = none)
    {state : (Channel σ × Surroundings ω) × Nat} (hbrings : visitors.Brings (below state.1) []) :
    ∃ after, (visitors.record settings).Served state after [] [] ∧
      ∀ patience, visitors.patience ≤ patience →
        talkRound settings () patience state = some (.ok (.again ()), after) := by
  obtain ⟨polled, hpoll, hafter, hsame, -⟩ := visitors.idle pollInterval hbrings
  have hgoes : GoesOn settings state := ⟨visitors.running hbrings, by simp [hcount]⟩
  refine ⟨_, ?_, fun patience hle =>
    talkRound_idle_eq hgoes (messageReady_eq (hpoll patience hle))⟩
  exact .silent hafter hsame rfl rfl rfl

/-- They go on finding nothing. -/
theorem talkRounds_wait (hcount : settings.count = none) (n : Nat)
    {state : (Channel σ × Surroundings ω) × Nat} (hbrings : visitors.Brings (below state.1) []) :
    ∃ later, Continues (talkRound settings) n () state () later ∧
      (visitors.record settings).Served state later [] [] := by
  induction n generalizing state with
  | zero => exact ⟨state, .start () state, .silent hbrings rfl rfl rfl rfl⟩
  | succ n ih =>
      obtain ⟨after, hserved, hround⟩ := talkRound_waits hcount hbrings
      obtain ⟨later, hcontinues, hlater⟩ := ih hserved.brings
      exact ⟨later, .again ⟨visitors.patience, hround⟩ hcontinues, hserved.trans hlater⟩

theorem talk_waits (hcount : settings.count = none) {state : (Channel σ × Surroundings ω) × Nat}
    (hbrings : visitors.Brings (below state.1) []) : Outcome visitors state [] := by
  refine .persists 0 ?_ (fun n _ => talkRounds_wait hcount n hbrings) (by simp)
  refine endless_of_invariant (fun _ between => visitors.Brings (below between.1) [])
    visitors.patience (fun _ between hbetween => ?_) hbrings
  obtain ⟨after, hserved, hround⟩ := talkRound_waits hcount hbetween
  exact ⟨(), after, hserved.brings, hround⟩

/-- The rounds of a conversation, until all datagrams have come or an empty one has ended it. -/
theorem talk_outcome {terminator : String} (hterminator : settings.terminator = some terminator)
    (hsome : settings.terminator ≠ some "") (hcount : settings.count = none)
    (datagrams : List Bytes) (state : (Channel σ × Surroundings ω) × Nat)
    (hroom : state.1.1.config.terminatedBufferSize ≠ 0)
    (hbrings : visitors.Brings (below state.1) datagrams)
    (hlooks : 2 * datagrams.length ≤ visitors.looks (below state.1)) :
    Outcome visitors state datagrams := by
  -- A round that finds nothing uses up a pause; any other one takes datagrams.
  by_cases hthere : datagrams = []
  case pos =>
    subst hthere
    exact talk_waits hcount hbrings
  case neg =>
    have hgoes : GoesOn settings state := ⟨visitors.running hbrings, by simp [hcount]⟩
    obtain ⟨ready, polled, hpoll, hpolled, hsame, hmore, hpauses⟩ :=
      visitors.poll pollInterval hbrings hthere
    let between : Channel σ × Surroundings ω :=
      ({ state.1.1 with transport := polled.1 }, { state.1.2 with world := polled.2 })
    have hready : (messageReady (some pollInterval) : ChannelAction σ ω Bool).Returns state.1
        (.ok ready) between := messageReady_returns hpoll
    have hwaited : (visitors.record settings).Served state (between, state.2) [] datagrams :=
      .silent hpolled hsame rfl rfl rfl
    have hstill : 2 * datagrams.length ≤ visitors.looks (below between) :=
      Nat.le_trans hlooks hmore
    cases ready with
    | false =>
        have hfewer : visitors.pauses (below between) < visitors.pauses (below state.1) := hpauses
        have hlater := talk_outcome hterminator hsome hcount datagrams (between, state.2) hroom
          hpolled hstill
        exact .again (talkRound_idles hgoes hready) hwaited (by simp) hlater
    | true =>
        obtain ⟨taken, rest, after, hall, htook, hserved, hend⟩ := exchange_visited
          hterminator hsome (between, state.2) hroom hpolled hpauses hthere hstill
        have htaken := hwaited.trans hserved
        have hshorter : rest.length < datagrams.length := by
          rw [hall, List.length_append]
          have hpositive := List.length_pos_iff.mpr htook
          omega
        obtain ⟨hexchange, hlast, hleft⟩ | ⟨hexchange, hlast, hlate⟩ := hend
        · have hsize : after.1.1.config.terminatedBufferSize ≠ 0 := by
            rw [htaken.config]
            exact hroom
          have hlater := talk_outcome hterminator hsome hcount rest after hsize hserved.brings hleft
          exact hall ▸ .again (talkRound_exchanges hgoes hready hexchange) htaken hlast hlater
        · have hends := Loops.done (talkRound_exchanges hgoes hready hexchange)
          exact hall ▸ .ends hends htaken hlast ⟨0, state, between, .start () state, hready, hlate⟩
  termination_by (datagrams.length, visitors.pauses (below state.1))

/-- A conversation with visitors ends only behind an empty datagram behind which none comes in time,
and always if the last one is empty.  Otherwise it goes on for ever.  Up to there each datagram in
which something is heard is answered once, in their order, with the length of its payload, and the
others are dropped. -/
theorem talk_visited (visitors : Visitors ω σ settings.stallTimeout) {terminator : String}
    (datagrams : List Bytes) {state : (Channel σ × Surroundings ω) × Nat}
    (hterminator : settings.terminator = some terminator) (hsome : settings.terminator ≠ some "")
    (hcount : settings.count = none) (hroom : state.1.1.config.terminatedBufferSize ≠ 0)
    (hbrings : visitors.Brings (below state.1) datagrams)
    (hlooks : 2 * datagrams.length ≤ visitors.looks (below state.1)) :
    ((talk settings).Diverges state ∧ datagrams.getLast? ≠ some [] ∧
        ∃ first, ∀ n, first ≤ n → ∃ later,
          Continues (talkRound settings) n () state () later ∧
            (visitors.record settings).Served state later datagrams []) ∨
      ∃ answered unanswered after, datagrams = answered ++ [] :: unanswered ∧
        GivesUp visitors state unanswered ∧ (talk settings).Returns state (.ok .ended) after ∧
        (visitors.record settings).Served state after (answered ++ [[]]) unanswered := by
  cases talk_outcome hterminator hsome hcount datagrams state hroom hbrings hlooks with
  | persists first endless served last =>
      exact .inl ⟨endless.diverges, last, first, served⟩
  | @ends taken rest after loops served last late =>
      obtain ⟨answered, rfl⟩ := List.getLast?_eq_some_iff.mp last
      exact .inr ⟨answered, rest, after, List.append_assoc .., late, loops.returns, served⟩

/-- A channel over the only link of its host, to which these datagrams came. -/
def visitedSocket (datagrams : List Bytes) (polls : List LinkPoll) :
    Channel Handle × Surroundings Host :=
  (opened (.link 0 .datagram) .localEnd { diagnostics := { sink := none, slot := 0 } },
    Surroundings.withLink { kind := .datagram, datagrams, polls })

/-- Messages end with a dollar sign, and as many as come are served. -/
def endlessDollars : EchoSettings :=
  { terminator := some "$", stallTimeout := .ofMillis 5000, format := .raw }

/-- A message, a datagram without a terminator, and one that is not text. -/
def threeDatagrams : List Bytes := [[104, 105, 36], [110, 111], [255, 36]]

/-- The message is answered, the other two are dropped, and the conversation goes on for ever. -/
theorem talk_visited_three :
    (talk endlessDollars).Diverges (visitedSocket threeDatagrams [.ready false], 0) ∧
      ∃ first, ∀ n, first ≤ n → ∃ later,
        Continues (talkRound endlessDollars) n () (visitedSocket threeDatagrams [.ready false], 0)
          () later ∧
        (Link.visitors 0 (.ofMillis 5000)).output (below later.1) =
          { written := [int32Wire 2], printed := "hi\n" } ∧ later.2 = 1 := by
  have hbrings : (Link.visitors 0 (.ofMillis 5000)).Brings
      (below (visitedSocket threeDatagrams [.ready false])) threeDatagrams :=
    ⟨rfl, rfl, _, rfl, ⟨rfl, rfl, rfl, rfl, rfl, by simp, rfl, rfl, rfl⟩, rfl⟩
  obtain ⟨hdiverges, -, first, hserved⟩ | ⟨answered, unanswered, -, hall, -⟩ :=
    @talk_visited Host Handle _ _ _ endlessDollars (Link.visitors 0 (.ofMillis 5000)) "$"
      threeDatagrams (_, 0) rfl (by decide) rfl (by decide) hbrings (by decide)
  · refine ⟨hdiverges, first, fun n hn => ?_⟩
    obtain ⟨later, hcontinues, hlater⟩ := hserved n hn
    exact ⟨later, hcontinues, hlater.output.trans rfl, hlater.counted.trans rfl⟩
  · have hempty : [] ∈ threeDatagrams := by simp [hall]
    exact absurd hempty (by decide)

/-- A message that comes a moment too late behind an empty datagram. -/
def lateMessage : Channel Handle × Surroundings Host :=
  visitedSocket [[], [104, 105, 36]] [.ready true, .ready true, .ready false]

/-- The empty datagram ends the conversation, and the message is not answered. -/
theorem talk_ends_behind_empty : ∃ after,
    (talk endlessDollars).Returns (lateMessage, 0) (.ok .ended) after ∧ after.2 = 0 ∧
      (Link.visitors 0 (.ofMillis 5000)).output (below after.1) = { written := [], printed := "" } ∧
      (Link.visitors 0 (.ofMillis 5000)).Brings (below after.1) [[104, 105, 36]] ∧
      datagramHeard? endlessDollars after.1.1.config [104, 105, 36] = some ⟨[104, 105], "hi"⟩ := by
  refine ⟨((talk endlessDollars 5 (lateMessage, 0)).map Prod.snd).getD (lateMessage, 0),
    ⟨5, fun patience hle => ?_⟩, ?_⟩
  · obtain ⟨k, rfl⟩ := Nat.exists_eq_add_of_le' hle
    rfl
  · exact ⟨rfl, rfl, ⟨rfl, rfl, _, rfl, ⟨rfl, rfl, rfl, rfl, rfl, by simp, rfl, rfl, rfl⟩, rfl⟩,
      rfl⟩

end Echo

end TypedChannel.Cli
