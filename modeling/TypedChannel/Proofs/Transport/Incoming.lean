import TypedChannel.Proofs.Host.Link
import TypedChannel.Proofs.Transport.Receive
import TypedChannel.Proofs.Transport.Supply
/-!
# TypedChannel.Proofs.Transport.Incoming

What a receive makes of every sequence of answers.

* `Reception.later`: a reception that does not end with its first round is one
  of what is missing after it.  `Reception.resume` takes that to any of its
  calls: a readiness check begins a round, and a read stands behind one that
  said yes.
* `Gathered wanted timeout everything calls result`: the reads fill the room
  from its front, and the last call decides the result.
* `Inlet`: a transport whose checks and reads all come back.  They may give any
  part of the room or nothing, and fail as they like; only fruitless they must
  not be for ever.  Every link that gives anything at all is one.
-/

namespace TypedChannel

open TypedChannel.Action

/-! ## From a call on -/

namespace Reception

variable {wanted : Nat} {timeout : Option Duration} {everything : Bool} {got : Bytes}
  {check take call : TransportCall} {calls more before rest : List TransportCall}
  {result : Except TransportError Bytes}

theorem begins (h : Reception wanted timeout everything got (call :: rest) result) :
    got.length < wanted ∧ ∃ left answer, call = .poll left answer := by
  cases h with
  | late missing | blind missing | interrupted missing _ _ | failed missing _ | first missing _ _
    | more missing _ _ => exact ⟨missing, _, _, rfl⟩

theorem goes_on (h : Reception wanted timeout everything got (check :: take :: more) result) :
    (∃ left, check = .poll left (.ok true)) ∧
      ∃ answer, take = .read (wanted - got.length) answer := by
  cases h with
  | interrupted _ _ _ | failed _ _ | first _ _ _ | more _ _ _ => exact ⟨⟨_, rfl⟩, _, rfl⟩

/-- What follows the first round is a reception of its own. -/
theorem later (h : Reception wanted timeout everything got (check :: take :: more) result)
    (hmore : more ≠ []) :
    Reception wanted timeout everything (got ++ taken [check, take]) more result ∧
      (everything = true ∨ taken [check, take] = []) := by
  cases h with
  | interrupted _ _ next => simpa using next
  | failed _ _ | first _ _ _ => contradiction
  | more _ eager next => exact ⟨by simpa using next, by simpa using eager⟩

/-- Where a call stands in a reception: it begins a round, or it reads behind a check that said
yes.  Either way a reception of what is missing goes on from the round that the call is in. -/
theorem resume : ∀ {before : List TransportCall} {got : Bytes},
    Reception wanted timeout everything got (before ++ call :: rest) result →
      (everything = true ∨ taken before = []) ∧
      (((∃ left answer, call = .poll left answer) ∧
          Reception wanted timeout everything (got ++ taken before) (call :: rest) result) ∨
        ∃ earlier left, before = earlier ++ [.poll left (.ok true)] ∧
          Reception wanted timeout everything (got ++ taken before)
            (.poll left (.ok true) :: call :: rest) result)
  | [], got, h => ⟨.inr rfl, .inl ⟨h.begins.2, by simpa using h⟩⟩
  | [check], got, h => by
      obtain ⟨⟨left, rfl⟩, -⟩ := h.goes_on
      exact ⟨.inr rfl, .inr ⟨[], left, rfl, by simpa using h⟩⟩
  | check :: take :: before, got, h => by
      obtain ⟨hnext, heager⟩ := later h (by simp)
      have htaken : taken (check :: take :: before) = taken [check, take] ++ taken before := by
        simp
      obtain ⟨hall, hcall⟩ := hnext.resume
      rw [List.append_assoc, ← htaken] at hcall
      refine ⟨?_, ?_⟩
      · obtain hevery | hnone := heager
        · exact .inl hevery
        · rw [htaken, hnone, List.nil_append]
          exact hall
      · obtain hpoll | ⟨earlier, left, hbefore, hread⟩ := hcall
        · exact .inl hpoll
        · exact .inr ⟨check :: take :: earlier, left, by rw [hbefore]; rfl, hread⟩

/-- A readiness check begins a round. -/
theorem resume_poll {left : Option Duration} {answer : Except TransportError Bool}
    (h : Reception wanted timeout everything got (before ++ .poll left answer :: rest) result) :
    Reception wanted timeout everything (got ++ taken before) (.poll left answer :: rest)
      result := by
  obtain ⟨-, ⟨-, hround⟩ | ⟨_, _, -, hround⟩⟩ := h.resume
  · exact hround
  · obtain ⟨-, _, hread⟩ := hround.goes_on
    contradiction

/-- A read stands behind a check that said yes. -/
theorem resume_read {room : Nat} {answer : Except TransportError Bytes}
    (h : Reception wanted timeout everything got (before ++ .read room answer :: rest) result) :
    ∃ earlier left, before = earlier ++ [.poll left (.ok true)] ∧
      Reception wanted timeout everything (got ++ taken before)
        (.poll left (.ok true) :: .read room answer :: rest) result := by
  obtain ⟨-, ⟨⟨_, _, hpoll⟩, -⟩ | hread⟩ := h.resume
  · contradiction
  · exact hread

/-! ### Ends of rounds -/

variable {left : Option Duration} {room : Nat} {e : TransportError}

theorem of_late
    (h : Reception wanted timeout everything got (.poll left (.ok false) :: rest) result) :
    rest = [] ∧ result = .error (.timeout (timeout.getD .zero) wanted got.length) := by
  cases h with
  | late _ => exact ⟨rfl, rfl⟩

theorem of_blind
    (h : Reception wanted timeout everything got (.poll left (.error e) :: rest) result) :
    rest = [] ∧ result = .error e := by
  cases h with
  | blind _ => exact ⟨rfl, rfl⟩

theorem of_failed (final : e.isInterrupted = false)
    (h : Reception wanted timeout everything got
      (.poll left (.ok true) :: .read room (.error e) :: rest) result) :
    rest = [] ∧ result = .error e := by
  cases h with
  | interrupted _ again _ =>
      rw [final] at again
      contradiction
  | failed _ _ => exact ⟨rfl, rfl⟩

theorem of_first {chunk : Bytes} (some : chunk ≠ [])
    (h : Reception wanted timeout false got
      (.poll left (.ok true) :: .read room (.ok chunk) :: rest) result) :
    rest = [] ∧ result = .ok (got ++ chunk) := by
  cases h with
  | first _ _ _ => exact ⟨rfl, rfl⟩
  | more _ eager _ => simp [some] at eager

/-- A read that has given nothing is not the last call. -/
theorem of_fruitless {answer : Except TransportError Bytes}
    (fruitless : answer = .ok [] ∨ ∃ e, answer = .error e ∧ e.isInterrupted = true)
    (h : Reception wanted timeout everything got
      (.poll left (.ok true) :: .read room answer :: rest) result) :
    ∃ left' answer' more, rest = .poll left' answer' :: more := by
  have hnext : got.length < wanted ∧ Reception wanted timeout everything got rest result := by
    cases h with
    | interrupted missing _ next => exact ⟨missing, next⟩
    | failed _ final =>
        obtain hempty | ⟨e, he, again⟩ := fruitless
        · contradiction
        · cases he
          rw [final] at again
          contradiction
    | first _ _ some => simp [some] at fruitless
    | more missing _ next =>
        obtain hempty | ⟨_, he, -⟩ := fruitless
        · cases hempty
          exact ⟨missing, by simpa using next⟩
        · contradiction
  obtain ⟨missing, next⟩ := hnext
  cases rest with
  | nil =>
      cases next
      omega
  | cons call more =>
      obtain ⟨-, left', answer', rfl⟩ := next.begins
      exact ⟨left', answer', more, rfl⟩

/-- What a receive fails with comes from its last call. -/
theorem failure_source (h : Reception wanted timeout everything got calls (.error e)) :
    ∃ before,
      (∃ left, calls = before ++ [.poll left (.ok false)] ∧
          e = .timeout (timeout.getD .zero) wanted (got ++ taken before).length) ∨
        (∃ left, calls = before ++ [.poll left (.error e)]) ∨
        ∃ room, calls = before ++ [.read room (.error e)] ∧ e.isInterrupted = false := by
  generalize hresult : (Except.error e : Except TransportError Bytes) = result at h
  induction h with
  | full _ | first _ _ _ => contradiction
  | @late _ left _ =>
      cases hresult
      exact ⟨[], .inl ⟨left, rfl, by simp⟩⟩
  | @blind _ left _ _ =>
      cases hresult
      exact ⟨[], .inr (.inl ⟨left, rfl⟩)⟩
  | @failed got left _ _ final =>
      cases hresult
      exact ⟨[.poll left (.ok true)], .inr (.inr ⟨wanted - got.length, rfl, final⟩)⟩
  | @interrupted got left cause _ _ _ _ _ ih =>
      obtain ⟨before, hend⟩ := ih hresult
      refine ⟨.poll left (.ok true) :: .read (wanted - got.length) (.error cause) :: before, ?_⟩
      simpa using hend
  | @more got chunk left _ _ _ _ _ ih =>
      obtain ⟨before, hend⟩ := ih hresult
      refine ⟨.poll left (.ok true) :: .read (wanted - got.length) (.ok chunk) :: before, ?_⟩
      simpa using hend

/-- A transport that keeps to the room it is offered fills no more than all of it. -/
theorem length_le (h : Reception wanted timeout everything got calls result)
    (start : got.length ≤ wanted)
    (fits : ∀ room chunk, .read room (.ok chunk) ∈ calls → chunk.length ≤ room) :
    (got ++ taken calls).length ≤ wanted := by
  induction h with
  | full _ | late _ | blind _ | failed _ _ => simpa using start
  | interrupted _ _ _ ih =>
      simpa using ih start fun room chunk hread => fits room chunk (by simp [hread])
  | @first got chunk _ missing _ _ =>
      have hchunk := fits (wanted - got.length) chunk (by simp)
      simp only [taken_cons, taken_nil, TransportCall.taken_poll, TransportCall.taken_read_ok,
        List.nil_append, List.append_nil, List.length_append]
      omega
  | @more got chunk _ _ _ missing _ _ ih =>
      have hchunk := fits (wanted - got.length) chunk (by simp)
      have hnext : (got ++ chunk).length ≤ wanted := by
        rw [List.length_append]
        omega
      simpa using ih hnext fun room chunk hread => fits room chunk (by simp [hread])

theorem complete_of_ok {bytes : Bytes}
    (h : Reception wanted timeout true got calls (.ok bytes)) : wanted ≤ bytes.length := by
  generalize hresult : (Except.ok bytes : Except TransportError Bytes) = result at h
  induction h with
  | full enough =>
      cases hresult
      exact enough
  | late _ | blind _ | failed _ _ => contradiction
  | first _ content _ => contradiction
  | interrupted _ _ _ ih | more _ _ _ ih => exact ih hresult

/-- A receive that is content with the first bytes ends well with the read that gave them. -/
theorem last_of_ok {bytes : Bytes} (h : Reception wanted timeout false got calls (.ok bytes))
    (missing : got.length < wanted) : ∃ before room chunk,
      calls = before ++ [.read room (.ok chunk)] ∧ chunk ≠ [] ∧ bytes = got ++ chunk := by
  generalize hresult : (Except.ok bytes : Except TransportError Bytes) = result at h
  induction h with
  | full enough => omega
  | late _ | blind _ | failed _ _ => contradiction
  | @first got chunk left _ _ some =>
      cases hresult
      exact ⟨[.poll left (.ok true)], wanted - got.length, chunk, rfl, some, rfl⟩
  | @interrupted got left e _ _ _ _ _ ih =>
      obtain ⟨before, room, chunk, rfl, hlast⟩ := ih missing hresult
      exact ⟨.poll left (.ok true) :: .read (wanted - got.length) (.error e) :: before, room, chunk,
        rfl, hlast⟩
  | @more got chunk left _ _ _ eager _ ih =>
      have hempty : chunk = [] := by simpa using eager
      subst hempty
      rw [List.append_nil] at ih
      obtain ⟨before, room, chunk, rfl, hlast⟩ := ih missing hresult
      exact ⟨.poll left (.ok true) :: .read (wanted - got.length) (.ok []) :: before, room, chunk,
        rfl, hlast⟩

/-- What is missing can come. -/
theorem exists_ok (wanted : Nat) (timeout : Option Duration) (everything : Bool) (got : Bytes) :
    ∃ calls bytes, Reception wanted timeout everything got calls (.ok bytes) := by
  by_cases hfull : wanted ≤ got.length
  · exact ⟨[], got, .full hfull⟩
  · have hmissing : got.length < wanted := by omega
    have hchunk : List.replicate (wanted - got.length) (0 : UInt8) ≠ [] := by
      rw [ne_eq, List.replicate_eq_nil_iff]
      omega
    cases everything with
    | false => exact ⟨[.poll none (.ok true), .read _ (.ok _)], _, .first hmissing rfl hchunk⟩
    | true =>
        have henough : wanted ≤
            (got ++ List.replicate (wanted - got.length) (0 : UInt8)).length := by
          rw [List.length_append, List.length_replicate]
          omega
        exact ⟨[.poll none (.ok true), .read _ (.ok _)], _,
          .more hmissing (.inl rfl) (.full henough)⟩

end Reception

/-! ## The whole of it -/

/-- How the calls of a receive of `wanted` bytes go together with its result. -/
structure Gathered (wanted : Nat) (timeout : Option Duration) (everything : Bool)
    (calls : List TransportCall) (result : Except TransportError Bytes) : Prop where
  /-- Every call is a readiness check or a read. -/
  only : ∀ call ∈ calls, (∃ left answer, call = .poll left answer) ∨
    ∃ room answer, call = .read room answer
  /-- Every read follows a check that said yes. -/
  polled : ∀ before room answer rest, calls = before ++ .read room answer :: rest →
    ∃ earlier left, before = earlier ++ [.poll left (.ok true)]
  /-- It offers exactly the room that is still empty. -/
  offered : ∀ before room answer rest, calls = before ++ .read room answer :: rest →
    room ≠ 0 ∧ (taken before).length + room = wanted
  /-- If no read gives more than it was offered room for, then that much always has room. -/
  fits : (∀ room chunk, .read room (.ok chunk) ∈ calls → chunk.length ≤ room) →
    ∀ before rest, calls = before ++ rest → (taken before).length ≤ wanted
  /-- What a receive answers is what its reads have given, in order. -/
  answered : ∀ bytes, result = .ok bytes → bytes = taken calls
  complete : everything = true → ∀ bytes, result = .ok bytes → wanted ≤ bytes.length
  /-- One that need not be complete ends with the first read that gives something. -/
  first : everything = false → ∀ before room chunk rest,
    calls = before ++ .read room (.ok chunk) :: rest → chunk ≠ [] →
      rest = [] ∧ result = .ok chunk
  /-- And it ends well only with such a read, if it wants anything. -/
  last : everything = false → wanted ≠ 0 → ∀ bytes, result = .ok bytes →
    bytes ≠ [] ∧ ∃ before room, calls = before ++ [.read room (.ok bytes)]
  /-- A read that is interrupted or gives nothing is followed by another check. -/
  retried : ∀ before room answer rest, calls = before ++ .read room answer :: rest →
    (answer = .ok [] ∨ ∃ e, answer = .error e ∧ e.isInterrupted = true) →
      ∃ left answer' more, rest = .poll left answer' :: more
  /-- A check that runs out is the last call, and so is one that fails, or a read that fails
  otherwise than by an interruption. -/
  late : ∀ before left rest, calls = before ++ .poll left (.ok false) :: rest →
    rest = [] ∧ result = .error (.timeout (timeout.getD .zero) wanted (taken before).length)
  blind : ∀ before left e rest, calls = before ++ .poll left (.error e) :: rest →
    rest = [] ∧ result = .error e
  failed : ∀ before room e rest, calls = before ++ .read room (.error e) :: rest →
    e.isInterrupted = false → rest = [] ∧ result = .error e
  /-- Nothing else makes a receive fail. -/
  surfaced : ∀ e, result = .error e → ∃ before,
    (∃ left, calls = before ++ [.poll left (.ok false)] ∧
        e = .timeout (timeout.getD .zero) wanted (taken before).length) ∨
      (∃ left, calls = before ++ [.poll left (.error e)]) ∨
      ∃ room, calls = before ++ [.read room (.error e)] ∧ e.isInterrupted = false
  /-- For no bytes no call is made. -/
  nothing : wanted = 0 → calls = [] ∧ result = .ok []

theorem Reception.gathered {wanted : Nat} {timeout : Option Duration} {everything : Bool}
    {calls : List TransportCall} {result : Except TransportError Bytes}
    (h : Reception wanted timeout everything [] calls result) :
    Gathered wanted timeout everything calls result where
  only := by
    intro call hcall
    obtain ⟨before, rest, rfl⟩ := List.append_of_mem hcall
    obtain ⟨-, ⟨hpoll, -⟩ | ⟨_, _, -, hround⟩⟩ := h.resume
    · exact .inl hpoll
    · exact .inr ⟨_, hround.goes_on.2⟩
  polled := by
    rintro before room answer rest rfl
    obtain ⟨earlier, left, hbefore, -⟩ := h.resume_read
    exact ⟨earlier, left, hbefore⟩
  offered := by
    rintro before room answer rest rfl
    obtain ⟨-, _, -, hround⟩ := h.resume_read
    rw [List.nil_append] at hround
    obtain ⟨-, _, hread⟩ := hround.goes_on
    have hmissing := hround.begins.1
    cases hread
    omega
  fits := by
    rintro hfits before rest rfl
    have hall := h.length_le (Nat.zero_le wanted) hfits
    rw [List.nil_append, taken_append, List.length_append] at hall
    omega
  answered := by
    rintro bytes rfl
    simpa using h.ok_eq
  complete := by
    rintro rfl bytes rfl
    exact h.complete_of_ok
  first := by
    rintro rfl before room chunk rest rfl hchunk
    obtain ⟨hnone, -⟩ := h.resume
    obtain ⟨-, _, -, hround⟩ := h.resume_read
    have htaken : taken before = [] := by simpa using hnone
    rw [htaken, List.nil_append] at hround
    exact hround.of_first hchunk
  last := by
    rintro rfl hwanted bytes rfl
    obtain ⟨before, room, chunk, rfl, hchunk, rfl⟩ := h.last_of_ok (Nat.pos_of_ne_zero hwanted)
    exact ⟨hchunk, before, room, rfl⟩
  retried := by
    rintro before room answer rest rfl hfruitless
    obtain ⟨-, _, -, hround⟩ := h.resume_read
    exact hround.of_fruitless hfruitless
  late := by
    rintro before left rest rfl
    exact h.resume_poll.of_late
  blind := by
    rintro before left e rest rfl
    exact h.resume_poll.of_blind
  failed := by
    rintro before room e rest rfl hfinal
    obtain ⟨-, _, -, hround⟩ := h.resume_read
    exact hround.of_failed hfinal
  surfaced := by
    rintro e rfl
    exact h.failure_source
  nothing := by
    rintro rfl
    exact h.calls_of_full (Nat.zero_le _)

/-- Where a reception can go on, what it has is what its reads have given, and all that is missing
can still come. -/
theorem Transport.Approaches.gathered {wanted : Nat} {timeout : Option Duration} {everything : Bool}
    {calls : List TransportCall} {got : Bytes}
    (h : Approaches wanted timeout everything [] calls got) :
    got = taken calls ∧ ∃ more bytes, Gathered wanted timeout everything (calls ++ more)
      (.ok bytes) := by
  obtain ⟨more, bytes, hmore⟩ := Reception.exists_ok wanted timeout everything got
  have hall := h more _ hmore
  have hsame : got ++ taken more = taken calls ++ taken more := by
    rw [← hmore.ok_eq, hall.ok_eq, List.nil_append, taken_append]
  exact ⟨List.append_cancel_right hsame, more, bytes, hall.gathered⟩

/-! ## Receives that end -/

/-- A transport whose checks and reads come back. -/
structure Inlet (ω σ : Type) [World ω] [Transport ω σ] where
  Ready : σ × ω → Prop
  /-- How many more times in a row a read can give nothing. -/
  fruitless : σ × ω → Nat
  look : ∀ {transport : σ} {world : ω}, Ready (transport, world) →
    Ready (transport, (World.look world).2) ∧
      fruitless (transport, (World.look world).2) ≤ fruitless (transport, world)
  poll : ∀ {state : σ × ω} (timeout : Option Duration), Ready state → ∃ result after,
    (Transport.pollReadable timeout : Action (σ × ω) TransportError Bool).Returns state result
        after ∧
      Ready after ∧ fruitless after ≤ fruitless state
  read : ∀ {state : σ × ω} (room : Nat), Ready state → room ≠ 0 → ∃ result after,
    (Transport.readRaw room : Action (σ × ω) TransportError Bytes).Returns state result after ∧
      Ready after ∧ ((result = .ok [] ∨ ∃ e, result = .error e ∧ e.isInterrupted = true) →
        fruitless after < fruitless state)

namespace Inlet

variable {ω σ : Type} [World ω] [Transport ω σ]

/-- To write its calls down changes nothing about an inlet. -/
def recorded (inlet : Inlet ω σ) : Inlet ω (Recorded σ) where
  Ready state := inlet.Ready (state.1.inner, state.2)
  fruitless state := inlet.fruitless (state.1.inner, state.2)
  look hready := inlet.look hready
  poll timeout hready := by
    obtain ⟨result, after, hpoll, hafter⟩ := inlet.poll timeout hready
    exact ⟨result, _, Recorded.returns_recording hpoll, hafter⟩
  read room hready hroom := by
    obtain ⟨result, after, hread, hafter⟩ := inlet.read room hready hroom
    exact ⟨result, _, Recorded.returns_recording hread, hafter⟩

/-- A round that is not the last gets closer to the end, or has used up a fruitless read. -/
theorem round_returns (inlet : Inlet ω σ) (wanted : Nat) (timeout : Option Duration)
    (everything : Bool) (deadline : Deadline) (got : Bytes) {state : σ × ω}
    (hready : inlet.Ready state) : ∃ ended after,
      (Transport.receiveRound wanted timeout everything deadline got :
        Action (σ × ω) TransportError _).Returns state ended after ∧
      inlet.Ready after ∧ ∀ next, ended = .ok (.again next) →
        wanted - next.length < wanted - got.length ∨
          next = got ∧ inlet.fruitless after < inlet.fruitless state := by
  by_cases hfull : wanted ≤ got.length
  · exact ⟨_, state, Transport.receiveRound_full hfull, hready, nofun⟩
  have hmissing : got.length < wanted := by omega
  obtain ⟨hlooked, hfewer⟩ := Deadline.remainingNow_keeps
    (P := fun world => inlet.Ready (state.1, world) ∧
      inlet.fruitless (state.1, world) ≤ inlet.fruitless state)
    (.inr rfl : deadline.InTime true) ⟨hready, Nat.le_refl _⟩ fun _ => inlet.look hready
  obtain ⟨answer, polled, hpoll, hpolled, hpollfewer⟩ :=
    inlet.poll (deadline.remainingNow state.2).1 hlooked
  cases answer with
  | error e =>
      exact ⟨_, polled, Transport.receiveRound_blind timeout everything hmissing hpoll, hpolled,
        nofun⟩
  | ok yes =>
      cases yes with
      | false =>
          exact ⟨_, polled, Transport.receiveRound_times_out timeout everything hmissing hpoll,
            hpolled, nofun⟩
      | true =>
          obtain ⟨result, after, hread, hafter, hless⟩ :=
            inlet.read (wanted - got.length) hpolled (by omega)
          by_cases hgives : result = .ok [] ∨ ∃ e, result = .error e ∧ e.isInterrupted = true
          · have hround := Transport.receiveRound_again timeout everything hmissing hpoll hread
              (hgives.imp (fun h => ⟨h, .inr rfl⟩) fun ⟨e, he, again⟩ => ⟨e, he, again, rfl⟩)
            have hfruitless := hless hgives
            refine ⟨_, after, hround, hafter, fun next hnext => .inr ?_⟩
            cases hnext
            exact ⟨List.append_nil got, by omega⟩
          · cases result with
            | error e =>
                have hfinal : e.isInterrupted = false := by simpa using hgives
                exact ⟨_, after, Transport.receiveRound_fails timeout everything hmissing hpoll
                  hread hfinal, hafter, nofun⟩
            | ok chunk =>
                have hchunk : chunk ≠ [] := by simpa using hgives
                cases everything with
                | false =>
                    exact ⟨_, after, Transport.receiveRound_first timeout hmissing hchunk hpoll
                      hread, hafter, nofun⟩
                | true =>
                    have hround := Transport.receiveRound_again timeout true hmissing hpoll hread
                      (.inl ⟨rfl, .inl rfl⟩)
                    refine ⟨_, after, hround, hafter, fun next hnext => .inl ?_⟩
                    cases hnext
                    have hlength := List.length_pos_iff.mpr hchunk
                    rw [List.length_append]
                    omega

/-- The rounds of a receive come to an end: each that is not the last finds fewer bytes missing, or
as many and fewer fruitless reads to come. -/
theorem receive_loops (inlet : Inlet ω σ) (wanted : Nat) (timeout : Option Duration)
    (everything : Bool) (deadline : Deadline) (got : Bytes) (state : σ × ω)
    (hready : inlet.Ready state) : ∃ result after,
      Loops (Transport.receiveRound wanted timeout everything deadline) got state result after := by
  obtain ⟨ended, between, hround, hbetween, hcloser⟩ :=
    inlet.round_returns wanted timeout everything deadline got hready
  cases ended with
  | error e => exact ⟨_, between, .failed hround⟩
  | ok round =>
      cases round with
      | done bytes => exact ⟨_, between, .done hround⟩
      | again next =>
          obtain hnearer | ⟨hsame, hfewer⟩ := hcloser next rfl
          · obtain ⟨result, after, hloops⟩ :=
              inlet.receive_loops wanted timeout everything deadline next between hbetween
            exact ⟨result, after, .again hround hloops⟩
          · rw [hsame] at hround
            obtain ⟨result, after, hloops⟩ :=
              inlet.receive_loops wanted timeout everything deadline got between hbetween
            exact ⟨result, after, .again hround hloops⟩
  termination_by (wanted - got.length, inlet.fruitless state)

theorem receive_returns (inlet : Inlet ω σ) (wanted : Nat) (timeout : Option Duration)
    (everything : Bool) {state : σ × ω} (hready : inlet.Ready state) : ∃ result after,
      (Transport.receive wanted timeout everything :
        Action (σ × ω) TransportError Bytes).Returns state result after := by
  have hstarted := Deadline.startNow_keeps (P := fun world => inlet.Ready (state.1, world))
    (.inr rfl : InTime true timeout) hready fun _ => (inlet.look hready).1
  obtain ⟨result, after, hloops⟩ :=
    inlet.receive_loops wanted timeout everything _ [] _ hstarted
  exact ⟨result, after, (returns_step _).bind hloops.returns⟩

end Inlet

/-- A link whose limit lets reads give something, whatever its script makes of them. -/
def Link.inlet (number : Nat) : Inlet Host Handle where
  Ready state := (∃ kind, state.1 = .link number kind) ∧
    ∃ link, state.2.links[number]? = some link ∧ link.readChunk ≠ some 0
  fruitless state := (state.2.links[number]?).elim 0 Link.fruitless
  look hready := ⟨hready, Nat.le_refl _⟩
  poll := by
    intro state timeout hready
    obtain ⟨handle, host⟩ := state
    obtain ⟨⟨kind, rfl⟩, link, hlink, hchunk⟩ := hready
    cases hpoll : link.poll timeout with
    | mk answer after =>
        have hset := Handle.getElem?_set_link hlink after
        have hkeeps := Link.poll_keeps timeout link
        rw [hpoll] at hkeeps
        have hready : after.readChunk ≠ some 0 := hkeeps.2 ▸ hchunk
        have hsame : ((host.links.set number after)[number]?).elim 0 Link.fruitless ≤
            (host.links[number]?).elim 0 Link.fruitless := by
          simp only [hset, hlink, Option.elim_some, hkeeps.1, Nat.le_refl]
        cases answer with
        | ok yes =>
            exact ⟨_, _, Handle.pollReadable_returns hlink hpoll,
              ⟨⟨kind, rfl⟩, after, hset, hready⟩, hsame⟩
        | error e =>
            exact ⟨_, _, Handle.pollReadable_fails hlink hpoll,
              ⟨⟨kind, rfl⟩, after, hset, hready⟩, hsame⟩
  read := by
    intro state room hready hroom
    obtain ⟨handle, host⟩ := state
    obtain ⟨⟨kind, rfl⟩, link, hlink, hchunk⟩ := hready
    cases hread : link.read room with
    | mk answer after =>
        have hset := Handle.getElem?_set_link hlink after
        have hkeeps := Link.read_readChunk room link
        rw [hread] at hkeeps
        have hready : after.readChunk ≠ some 0 := hkeeps ▸ hchunk
        have hfewer : (answer = .ok [] ∨ ∃ e, answer = .error (.failed e)) →
            ((host.links.set number after)[number]?).elim 0 Link.fruitless <
              (host.links[number]?).elim 0 Link.fruitless := by
          intro hnothing
          simpa only [hset, hlink, Option.elim_some] using
            Link.fruitless_of_read hchunk hroom hread hnothing
        cases answer with
        | ok chunk =>
            refine ⟨_, _, Handle.read_returns hlink hread, ⟨⟨kind, rfl⟩, after, hset, hready⟩, ?_⟩
            rintro (hempty | ⟨e, he, -⟩)
            · cases hempty
              exact hfewer (.inl rfl)
            · contradiction
        | error stop =>
            cases stop with
            | closed =>
                refine ⟨_, _, Handle.read_closed hlink hread, ⟨⟨kind, rfl⟩, after, hset, hready⟩,
                  ?_⟩
                rintro (hempty | ⟨e, he, hagain⟩)
                · contradiction
                · cases he
                  contradiction
            | failed e =>
                exact ⟨_, _, Handle.read_fails hlink hread, ⟨⟨kind, rfl⟩, after, hset, hready⟩,
                  fun _ => hfewer (.inr ⟨e, rfl⟩)⟩

end TypedChannel
