import TypedChannel.Proofs.Host.DatagramLink
import TypedChannel.Proofs.RoundTrip.Leftmost
/-!
# TypedChannel.Proofs.RoundTrip.FirstDatagram

Reading a terminated message off datagrams is a search in one of them.

1. The reader sees as much of the first datagram that is not empty as its buffer
   holds, and searches that from the left (`Channel.acceptTerminatedBytes_picks`).
2. The reader of a stream looks at the last bytes it has taken, after each one.
   Both searches find the same place (`Bytes.firstEnd?_of_indexOf?` and
   `Bytes.indexOf?_of_firstEnd?`), so both readers answer to the same bytes with
   the same message, or neither with any (`Channel.firstDatagram`).
-/

namespace TypedChannel

open TypedChannel.Action

/-! ## Two searches -/

namespace Bytes

variable {terminator text : Bytes} {capacity n e : Nat}

theorem indexOf?_eq_none {pattern : Bytes} :
    indexOf? pattern text = none ↔ ¬ pattern <:+: text := by
  induction text with
  | nil =>
      cases pattern <;> simp [indexOf?]
  | cons byte text ih =>
      rw [indexOf?, List.infix_cons_iff, ← List.isPrefixOf_iff_prefix]
      by_cases hhere : pattern.isPrefixOf (byte :: text) = true
      · simp [hhere]
      · simp [hhere, ih]

/-- What begins at a place ends as many bytes later as it is long. -/
theorem suffix_take_of_prefix_drop {pattern : Bytes} (h : pattern <+: text.drop n) :
    pattern <:+ text.take (n + pattern.length) := by
  rw [List.take_add, ← List.prefix_iff_eq_take.mp h]
  exact List.suffix_append _ _

/-- A front of a text is one of every longer front. -/
theorem take_take_of_le (h : n ≤ capacity) : (text.take capacity).take n = text.take n := by
  rw [List.take_take, Nat.min_eq_left h]

/-- Where the search from the left finds a terminator, the first front ends that ends with one. -/
theorem firstEnd?_of_indexOf? (hterminator : terminator ≠ [])
    (h : indexOf? terminator (text.take capacity) = some n) :
    firstEnd? terminator text = some (n + terminator.length) ∧
      n + terminator.length ≤ capacity := by
  obtain ⟨hthere, hfirst⟩ := indexOf?_eq_some h
  have hpositive := List.length_pos_iff.mpr hterminator
  have hwithin := hthere.length_le
  rw [List.length_drop, List.length_take] at hwithin
  have hfits : n + terminator.length ≤ capacity := by omega
  have hends : terminator <:+ text.take (n + terminator.length) := by
    rw [← take_take_of_le hfits]
    exact suffix_take_of_prefix_drop hthere
  refine ⟨firstEnd?_eq_some.mpr ⟨hends, by omega, ?_⟩, hfits⟩
  -- A front that ended with it earlier would be one in which it also begins earlier.
  rintro m hm ⟨before, hbefore⟩
  have hlength := congrArg List.length hbefore
  rw [List.length_append, List.length_take] at hlength
  refine hfirst before.length (by omega) ?_
  obtain ⟨left, hleft⟩ : text.take m <+: text.take capacity :=
    List.take_prefix_take_left (by omega)
  rw [← hleft, ← hbefore, List.append_assoc, List.drop_left]
  exact List.prefix_append _ _

/-- And where such a front fits, the search from the left finds its terminator. -/
theorem indexOf?_of_firstEnd? (h : firstEnd? terminator text = some e) (hfits : e ≤ capacity) :
    indexOf? terminator (text.take capacity) = some (e - terminator.length) := by
  obtain ⟨⟨before, hbefore⟩, hwithin, hleast⟩ := firstEnd?_eq_some.mp h
  have hlength := congrArg List.length hbefore
  rw [List.length_append, List.length_take, Nat.min_eq_left hwithin] at hlength
  obtain ⟨left, hleft⟩ : text.take e <+: text.take capacity := List.take_prefix_take_left hfits
  have hcount : before.length = e - terminator.length := by omega
  rw [← hbefore, List.append_assoc] at hleft
  rw [← hcount]
  refine indexOf?_of_first (by simp [← hleft]) ?_ fun m hm hthere => ?_
  · rw [← hleft, List.drop_left]
    exact List.prefix_append _ _
  · refine hleast (m + terminator.length) (by omega) ?_
    rw [← take_take_of_le (show m + terminator.length ≤ capacity by omega)]
    exact suffix_take_of_prefix_drop hthere

end Bytes

namespace Channel

/-! ## The reader of datagrams -/

/-- What a reader makes of the bytes that it sees: it answers with those before the leftmost
terminator, and without one fails with their number. -/
def Cuts (terminator window : Bytes) (result : Except ChannelError Bytes) : Prop :=
  (∃ n, n ≤ window.length ∧ terminator <+: window.drop n ∧
      (∀ m, m < n → ¬ terminator <+: window.drop m) ∧ result = .ok (window.take n)) ∨
    ¬ terminator <:+: window ∧
      ∃ e, result = .error e ∧ e.root = .terminatorNotFound window.length

/-- What the search from the left comes to in those bytes: a message, or an error to blame. -/
def Searched (terminator window : Bytes) (blame : ChannelError → Prop)
    (result : Except ChannelError Bytes) : Prop :=
  match Bytes.indexOf? terminator window with
  | some n => result = .ok (window.take n)
  | none => ∃ e, result = .error e ∧ blame e.root

theorem Searched.cuts {terminator window : Bytes} {result : Except ChannelError Bytes}
    (hterminator : terminator ≠ [])
    (h : Searched terminator window (· = .terminatorNotFound window.length) result) :
    Cuts terminator window result := by
  unfold Searched at h
  cases hsearch : Bytes.indexOf? terminator window with
  | some n =>
      rw [hsearch] at h
      obtain ⟨hthere, hfirst⟩ := Bytes.indexOf?_eq_some hsearch
      have hpositive := List.length_pos_iff.mpr hterminator
      have hwithin := hthere.length_le
      rw [List.length_drop] at hwithin
      exact .inl ⟨n, by omega, hthere, hfirst, h⟩
  | none =>
      rw [hsearch] at h
      exact .inr ⟨Bytes.indexOf?_eq_none.mp hsearch, h⟩

/-- Two searches in the same bytes find the same message, if any. -/
theorem Searched.agrees {terminator window : Bytes} {blame blame' : ChannelError → Prop}
    {result answer : Except ChannelError Bytes} (h : Searched terminator window blame result)
    (h' : Searched terminator window blame' answer) (payload : Bytes) :
    result = .ok payload ↔ answer = .ok payload := by
  unfold Searched at h h'
  cases hsearch : Bytes.indexOf? terminator window with
  | some n =>
      rw [hsearch] at h h'
      rw [h, h']
  | none =>
      rw [hsearch] at h h'
      obtain ⟨e, rfl, -⟩ := h
      obtain ⟨e', rfl, -⟩ := h'
      simp

section Datagram

variable {ω σ : Type} [World ω] [Transport ω σ] {letters : Letterbox ω σ} {terminator : Bytes}
  {state : Channel σ × Surroundings ω} {queue : List Bytes} {first : Bytes} {others : List Bytes}

/-- Between the two the datagrams before `others` were taken, and `count` bytes of them counted. -/
structure Picked (letters : Letterbox ω σ) (before after : Channel σ × Surroundings ω)
    (others : List Bytes) (count : Nat) : Prop where
  holds : letters.Holds (below after) others
  counted : after.1.bytesReceived = before.1.bytesReceived + count
  config : after.1.config = before.1.config

/-- The first datagram that is not empty is taken, and as much of it as the buffer holds is
searched. -/
theorem acceptTerminatedBytes_picks (options : ReceiveOptions) (hterminator : terminator ≠ [])
    (hroom : state.1.config.terminatedBufferSize ≠ 0)
    (hfirst : queue.dropWhile List.isEmpty = first :: others)
    (hholds : letters.Holds (below state) queue) : ∃ result after,
      (acceptTerminatedBytes terminator options).Returns state result after ∧
      Picked letters state after others (min first.length state.1.config.terminatedBufferSize) ∧
      Searched terminator (first.take state.1.config.terminatedBufferSize)
        (· = .terminatorNotFound (first.take state.1.config.terminatedBufferSize).length)
        result := by
  obtain ⟨received, hreceive, hreceived⟩ :=
    letters.receive_returns options.timeout hroom hfirst hholds
  have hpartial : (Transport.receive state.1.config.terminatedBufferSize options.partial.timeout
      options.partial.everything : Action (σ × ω) TransportError Bytes).Returns (below state)
        (.ok (first.take state.1.config.terminatedBufferSize)) received := hreceive
  obtain ⟨taken, event, htake, hbelow, hcounted, hconfig⟩ := acceptBytes_returns hpartial
  have htaken : letters.Holds (below taken) others := by
    rw [hbelow]
    exact letters.note event hreceived
  rw [List.length_take, Nat.min_comm] at hcounted
  generalize first.take state.1.config.terminatedBufferSize = window at htake ⊢
  have hanswer : ∃ result after,
      (match Bytes.indexOf? terminator window with
        | some n => pure (window.take n)
        | none => fail (.terminatorNotFound window.length) : ChannelAction σ ω Bytes).Returns taken
          result after ∧
      Picked letters state after others (min first.length state.1.config.terminatedBufferSize) ∧
      Searched terminator window (· = .terminatorNotFound window.length) result := by
    unfold Searched
    cases Bytes.indexOf? terminator window with
    | some n => exact ⟨_, taken, returns_pure _, ⟨htaken, hcounted, hconfig⟩, rfl⟩
    | none =>
        exact ⟨_, _, ⟨0, fun _ _ => rfl⟩, ⟨letters.note _ htaken, hcounted, hconfig⟩, _, rfl,
          taken.1.config.root_escalate _ taken.2.diagnostics⟩
  obtain ⟨result, after, hreturns, hend⟩ := hanswer
  exact ⟨result, after, acceptTerminatedBytes_of_datagram hterminator (letters.datagram hholds)
    ((returns_see _).bind (htake.bind hreturns)), hend⟩

end Datagram

/-! ## The reader of a stream -/

section Stream

variable {ω σ : Type} [World ω] [Transport ω σ] {stream : FiniteFlow ω σ} {terminator : Bytes}
  {options : ReceiveOptions}

/-- What it answers to bytes behind which there is nothing more is what the search from the left
finds in as many of them as its buffer holds. -/
theorem acceptTerminatedBytes_searches (hterminator : terminator ≠ [])
    (htime : InTime stream.flow.timed options.timeout) {state : Channel σ × Surroundings ω}
    {text : Bytes} (hholds : stream.flow.Holds (below state) text) : ∃ result after,
      (acceptTerminatedBytes terminator options).Returns state result after ∧
      Searched terminator (text.take state.1.config.terminatedBufferSize) (fun _ => True)
        result := by
  have hnone : (∀ e, Bytes.firstEnd? terminator text = some e →
      state.1.config.terminatedBufferSize < e) →
      Bytes.indexOf? terminator (text.take state.1.config.terminatedBufferSize) = none := by
    intro hlate
    cases hsearch : Bytes.indexOf? terminator
        (text.take state.1.config.terminatedBufferSize) with
    | none => rfl
    | some n =>
        obtain ⟨hend, hfits⟩ := Bytes.firstEnd?_of_indexOf? hterminator hsearch
        exact absurd (hlate _ hend) (Nat.not_lt.mpr hfits)
  unfold Searched
  cases hend : Bytes.firstEnd? terminator text with
  | none =>
      obtain ⟨e, after, hreturns, -⟩ :=
        acceptTerminatedStream_exhausts hterminator htime (Bytes.firstEnd?_eq_none.mp hend) hholds
      rw [hnone (by simp [hend])]
      exact ⟨_, after, acceptTerminatedBytes_of_stream hterminator
        (stream.flow.continuous hholds) hreturns, e, rfl, trivial⟩
  | some e =>
      obtain ⟨result, after, hreturns, -, hresult⟩ :=
        acceptTerminatedBytes_finds hterminator htime hend hholds
      refine ⟨result, after, hreturns, ?_⟩
      by_cases hfits : e ≤ state.1.config.terminatedBufferSize
      · rw [if_pos hfits] at hresult
        rw [Bytes.indexOf?_of_firstEnd? hend hfits, hresult]
        dsimp only
        rw [Bytes.take_take_of_le (by omega)]
      · rw [if_neg hfits] at hresult
        obtain ⟨error, rfl, -⟩ := hresult
        rw [hnone (by simp [hend]; omega)]
        exact ⟨error, rfl, trivial⟩

end Stream

/-! ## Both -/

/-- A reader of terminated messages on datagrams takes the first one that is not empty, and no
other, and cuts what it sees of it at the leftmost terminator.  A reader of the same bytes as a
stream answers with the same message, or with none where it does. -/
theorem firstDatagram {ω σ ω' σ' : Type} [World ω] [Transport ω σ] [World ω'] [Transport ω' σ']
    (letters : Letterbox ω σ) (stream : FiniteFlow ω' σ') {terminator : Bytes}
    (hterminator : terminator ≠ []) (options options' : ReceiveOptions)
    {state : Channel σ × Surroundings ω} {reader : Channel σ' × Surroundings ω'}
    {queue : List Bytes} {first : Bytes} {others : List Bytes}
    (hroom : state.1.config.terminatedBufferSize ≠ 0)
    (hfirst : queue.dropWhile List.isEmpty = first :: others)
    (hholds : letters.Holds (below state) queue)
    (hsame : reader.1.config.terminatedBufferSize = state.1.config.terminatedBufferSize)
    (htime : InTime stream.flow.timed options'.timeout)
    (hstream : stream.flow.Holds (below reader) first) :
    ∃ result after answer last,
      (acceptTerminatedBytes terminator options).Returns state result after ∧
      letters.Holds (below after) others ∧
      after.1.bytesReceived =
        state.1.bytesReceived + min first.length state.1.config.terminatedBufferSize ∧
      Cuts terminator (first.take state.1.config.terminatedBufferSize) result ∧
      (acceptTerminatedBytes terminator options').Returns reader answer last ∧
      ∀ payload, result = .ok payload ↔ answer = .ok payload := by
  obtain ⟨result, after, hreturns, ⟨hleft, hcounted, -⟩, hresult⟩ :=
    acceptTerminatedBytes_picks options hterminator hroom hfirst hholds
  obtain ⟨answer, last, hreads, hanswer⟩ :=
    acceptTerminatedBytes_searches hterminator htime hstream
  rw [hsame] at hanswer
  exact ⟨result, after, answer, last, hreturns, hleft, hcounted, hresult.cuts hterminator, hreads,
    hresult.agrees hanswer⟩

/-- Behind an empty datagram, and after an interrupted read, with a buffer that cuts the second
terminator off. -/
theorem firstDatagram_interrupted :
    ∃ state after last : Channel Handle × Surroundings Host, ∃ reader,
      (Link.letters 0).Holds (below state) [[], [97, 98, 99, 98, 99], [1]] ∧
      (acceptTerminatedBytes [98, 99] .blocking).Returns state (.ok [97]) after ∧
      (Link.letters 0).Holds (below after) [[1]] ∧ after.1.bytesReceived = 4 ∧
      (acceptTerminatedBytes [98, 99] .blocking).Returns reader (.ok [97]) last := by
  let config : ChannelConfig :=
    { terminatedBufferSize := 4, diagnostics := { sink := none, slot := 0 } }
  let state : Channel Handle × Surroundings Host :=
    (opened (.link 0 .datagram) .localEnd config,
      Surroundings.withLink { kind := .datagram, datagrams := [[], [97, 98, 99, 98, 99], [1]],
                              reads := [.failed (.ofErrno .interrupted)] })
  let reader : Channel Handle × Surroundings Host :=
    (opened (.link 0 .stream) .localEnd config,
      Surroundings.withLink { stream := [97, 98, 99, 98, 99], ended := true })
  have hholds : (Link.letters 0).Holds (below state) [[], [97, 98, 99, 98, 99], [1]] :=
    ⟨rfl, _, rfl, rfl, rfl, rfl, rfl, fun _ hevent => ⟨_, List.mem_singleton.mp hevent, by decide⟩⟩
  have hsize : reader.1.config.terminatedBufferSize = state.1.config.terminatedBufferSize := rfl
  have hstream : (Link.finiteFlow 0).flow.Holds (below reader) [97, 98, 99, 98, 99] :=
    ⟨⟨_, by decide, rfl⟩, rfl, _, rfl, ⟨by decide, rfl, by decide, rfl, rfl, rfl, rfl, rfl⟩, rfl⟩
  obtain ⟨result, after, answer, last, hreturns, hleft, hcounted, hcuts, hreads, hsame⟩ :=
    firstDatagram (Link.letters 0) (Link.finiteFlow 0) (by decide : ([98, 99] : Bytes) ≠ [])
      .blocking .blocking (by decide) rfl hholds hsize (.inl rfl) hstream
  obtain ⟨n, hn, hthere, hleast, rfl⟩ | ⟨hnone, -⟩ := hcuts
  · have hplace : n = 1 := by
      obtain rfl | hone | hlater : n = 0 ∨ n = 1 ∨ 1 < n := by omega
      · exact absurd hthere (by decide)
      · exact hone
      · exact absurd ⟨[98], rfl⟩ (hleast 1 hlater)
    subst hplace
    obtain rfl := (hsame [97]).mp rfl
    exact ⟨state, after, last, reader, hholds, hreturns, hleft, hcounted, hreads⟩
  · exact absurd ⟨[97], [98], rfl⟩ hnone

end Channel

end TypedChannel
