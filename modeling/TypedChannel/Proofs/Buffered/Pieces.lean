import TypedChannel.Proofs.Buffered.Reads
import TypedChannel.Proofs.Transport.Feed
/-!
# TypedChannel.Proofs.Buffered.Pieces

What becomes of datagrams that are read through a buffer.

1. A reader with less room than the buffer holds gets a datagram in several
   pieces, one with more room gets one piece (`Buffered.cut`).
2. `Buffered.Cutting` says which pieces are still to come, and a read of the
   reader's size takes the first of them (`Buffered.feed`).
3. A datagram is in one piece exactly if it is `Buffered.Whole`; as long as all
   are, as many datagrams are taken as pieces, and only so long
   (`Buffered.Cutting.whole`).
-/

namespace TypedChannel

open TypedChannel.Action

/-! ## Pieces -/

namespace Bytes

variable {size : Nat} {bytes : Bytes}

/-- The bytes in pieces of one size; the last piece may be shorter. -/
def inPieces (size : Nat) (bytes : Bytes) : List Bytes :=
  if bytes = [] then
    []
  else if 0 < size ∧ size < bytes.length then
    bytes.take size :: inPieces size (bytes.drop size)
  else
    [bytes]
termination_by bytes.length
decreasing_by
  simp_wf
  omega

@[simp] theorem inPieces_nil (size : Nat) : inPieces size [] = [] := by
  rw [inPieces, if_pos rfl]

/-- What fits is a piece of its own. -/
theorem inPieces_of_le (hbytes : bytes ≠ []) (hle : bytes.length ≤ size) :
    inPieces size bytes = [bytes] := by
  rw [inPieces, if_neg hbytes, if_neg (by omega)]

theorem inPieces_eq_cons (hsize : size ≠ 0) (hbytes : bytes ≠ []) :
    inPieces size bytes = bytes.take size :: inPieces size (bytes.drop size) := by
  by_cases hle : bytes.length ≤ size
  · rw [inPieces_of_le hbytes hle, List.take_of_length_le hle, List.drop_of_length_le hle,
      inPieces_nil]
  · rw [inPieces, if_neg hbytes, if_pos (by omega)]

theorem inPieces_eq_nil (hsize : size ≠ 0) : inPieces size bytes = [] ↔ bytes = [] := by
  constructor
  · intro h
    by_cases hbytes : bytes = []
    · exact hbytes
    · rw [inPieces_eq_cons hsize hbytes] at h
      contradiction
  · rintro rfl
    exact inPieces_nil size

/-- What does not fit is more than one piece. -/
theorem two_le_length_inPieces (hsize : size ≠ 0) (hlong : size < bytes.length) :
    2 ≤ (inPieces size bytes).length := by
  have hbytes : bytes ≠ [] := List.ne_nil_of_length_pos (by omega)
  have hrest : bytes.drop size ≠ [] := by simpa using hlong
  rw [inPieces_eq_cons hsize hbytes, inPieces_eq_cons hsize hrest, List.length_cons,
    List.length_cons]
  omega

end Bytes

/-! ## Through a buffer -/

namespace Buffered

variable {ω σ : Type}

/-- What becomes of a datagram that is read through a buffer of this capacity, by a reader with so
much room. -/
def cut (capacity room : Nat) (datagram : Bytes) : List Bytes :=
  if capacity ≤ room then [datagram.take room] else Bytes.inPieces room (datagram.take capacity)

/-- Whether a datagram stays in one piece. -/
def Whole (capacity room : Nat) (datagram : Bytes) : Prop :=
  capacity ≤ room ∨ datagram.length ≤ room

instance (capacity room : Nat) (datagram : Bytes) : Decidable (Whole capacity room datagram) :=
  inferInstanceAs (Decidable (_ ∨ _))

/-- A reader with room for all that the buffer holds goes past it. -/
theorem cut_of_le {capacity room : Nat} (hle : capacity ≤ room) (datagram : Bytes) :
    cut capacity room datagram = [datagram.take room] := if_pos hle

/-- To any other the buffer gives what it holds bit by bit. -/
theorem cut_of_lt {capacity room : Nat} (hlt : room < capacity) (datagram : Bytes) :
    cut capacity room datagram = Bytes.inPieces room (datagram.take capacity) :=
  if_neg (Nat.not_le.mpr hlt)

theorem cut_of_whole {capacity room : Nat} {datagram : Bytes} (hdatagram : datagram ≠ [])
    (h : Whole capacity room datagram) : cut capacity room datagram = [datagram.take room] := by
  obtain hlt | hle := Nat.lt_or_ge room capacity
  · have hfits : datagram.length ≤ room := h.resolve_left (Nat.not_le.mpr hlt)
    rw [cut_of_lt hlt, List.take_of_length_le (by omega), List.take_of_length_le hfits,
      Bytes.inPieces_of_le hdatagram hfits]
  · exact cut_of_le hle datagram

/-- The first piece is what the reader would see of the datagram without the buffer. -/
theorem cut_eq_cons (capacity : Nat) {room : Nat} (hroom : room ≠ 0) {datagram : Bytes}
    (hdatagram : datagram ≠ []) :
    ∃ pieces, cut capacity room datagram = datagram.take room :: pieces := by
  obtain hlt | hle := Nat.lt_or_ge room capacity
  · have hcapacity : capacity ≠ 0 := by omega
    have hfilled : datagram.take capacity ≠ [] := by simp [hcapacity, hdatagram]
    rw [cut_of_lt hlt, Bytes.inPieces_eq_cons hroom hfilled, List.take_take,
      Nat.min_eq_left (Nat.le_of_lt hlt)]
    exact ⟨_, rfl⟩
  · exact ⟨[], cut_of_le hle datagram⟩

theorem two_le_length_cut {capacity room : Nat} (hroom : room ≠ 0) {datagram : Bytes}
    (h : ¬ Whole capacity room datagram) : 2 ≤ (cut capacity room datagram).length := by
  obtain ⟨hsmall, hlong⟩ := not_or.mp h
  rw [cut_of_lt (Nat.not_le.mp hsmall)]
  refine Bytes.two_le_length_inPieces hroom ?_
  rw [List.length_take]
  omega

variable [World ω] [Transport ω σ]

/-- Through a buffer of this capacity a reader with so much room sees these pieces of what is unread
and of the datagrams before `rest`. -/
structure Cutting (inbox : Inbox ω σ) (rest : List Bytes) (capacity room : Nat)
    (state : Buffered σ × ω) (pieces : List Bytes) : Prop where
  ready : inbox.Ready (inside state)
  sized : state.1.capacity = capacity
  front : ∃ front, inbox.waiting (inside state) = front ++ rest ∧
    (∀ datagram ∈ front, datagram ≠ []) ∧
    pieces = Bytes.inPieces room state.1.unread ++ front.flatMap (cut capacity room)

section Cutting

variable {inbox : Inbox ω σ} {rest : List Bytes} {capacity room : Nat} {state : Buffered σ × ω}
  {piece : Bytes} {pieces : List Bytes}

/-- The next piece is the front of what is unread or, if nothing is, of the first datagram. -/
theorem Cutting.next (h : Cutting inbox rest capacity room state (piece :: pieces))
    (hroom : room ≠ 0) :
    (state.1.unread ≠ [] ∧ piece = state.1.unread.take room ∧
      Cutting inbox rest capacity room
        ({ state.1 with unread := state.1.unread.drop room }, state.2) pieces) ∨
    (state.1.unread = [] ∧ ∃ first others, inbox.waiting (inside state) = first :: others ++ rest ∧
      first ≠ [] ∧ (∀ datagram ∈ others, datagram ≠ []) ∧
      piece :: pieces = cut capacity room first ++ others.flatMap (cut capacity room)) := by
  obtain ⟨front, hwaiting, hnonempty, hpieces⟩ := h.front
  by_cases hunread : state.1.unread = []
  · rw [hunread, Bytes.inPieces_nil, List.nil_append] at hpieces
    cases front with
    | nil => contradiction
    | cons first others =>
        exact .inr ⟨hunread, first, others, hwaiting, hnonempty first List.mem_cons_self,
          fun datagram hdatagram => hnonempty datagram (List.mem_cons_of_mem _ hdatagram), hpieces⟩
  · rw [Bytes.inPieces_eq_cons hroom hunread, List.cons_append] at hpieces
    obtain ⟨hpiece, hrest⟩ := List.cons.inj hpieces
    exact .inl ⟨hunread, hpiece, h.ready, h.sized, front, hwaiting, hnonempty, hrest⟩

/-- When no piece is left, nothing is unread and `rest` is what waits. -/
theorem Cutting.finished (h : Cutting inbox rest capacity room state []) (hroom : room ≠ 0) :
    state.1.unread = [] ∧ inbox.waiting (inside state) = rest := by
  obtain ⟨front, hwaiting, hnonempty, hpieces⟩ := h.front
  obtain ⟨hunread, hcut⟩ := List.append_eq_nil_iff.mp hpieces.symm
  refine ⟨(Bytes.inPieces_eq_nil hroom).mp hunread, ?_⟩
  cases front with
  | nil => exact hwaiting
  | cons first others =>
      obtain ⟨pieces, hfirst⟩ := cut_eq_cons capacity hroom (hnonempty first List.mem_cons_self)
      rw [List.flatMap_cons, hfirst] at hcut
      contradiction

/-- What happens within without touching a datagram. -/
theorem Cutting.kept {after : Buffered σ × ω} (h : Cutting inbox rest capacity room state pieces)
    (hready : inbox.Ready (inside after))
    (hwaiting : inbox.waiting (inside after) = inbox.waiting (inside state))
    (hunread : after.1.unread = state.1.unread) (hsized : after.1.capacity = state.1.capacity) :
    Cutting inbox rest capacity room after pieces := by
  obtain ⟨front, hfront, hnonempty, hpieces⟩ := h.front
  exact ⟨hready, hsized.trans h.sized, front, hwaiting.trans hfront, hnonempty,
    by rw [hpieces, hunread]⟩

theorem Cutting.piece_ne_nil (h : Cutting inbox rest capacity room state (piece :: pieces))
    (hroom : room ≠ 0) : piece ≠ [] := by
  obtain ⟨hunread, rfl, -⟩ | ⟨-, first, others, -, hfirst, -, hpieces⟩ := h.next hroom
  · simp [hroom, hunread]
  · obtain ⟨more, hcut⟩ := cut_eq_cons capacity hroom hfirst
    rw [hcut] at hpieces
    rw [(List.cons.inj hpieces).1]
    simp [hroom, hfirst]

theorem Cutting.poll_returns (h : Cutting inbox rest capacity room state (piece :: pieces))
    (hroom : room ≠ 0) (timeout : Option Duration) : ∃ after,
      (Buffered.pollReadable timeout : Action (Buffered σ × ω) TransportError Bool).Returns state
          (.ok true) after ∧
        Cutting inbox rest capacity room after (piece :: pieces) := by
  obtain ⟨hunread, -⟩ | ⟨hunread, first, others, hwaiting, -⟩ := h.next hroom
  · refine ⟨state, (returns_see _).bind ?_, h⟩
    rw [if_pos (by simpa using hunread)]
    exact returns_pure _
  · obtain ⟨after, hpoll, hafter, hsame, -⟩ := inbox.poll timeout h.ready (by simp [hwaiting])
    refine ⟨({ state.1 with inner := after.1 }, after.2), (returns_see _).bind ?_,
      h.kept hafter hsame rfl rfl⟩
    rw [if_neg (by simp [hunread])]
    exact returns_within hpoll

/-- A read of the size of the reader's room gives the next piece. -/
theorem Cutting.read_returns (h : Cutting inbox rest capacity room state (piece :: pieces))
    (hroom : room ≠ 0) : ∃ after,
      (Buffered.readRaw room : Action (Buffered σ × ω) TransportError Bytes).Returns state
          (.ok piece) after ∧
        Cutting inbox rest capacity room after pieces := by
  obtain ⟨hunread, rfl, hrest⟩ | ⟨hunread, first, others, hwaiting, hfirst, hlater, hpieces⟩ :=
    h.next hroom
  · refine ⟨_, (returns_see _).bind ?_, hrest⟩
    rw [if_neg hroom, if_pos (by simpa using hunread)]
    exact returns_step _
  · obtain rfl := h.sized
    obtain hlt | hle := Nat.lt_or_ge room state.1.capacity
    · -- The buffer takes more of the datagram than the reader has room for.
      have hcapacity : state.1.capacity ≠ 0 := by omega
      have hfilled : first.take state.1.capacity ≠ [] := by simp [hcapacity, hfirst]
      rw [cut_of_lt hlt, Bytes.inPieces_eq_cons hroom hfilled] at hpieces
      obtain ⟨rfl, rfl⟩ := List.cons.inj hpieces
      obtain ⟨between, hread, hbetween, hothers, -⟩ := inbox.read h.ready hcapacity hwaiting
      refine ⟨({ state.1 with inner := between.1,
                              unread := (first.take state.1.capacity).drop room }, between.2),
        (returns_see _).bind ?_, hbetween, rfl, others, hothers, hlater, rfl⟩
      rw [if_neg hroom, if_neg (by simp [hunread]), if_neg (Nat.not_le.mpr hlt)]
      exact (refill_returns hread).bind (returns_step _)
    · -- The reader goes past the buffer, and what does not fit is dropped within.
      rw [cut_of_le hle] at hpieces
      obtain ⟨rfl, rfl⟩ := List.cons.inj hpieces
      obtain ⟨after, hread, hafter, hothers, -⟩ := inbox.read h.ready hroom hwaiting
      refine ⟨({ state.1 with inner := after.1 }, after.2), (returns_see _).bind ?_, hafter, rfl,
        others, hothers, hlater, by rw [hunread, Bytes.inPieces_nil]; rfl⟩
      rw [if_neg hroom, if_neg (by simp [hunread]), if_pos hle]
      exact returns_within hread

section Ended

variable {timeout : Option Duration} {cause? : Option TransportError}

/-- Behind the last datagram a buffer asks within, and finds what is found there. -/
theorem Cutting.poll_ends (h : Cutting inbox [] capacity room state [])
    (hended : inbox.Ended timeout cause?) (hroom : room ≠ 0) : ∃ after,
      (Buffered.pollReadable (Deadline.firstWait timeout state.2).1 :
        Action (Buffered σ × ω) TransportError Bool).Returns
          (state.1, (Deadline.firstWait timeout state.2).2) (.ok cause?.isSome) after ∧
        Cutting inbox [] capacity room after [] := by
  obtain ⟨hunread, hwaiting⟩ := h.finished hroom
  obtain ⟨after, hpoll, hafter, hnone⟩ := hended.poll h.ready hwaiting
  refine ⟨({ state.1 with inner := after.1 }, after.2), (returns_see _).bind ?_,
    h.kept hafter (hnone.trans hwaiting.symm) rfl rfl⟩
  rw [if_neg (by simp [hunread])]
  exact returns_within hpoll

theorem Cutting.read_ends (h : Cutting inbox [] capacity room state [])
    (hended : inbox.Ended timeout cause?) (hroom : room ≠ 0) {cause : TransportError}
    (hcause : cause ∈ cause?) : ∃ after,
      (Buffered.readRaw room : Action (Buffered σ × ω) TransportError Bytes).Returns state
          (.error cause) after ∧
        Cutting inbox [] capacity room after [] := by
  obtain ⟨hunread, hwaiting⟩ := h.finished hroom
  obtain hlt | hle := Nat.lt_or_ge room state.1.capacity
  · have hcapacity : state.1.capacity ≠ 0 := by omega
    obtain ⟨after, hread, hafter, hnone⟩ := hended.read cause hcause h.ready hwaiting hcapacity
    refine ⟨({ state.1 with inner := after.1, unread := [] }, after.2), (returns_see _).bind ?_,
      h.kept hafter (hnone.trans hwaiting.symm) hunread.symm rfl⟩
    rw [if_neg hroom, if_neg (by simp [hunread]), if_neg (Nat.not_le.mpr hlt)]
    exact (refill_fails hread).bind_error
  · obtain ⟨after, hread, hafter, hnone⟩ := hended.read cause hcause h.ready hwaiting hroom
    refine ⟨({ state.1 with inner := after.1 }, after.2), (returns_see _).bind ?_,
      h.kept hafter (hnone.trans hwaiting.symm) rfl rfl⟩
    rw [if_neg hroom, if_neg (by simp [hunread]), if_pos hle]
    exact returns_within hread

end Ended

end Cutting

/-- What a reader with so much room sees through a buffer. -/
def feed (inbox : Inbox ω σ) (rest : List Bytes) (capacity : Nat) {room : Nat}
    (hroom : room ≠ 0) : Feed ω (Buffered σ) room where
  Holds := Cutting inbox rest capacity room
  datagram h := inbox.datagram h.ready
  ne_nil h := h.piece_ne_nil hroom
  poll timeout h := h.poll_returns hroom timeout
  read h := h.read_returns hroom
  look := by
    rintro transport world pieces h
    obtain ⟨hafter, hsame, -⟩ := inbox.look h.ready
    exact h.kept hafter hsame rfl rfl
  note := by
    rintro transport world pieces event h
    obtain ⟨hafter, hsame, -⟩ := inbox.note event h.ready
    exact h.kept hafter hsame rfl rfl

theorem feed_ends {inbox : Inbox ω σ} {timeout : Option Duration} {cause? : Option TransportError}
    (h : inbox.Ended timeout cause?) (capacity : Nat) {room : Nat} (hroom : room ≠ 0) :
    (feed inbox [] capacity hroom).Ends timeout cause? where
  final := h.final
  poll hholds := Cutting.poll_ends hholds h hroom
  read _ hcause hholds := Cutting.read_ends hholds h hroom hcause

/-! What the pieces of several datagrams are. -/

section Queue

variable {capacity room : Nat} {queue : List Bytes}

/-- As long as datagrams stay whole there is one piece for each. -/
theorem flatMap_cut (hqueue : ∀ datagram ∈ queue, datagram ≠ [])
    (hwhole : ∀ datagram ∈ queue, Whole capacity room datagram) :
    queue.flatMap (cut capacity room) = queue.map (·.take room) := by
  induction queue with
  | nil => rfl
  | cons datagram queue ih =>
      obtain ⟨hfirst, hlater⟩ := List.forall_mem_cons.mp hqueue
      obtain ⟨hwholeFirst, hwholeLater⟩ := List.forall_mem_cons.mp hwhole
      rw [List.flatMap_cons, List.map_cons, ih hlater hwholeLater, cut_of_whole hfirst hwholeFirst]
      rfl

variable (capacity) in
/-- There is at least one piece for each datagram, and more if one is not whole. -/
theorem length_le_length_cut (hroom : room ≠ 0) (hqueue : ∀ datagram ∈ queue, datagram ≠ []) :
    queue.length ≤ (queue.flatMap (cut capacity room)).length ∧
      ((queue.flatMap (cut capacity room)).length = queue.length →
        ∀ datagram ∈ queue, Whole capacity room datagram) := by
  induction queue with
  | nil => simp
  | cons datagram queue ih =>
      obtain ⟨hle, hwhole⟩ := ih fun other hother => hqueue other (List.mem_cons_of_mem _ hother)
      obtain ⟨pieces, hcut⟩ := cut_eq_cons capacity hroom (hqueue datagram List.mem_cons_self)
      have hpositive : 1 ≤ (cut capacity room datagram).length := by simp [hcut]
      rw [List.flatMap_cons, List.length_append, List.length_cons]
      refine ⟨by omega, fun hsame => ?_⟩
      have hfirst : Whole capacity room datagram := by
        refine Decidable.not_not.mp fun hbroken => ?_
        have htwo := two_le_length_cut hroom hbroken
        omega
      exact List.forall_mem_cons.mpr ⟨hfirst, hwhole (by omega)⟩

/-- If what waits is as many datagrams less as there were pieces taken, those datagrams were
whole. -/
theorem Cutting.whole {inbox : Inbox ω σ} {state : Buffered σ × ω} {n : Nat}
    (h : Cutting inbox [] capacity room state ((queue.flatMap (cut capacity room)).drop n))
    (hroom : room ≠ 0) (hqueue : ∀ datagram ∈ queue, datagram ≠ []) (hle : n ≤ queue.length)
    (hunread : state.1.unread = []) (hwaiting : inbox.waiting (inside state) = queue.drop n) :
    ∀ datagram ∈ queue.take n, Whole capacity room datagram := by
  obtain ⟨front, hfront, -, hpieces⟩ := h.front
  obtain rfl : front = queue.drop n := by simpa [hwaiting] using hfront.symm
  have hleft : ((queue.flatMap (cut capacity room)).drop n).length =
      ((queue.drop n).flatMap (cut capacity room)).length := by
    rw [hpieces, hunread, Bytes.inPieces_nil, List.nil_append]
  have hall : (queue.flatMap (cut capacity room)).length =
      ((queue.take n).flatMap (cut capacity room)).length +
        ((queue.drop n).flatMap (cut capacity room)).length := by
    rw [← List.length_append, ← List.flatMap_append, List.take_append_drop]
  have htaken : ∀ datagram ∈ queue.take n, datagram ≠ [] := fun datagram hdatagram =>
    hqueue datagram (List.mem_of_mem_take hdatagram)
  obtain ⟨henough, -⟩ := length_le_length_cut capacity hroom hqueue
  obtain ⟨-, hwhole⟩ := length_le_length_cut capacity hroom htaken
  refine hwhole ?_
  rw [List.length_drop] at hleft
  rw [List.length_take]
  omega

end Queue

end Buffered

end TypedChannel
