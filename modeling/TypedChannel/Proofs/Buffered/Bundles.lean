import TypedChannel.Proofs.Buffered.Reads
import TypedChannel.Proofs.Transport.Datagram
/-!
# TypedChannel.Proofs.Buffered.Bundles

Buffers around datagrams.

A buffered writer puts pieces together until its buffer is full, so that one
datagram may carry several of them, a bundle; a piece as large as the buffer
goes alone.  A buffered reader takes a bundle into its own buffer and serves
the pieces from there.

1. A bundle fits in the buffer or is a single piece (`Bundled`).
2. `Collecting` says which bundles a writer has sent and which pieces it holds
   back, `Unpacking` which pieces a reader has in its buffer and which bundles
   wait for it.
3. A reader whose buffer is as large as the writer's takes every bundle whole:
   one that is larger than the buffer is a single piece, and is asked for with
   its own size.
-/

namespace TypedChannel

open TypedChannel.Action

namespace Buffered

variable {ω σ : Type}

/-! ## Bundles -/

/-- Whether pieces can share a datagram: they fit in a buffer of this capacity together, or there is
only one of them. -/
structure Bundled (capacity : Nat) (bundle : List Bytes) : Prop where
  some : bundle ≠ []
  pieces : ∀ piece ∈ bundle, piece ≠ []
  fits : bundle.flatten.length ≤ capacity ∨ ∃ piece, bundle = [piece]

theorem Bundled.mono {capacity more : Nat} {bundle : List Bytes} (h : Bundled capacity bundle)
    (hle : capacity ≤ more) : Bundled more bundle :=
  { h with fits := h.fits.imp_left fun hfits => Nat.le_trans hfits hle }

theorem bundled_single (capacity : Nat) {piece : Bytes} (hpiece : piece ≠ []) :
    Bundled capacity [piece] :=
  ⟨List.cons_ne_nil _ _, by simpa using hpiece, .inr ⟨piece, rfl⟩⟩

/-- Pieces that are not empty hold bytes. -/
theorem flatten_eq_nil {pieces : List Bytes} (hpieces : ∀ piece ∈ pieces, piece ≠ []) :
    pieces.flatten = [] ↔ pieces = [] := by
  cases pieces with
  | nil => simp
  | cons piece pieces => simp [hpieces piece List.mem_cons_self]

theorem Bundled.flatten_ne_nil {capacity : Nat} {bundle : List Bytes}
    (h : Bundled capacity bundle) : bundle.flatten ≠ [] :=
  mt (flatten_eq_nil h.pieces).mp h.some

/-- A piece that is as large as the buffer is alone in its bundle. -/
theorem Bundled.alone {capacity : Nat} {piece : Bytes} {others : List Bytes}
    (h : Bundled capacity (piece :: others)) (hlarge : capacity ≤ piece.length) : others = [] := by
  obtain hfits | ⟨single, hsingle⟩ := h.fits
  · have hothers : ∀ other ∈ others, other ≠ [] := fun other hother =>
      h.pieces other (List.mem_cons_of_mem piece hother)
    rw [List.flatten_cons, List.length_append] at hfits
    exact (flatten_eq_nil hothers).mp (List.length_eq_zero_iff.mp (by omega))
  · exact (List.cons.inj hsingle).2

/-- And one that is smaller is in a bundle that fits. -/
theorem Bundled.fits_of_lt {capacity : Nat} {piece : Bytes} {others : List Bytes}
    (h : Bundled capacity (piece :: others)) (hsmall : piece.length < capacity) :
    (piece :: others).flatten.length ≤ capacity := by
  obtain hfits | ⟨single, hsingle⟩ := h.fits
  · exact hfits
  · obtain ⟨rfl, rfl⟩ := List.cons.inj hsingle
    simpa using Nat.le_of_lt hsmall

variable [World ω] [Transport ω σ]

/-! ## Writing -/

section Writing

variable {outbox : Outbox ω σ} {start : List Bytes} {capacity : Nat} {bundles : List (List Bytes)}
  {held : List Bytes} {state : Buffered σ × ω}

/-- The pieces in `bundles` went on, each bundle as one datagram, and those in `held` are still
pending. -/
structure Collecting (outbox : Outbox ω σ) (start : List Bytes) (capacity : Nat)
    (bundles : List (List Bytes)) (held : List Bytes) (state : Buffered σ × ω) : Prop where
  ready : outbox.Ready (inside state)
  sized : state.1.capacity = capacity
  sent : outbox.sent (inside state) = start ++ bundles.map List.flatten
  bundled : ∀ bundle ∈ bundles, Bundled capacity bundle
  pending : state.1.pending = held.flatten
  pieces : ∀ piece ∈ held, piece ≠ []
  fits : held.flatten.length ≤ capacity

/-- A bundle more has gone on. -/
theorem Collecting.sent_more {bundle : List Bytes} {after : Buffered σ × ω}
    (h : Collecting outbox start capacity bundles held state) (hbundle : Bundled capacity bundle)
    (hready : outbox.Ready (inside after)) (hsized : after.1.capacity = capacity)
    (hsent : outbox.sent (inside after) = outbox.sent (inside state) ++ [bundle.flatten])
    (hpending : after.1.pending = []) :
    Collecting outbox start capacity (bundles ++ [bundle]) [] after where
  ready := hready
  sized := hsized
  sent := by rw [hsent, h.sent, List.map_append, List.append_assoc, List.map_singleton]
  bundled := by
    intro other hother
    obtain hearlier | hlast := List.mem_append.mp hother
    · exact h.bundled other hearlier
    · rw [List.mem_singleton.mp hlast]
      exact hbundle
  pending := hpending
  pieces := by simp
  fits := by simp

/-- A drain makes one datagram of all that is held back. -/
theorem drain_returns (h : Collecting outbox start capacity bundles held state) :
    ∃ after bundles', (drain : Action (Buffered σ × ω) TransportError Unit).Returns state (.ok ())
        after ∧
      bundles'.flatten = bundles.flatten ++ held ∧
      Collecting outbox start capacity bundles' [] after := by
  by_cases hheld : held = []
  · subst hheld
    have hround : (drainRound () : Action (Buffered σ × ω) TransportError _).Returns state
        (.ok (.done ())) state := by
      refine (returns_see _).bind ?_
      rw [if_pos (by simp [h.pending])]
      exact returns_pure _
    exact ⟨state, bundles, Loops.returns (.done hround), by simp, h⟩
  · have hbundle : Bundled capacity held := ⟨hheld, h.pieces, .inl h.fits⟩
    have hpending : state.1.pending ≠ [] := h.pending ▸ hbundle.flatten_ne_nil
    obtain ⟨between, hwrite, hbetween, hsent⟩ := outbox.write h.ready hpending
    have hfirst : (drainRound () : Action (Buffered σ × ω) TransportError _).Returns state
        (.ok (.again ())) ({ state.1 with inner := between.1, pending := [] }, between.2) := by
      refine (returns_see _).bind ?_
      rw [if_neg (by simpa using hpending)]
      refine (returns_within hwrite).attempt.bind ?_
      dsimp only
      rw [if_neg (by simpa using hpending)]
      refine (returns_change _).bind ?_
      simp only [List.drop_length]
      exact returns_pure _
    have hlast : (drainRound () : Action (Buffered σ × ω) TransportError _).Returns
        ({ state.1 with inner := between.1, pending := [] }, between.2) (.ok (.done ()))
        ({ state.1 with inner := between.1, pending := [] }, between.2) :=
      (returns_see _).bind (returns_pure _)
    rw [h.pending] at hsent
    exact ⟨_, bundles ++ [held], Loops.returns (.again hfirst (.done hlast)), by simp,
      h.sent_more hbundle hbetween h.sized hsent rfl⟩

/-- Bytes that there is room for are held back; others go on alone. -/
theorem place_returns {bytes : Bytes} (h : Collecting outbox start capacity bundles held state)
    (hbytes : bytes ≠ [])
    (hroom : held = [] ∨ held.flatten.length + bytes.length ≤ capacity) :
    ∃ after bundles' held',
      (if capacity ≤ bytes.length then
          (within (Transport.writeRaw bytes) : Action (Buffered σ × ω) TransportError Nat)
        else do
          changeBuffers fun b => { b with pending := b.pending ++ bytes, drainsOnClose := true }
          return bytes.length).Returns state (.ok bytes.length) after ∧
        bundles'.flatten ++ held' = bundles.flatten ++ held ++ [bytes] ∧
        Collecting outbox start capacity bundles' held' after := by
  by_cases hlarge : capacity ≤ bytes.length
  · rw [if_pos hlarge]
    have hheld : held = [] := by
      obtain hnone | hfits := hroom
      · exact hnone
      · exact (flatten_eq_nil h.pieces).mp (List.length_eq_zero_iff.mp (by
          have hpositive := List.length_pos_iff.mpr hbytes
          omega))
    subst hheld
    obtain ⟨after, hwrite, hafter, hsent⟩ := outbox.write h.ready hbytes
    have hbundle := bundled_single capacity hbytes
    exact ⟨_, bundles ++ [[bytes]], [], returns_within hwrite, by simp,
      h.sent_more hbundle hafter h.sized (by simpa [inside] using hsent) h.pending⟩
  · rw [if_neg hlarge]
    have hfits : (held ++ [bytes]).flatten.length ≤ capacity := by
      obtain rfl | hfits := hroom
      · simpa using Nat.le_of_not_le hlarge
      · simpa using hfits
    refine ⟨_, bundles, held ++ [bytes], (returns_change _).bind (returns_pure _), by simp, ?_⟩
    exact ⟨h.ready, h.sized, h.sent, h.bundled, by simp [h.pending],
      fun piece hpiece => (List.mem_append.mp hpiece).elim (h.pieces piece) fun hlast =>
        List.mem_singleton.mp hlast ▸ hbytes, hfits⟩

/-- A write first makes room for its bytes. -/
theorem writeRaw_returns {bytes : Bytes}
    (h : Collecting outbox start capacity bundles held state) (hbytes : bytes ≠ []) :
    ∃ after bundles' held',
      (writeRaw bytes : Action (Buffered σ × ω) TransportError Nat).Returns state
          (.ok bytes.length) after ∧
        bundles'.flatten ++ held' = bundles.flatten ++ held ++ [bytes] ∧
        Collecting outbox start capacity bundles' held' after := by
  by_cases hfull : capacity < held.flatten.length + bytes.length
  · obtain ⟨between, bundles', hdrain, hsame, hbetween⟩ := drain_returns h
    obtain ⟨after, bundles'', held', hplace, hmore, hafter⟩ :=
      place_returns hbetween hbytes (.inl rfl)
    refine ⟨after, bundles'', held', (returns_see _).bind ?_, ?_, hafter⟩
    · rw [h.sized, h.pending, if_pos hfull]
      exact hdrain.bind hplace
    · rw [hmore, List.append_nil, hsame]
  · obtain ⟨after, bundles', held', hplace, hmore, hafter⟩ :=
      place_returns h hbytes (.inr (by omega))
    refine ⟨after, bundles', held', (returns_see _).bind ?_, hmore, hafter⟩
    rw [h.sized, h.pending, if_neg hfull]
    exact hplace

theorem flushRaw_returns (h : Collecting outbox start capacity bundles held state) :
    ∃ after bundles', (flushRaw : Action (Buffered σ × ω) TransportError Unit).Returns state
        (.ok ()) after ∧
      bundles'.flatten = bundles.flatten ++ held ∧
      Collecting outbox start capacity bundles' [] after := by
  obtain ⟨between, bundles', hdrain, hsame, hbetween⟩ := drain_returns h
  obtain ⟨after, hflush, hafter, hsent⟩ := outbox.flush hbetween.ready
  refine ⟨_, bundles', hdrain.bind (returns_within hflush), hsame, ?_⟩
  exact ⟨hafter, hbetween.sized, hsent.trans hbetween.sent, hbetween.bundled, hbetween.pending,
    hbetween.pieces, hbetween.fits⟩

/-- A buffered outbox takes every transmit. -/
def intake (outbox : Outbox ω σ) (start : List Bytes) (capacity : Nat) :
    Intake ω (Buffered σ) := by
  refine .ofWrites (fun state pieces => ∃ bundles held, bundles.flatten ++ held = datagrams pieces ∧
    Collecting outbox start capacity bundles held state) ?write ?empty ?note
  case write =>
    rintro state pieces piece ⟨bundles, held, hpieces, h⟩ hpiece
    obtain ⟨after, bundles', held', hwrite, hmore, hafter⟩ := writeRaw_returns h hpiece
    exact ⟨after, hwrite, bundles', held', by simp [hmore, hpieces, hpiece], hafter⟩
  case empty =>
    rintro state pieces ⟨bundles, held, hpieces, h⟩
    exact ⟨bundles, held, by simpa using hpieces, h⟩
  case note =>
    rintro transport world pieces event ⟨bundles, held, hpieces, h⟩
    obtain ⟨hafter, hsame⟩ := outbox.note event h.ready
    exact ⟨bundles, held, hpieces, hafter, h.sized, hsame.trans h.sent, h.bundled, h.pending,
      h.pieces, h.fits⟩

end Writing

/-! ## Reading -/

section Reading

variable {inbox : Inbox ω σ} {rest : List Bytes} {lost capacity : Nat} {front : List Bytes}
  {bundles : List (List Bytes)} {state : Buffered σ × ω}

/-- The pieces in `front` are in the buffer, and those in `bundles` wait, each bundle as one
datagram, with the datagrams `rest` behind them. -/
structure Unpacking (inbox : Inbox ω σ) (rest : List Bytes) (lost capacity : Nat)
    (front : List Bytes) (bundles : List (List Bytes)) (state : Buffered σ × ω) : Prop where
  ready : inbox.Ready (inside state)
  sized : state.1.capacity = capacity
  unread : state.1.unread = front.flatten
  pieces : ∀ piece ∈ front, piece ≠ []
  waiting : inbox.waiting (inside state) = bundles.map List.flatten ++ rest
  bundled : ∀ bundle ∈ bundles, Bundled capacity bundle
  lost : inbox.lost (inside state) = lost

/-- A piece is in the buffer, or the first in the first bundle. -/
theorem Unpacking.next {piece : Bytes} {pieces : List Bytes}
    (h : Unpacking inbox rest lost capacity front bundles state)
    (hpieces : front ++ bundles.flatten = piece :: pieces) :
    (∃ front', front = piece :: front' ∧ front' ++ bundles.flatten = pieces) ∨
      front = [] ∧ ∃ others bundles', bundles = (piece :: others) :: bundles' ∧
        others ++ bundles'.flatten = pieces := by
  cases front with
  | cons first front' =>
      obtain ⟨rfl, hrest⟩ := List.cons.inj hpieces
      exact .inl ⟨front', rfl, hrest⟩
  | nil =>
      cases bundles with
      | nil => simp at hpieces
      | cons bundle bundles' =>
          cases bundle with
          | nil => exact absurd rfl (h.bundled [] List.mem_cons_self).some
          | cons first others =>
              rw [List.nil_append, List.flatten_cons, List.cons_append] at hpieces
              obtain ⟨rfl, hrest⟩ := List.cons.inj hpieces
              exact .inr ⟨rfl, others, bundles', rfl, hrest⟩

/-- When no piece is left, neither is a byte. -/
theorem Unpacking.finished (h : Unpacking inbox rest lost capacity front bundles state)
    (hpieces : front ++ bundles.flatten = []) :
    state.1.unread = [] ∧ inbox.waiting (inside state) = rest := by
  obtain ⟨rfl, hnone⟩ := List.append_eq_nil_iff.mp hpieces
  cases bundles with
  | nil => exact ⟨h.unread, h.waiting⟩
  | cons bundle others =>
      rw [List.flatten_cons, List.append_eq_nil_iff] at hnone
      exact absurd hnone.1 (h.bundled bundle List.mem_cons_self).some

theorem pollReadable_returns {piece : Bytes} {pieces : List Bytes}
    (h : Unpacking inbox rest lost capacity front bundles state)
    (hpieces : front ++ bundles.flatten = piece :: pieces) (timeout : Option Duration) :
    ∃ after, (pollReadable timeout : Action (Buffered σ × ω) TransportError Bool).Returns state
        (.ok true) after ∧
      Unpacking inbox rest lost capacity front bundles after := by
  obtain ⟨front', rfl, -⟩ | ⟨rfl, others, bundles', rfl, -⟩ := h.next hpieces
  · have hunread : state.1.unread ≠ [] := by
      simp [h.unread, h.pieces piece List.mem_cons_self]
    refine ⟨state, (returns_see _).bind ?_, h⟩
    rw [if_pos (by simpa using hunread)]
    exact returns_pure _
  · obtain ⟨after, hpoll, hafter, hsame, hkept⟩ :=
      inbox.poll timeout h.ready (by simp [h.waiting])
    refine ⟨({ state.1 with inner := after.1 }, after.2), (returns_see _).bind ?_, hafter, h.sized,
      h.unread, h.pieces, hsame.trans h.waiting, h.bundled, hkept.trans h.lost⟩
    rw [if_neg (by simp [h.unread])]
    exact returns_within hpoll

/-- Serving a piece from the front of the buffer. -/
theorem serve_returns {piece : Bytes}
    (h : Unpacking inbox rest lost capacity (piece :: front) bundles state) :
    ∃ after, (serve piece.length : Action (Buffered σ × ω) TransportError Bytes).Returns state
        (.ok piece) after ∧
      Unpacking inbox rest lost capacity front bundles after := by
  have hunread : state.1.unread = piece ++ front.flatten := h.unread
  have htake : state.1.unread.take piece.length = piece := by rw [hunread, List.take_left]
  have hdrop : state.1.unread.drop piece.length = front.flatten := by rw [hunread, List.drop_left]
  have hserve : (serve piece.length : Action (Buffered σ × ω) TransportError Bytes).Returns state
      (.ok (state.1.unread.take piece.length))
      ({ state.1 with unread := state.1.unread.drop piece.length }, state.2) := returns_step _
  rw [htake] at hserve
  exact ⟨_, hserve, h.ready, h.sized, hdrop,
    fun other hother => h.pieces other (List.mem_cons_of_mem piece hother), h.waiting, h.bundled,
    h.lost⟩

/-- A read of the size of a piece gives that piece. -/
theorem readRaw_returns {piece : Bytes} {pieces : List Bytes}
    (h : Unpacking inbox rest lost capacity front bundles state)
    (hpieces : front ++ bundles.flatten = piece :: pieces) (hpiece : piece ≠ []) :
    ∃ after front' bundles',
      (readRaw piece.length : Action (Buffered σ × ω) TransportError Bytes).Returns state
          (.ok piece) after ∧
        front' ++ bundles'.flatten = pieces ∧
        Unpacking inbox rest lost capacity front' bundles' after := by
  have hroom : piece.length ≠ 0 := by simpa using hpiece
  obtain ⟨front', rfl, hrest⟩ | ⟨rfl, others, bundles', rfl, hrest⟩ := h.next hpieces
  · obtain ⟨after, hserve, hafter⟩ := serve_returns h
    refine ⟨after, front', bundles, (returns_see _).bind ?_, hrest, hafter⟩
    rw [if_neg hroom, if_pos (by simp [h.unread, hpiece])]
    exact hserve
  · have hbundle := h.bundled _ List.mem_cons_self
    have hlater : ∀ bundle ∈ bundles', Bundled capacity bundle := fun bundle hmem =>
      h.bundled bundle (List.mem_cons_of_mem _ hmem)
    have hwaiting := h.waiting
    rw [List.map_cons, List.cons_append] at hwaiting
    by_cases hlarge : capacity ≤ piece.length
    · -- The reader goes past its buffer, as the writer has done.
      have halone := hbundle.alone hlarge
      subst halone
      obtain ⟨after, hread, hafter, hothers, hcut⟩ := inbox.read h.ready hroom hwaiting
      rw [List.flatten_singleton, List.take_length] at hread
      rw [List.flatten_singleton, Nat.sub_self, Nat.add_zero, h.lost] at hcut
      refine ⟨({ state.1 with inner := after.1 }, after.2), [], bundles', (returns_see _).bind ?_,
        hrest, hafter, h.sized, h.unread, h.pieces, hothers, hlater, hcut⟩
      rw [if_neg hroom, if_neg (by simp [h.unread]), h.sized, if_pos hlarge]
      exact returns_within hread
    · -- The bundle fits in the buffer, and is served from there.
      have hfits := hbundle.fits_of_lt (by omega)
      have hcapacity : capacity ≠ 0 := by omega
      obtain ⟨between, hread, hbetween, hothers, hcut⟩ := inbox.read h.ready hcapacity hwaiting
      rw [List.take_of_length_le hfits] at hread
      rw [Nat.sub_eq_zero_of_le hfits, Nat.add_zero, h.lost] at hcut
      have hfilled : Unpacking inbox rest lost capacity (piece :: others) bundles'
          ({ state.1 with inner := between.1, unread := (piece :: others).flatten }, between.2) :=
        ⟨hbetween, h.sized, rfl, hbundle.pieces, hothers, hlater, hcut⟩
      obtain ⟨after, hserve, hafter⟩ := serve_returns hfilled
      refine ⟨after, others, bundles', (returns_see _).bind ?_, hrest, hafter⟩
      rw [if_neg hroom, if_neg (by simp [h.unread]), h.sized, if_neg hlarge]
      exact (refill_returns (by simpa [h.sized] using hread)).bind hserve

/-- A buffered inbox serves requests that are as long as the pieces in its bundles. -/
def supply (inbox : Inbox ω σ) (rest : List Bytes) (lost capacity : Nat) :
    Supply ω (Buffered σ) := by
  refine .ofReads (fun state pieces => ∃ front bundles,
    front ++ bundles.flatten = datagrams pieces ∧
      Unpacking inbox rest lost capacity front bundles state) ?poll ?read ?empty ?look ?note
  case poll =>
    rintro state piece pieces timeout ⟨front, bundles, hpieces, h⟩ hpiece
    rw [datagrams_cons hpiece] at hpieces
    obtain ⟨after, hpoll, hafter⟩ := pollReadable_returns h hpieces timeout
    exact ⟨after, hpoll, front, bundles, by rw [hpieces, datagrams_cons hpiece], hafter⟩
  case read =>
    rintro state piece pieces ⟨front, bundles, hpieces, h⟩ hpiece
    rw [datagrams_cons hpiece] at hpieces
    obtain ⟨after, front', bundles', hread, hrest, hafter⟩ := readRaw_returns h hpieces hpiece
    exact ⟨after, hread, front', bundles', hrest, hafter⟩
  case empty =>
    exact fun h => h
  case look =>
    rintro transport world pieces ⟨front, bundles, hpieces, h⟩
    obtain ⟨hafter, hsame, hkept⟩ := inbox.look h.ready
    exact ⟨front, bundles, hpieces, hafter, h.sized, h.unread, h.pieces, hsame.trans h.waiting,
      h.bundled, hkept.trans h.lost⟩
  case note =>
    rintro transport world pieces event ⟨front, bundles, hpieces, h⟩
    obtain ⟨hafter, hsame, hkept⟩ := inbox.note event h.ready
    exact ⟨front, bundles, hpieces, hafter, h.sized, h.unread, h.pieces, hsame.trans h.waiting,
      h.bundled, hkept.trans h.lost⟩

end Reading

end Buffered

end TypedChannel
