import TypedChannel.Proofs.Buffered.Paths
import TypedChannel.Proofs.Host.Peer
/-!
# TypedChannel.Proofs.Buffered.Ledger

Buffers around a transport whose peer may change, and whom their bytes reach.

A `Ledger σ` notes every byte that was written through it, with the peer at
that time.  With one of them inside the buffers and one around them, the outer
one tells whom the bytes were written for, and the inner one whom they went to.

1. A write, a flush and the end of the wrapper send whatever they send to the
   current peer, and they do not change it (`Mails`).
2. A read and a readiness check send nothing, but a read may change the peer
   (`Rests`).
-/

namespace TypedChannel

/-- Bytes, each with the peer that it is for. -/
def addressed (peer : Option SocketAddress) (bytes : Bytes) :
    List (Option SocketAddress × UInt8) := bytes.map (peer, ·)

@[simp] theorem addressed_nil (peer : Option SocketAddress) : addressed peer [] = [] := rfl

theorem addressed_append (peer : Option SocketAddress) (bytes more : Bytes) :
    addressed peer (bytes ++ more) = addressed peer bytes ++ addressed peer more :=
  List.map_append

@[simp] theorem map_snd_addressed (peer : Option SocketAddress) (bytes : Bytes) :
    (addressed peer bytes).map Prod.snd = bytes := by
  rw [addressed, List.map_map]
  exact List.map_id bytes

/-- Only what is empty is for two peers at once. -/
theorem addressed_inj {peer other : Option SocketAddress} {bytes : Bytes} :
    addressed peer bytes = addressed other bytes ↔ peer = other ∨ bytes = [] := by
  cases bytes with
  | nil => simp
  | cons byte bytes =>
      refine ⟨fun h => .inl ?_, fun h => ?_⟩
      · simp only [addressed, List.map_cons, List.cons.injEq, Prod.mk.injEq, and_true] at h
        exact h.1
      · obtain rfl := h.resolve_right nofun
        rfl

/-! ## Ledger -/

/-- A transport and the bytes that were written through it so far, each with the peer at that
time. -/
structure Ledger (σ : Type) where
  inner : σ
  posted : List (Option SocketAddress × UInt8)

namespace Ledger

variable {ω σ α ε : Type}

instance [Addressed σ] : Addressed (Ledger σ) where
  peer p := Addressed.peer p.inner

/-- Run an operation of the transport. -/
def passing (x : Action (σ × ω) ε α) : Action (Ledger σ × ω) ε α :=
  x.on (fun (p, w) => (p.inner, w)) (fun (inner, w) (p, _) => ({ p with inner }, w))

variable [Addressed σ]

/-- The same transport with what a write has put in. -/
def noting (p : Ledger σ) (bytes : Bytes) (result : Except TransportError Nat) (inner : σ) :
    Ledger σ :=
  { inner, posted := p.posted ++
      addressed (Addressed.peer p.inner) (TransportCall.write bytes result).accepted }

/-- Write, and note what was accepted. -/
def writing (bytes : Bytes) (x : Action (σ × ω) TransportError Nat) :
    Action (Ledger σ × ω) TransportError Nat :=
  fun patience (p, w) => (x patience (p.inner, w)).map fun (result, (inner, w)) =>
    (result, (p.noting bytes result inner, w))

instance [Transport ω σ] : Transport ω (Ledger σ) where
  kind p := Transport.kind ω p.inner
  readRaw room := passing (Transport.readRaw room)
  pollReadable timeout := passing (Transport.pollReadable timeout)
  writeRaw bytes := writing bytes (Transport.writeRaw bytes)
  flushRaw := passing Transport.flushRaw
  close := passing Transport.close

omit [Addressed σ] in
theorem passing_ensures {x : Action (σ × ω) ε α} {state : Ledger σ × ω}
    {post : Except ε α → Ledger σ × ω → Prop}
    (hx : x.Ensures (state.1.inner, state.2) fun result after =>
      post result ({ state.1 with inner := after.1 }, after.2)) :
    (passing x).Ensures state post :=
  Action.Ensures.on hx

theorem writing_ensures {bytes : Bytes} {x : Action (σ × ω) TransportError Nat}
    {state : Ledger σ × ω} {post : Except TransportError Nat → Ledger σ × ω → Prop}
    (hx : x.Ensures (state.1.inner, state.2) fun result after =>
      post result (state.1.noting bytes result after.1, after.2)) :
    (writing bytes x).Ensures state post := by
  intro patience result after hrun
  obtain ⟨⟨r, inner, w⟩, hinner, heq⟩ := Option.map_eq_some_iff.mp hrun
  cases heq
  exact hx patience result (inner, w) hinner

end Ledger

/-! ## Buffers around a ledger -/

namespace Buffered

variable {ω σ : Type}

instance [Addressed σ] : Addressed (Buffered σ) where
  peer b := Addressed.peer b.inner

variable [Addressed σ]

/-- From before to after the wrapper has taken on the bytes `accepted`; the front of what waited
and was taken on has gone, and it went to the peer, who is the same. -/
structure Mails (accepted : Bytes) (before after : Buffered (Ledger σ)) : Prop where
  peer : Addressed.peer after = Addressed.peer before
  posted : ∃ gone, gone ++ after.pending = before.pending ++ accepted ∧
    after.inner.posted = before.inner.posted ++ addressed (Addressed.peer before) gone

variable {accepted more : Bytes} {before between after : Buffered (Ledger σ)}

theorem mails_refl (b : Buffered (Ledger σ)) : Mails [] b b :=
  ⟨rfl, [], by simp, by simp⟩

theorem Mails.trans (h : Mails accepted before between) (h' : Mails more between after) :
    Mails (accepted ++ more) before after := by
  obtain ⟨hpeer, gone, hbytes, hposted⟩ := h
  obtain ⟨hpeer', gone', hbytes', hposted'⟩ := h'
  refine ⟨hpeer'.trans hpeer, gone ++ gone', ?_, ?_⟩
  · rw [List.append_assoc, hbytes', ← List.append_assoc, hbytes, List.append_assoc]
  · rw [hposted', hposted, hpeer, addressed_append, List.append_assoc]

/-- An operation within that puts nothing in and keeps the peer. -/
theorem mails_quiet {b : Buffered (Ledger σ)} {inner : σ}
    (hpeer : Addressed.peer inner = Addressed.peer b) :
    Mails [] b { b with inner := { b.inner with inner } } :=
  ⟨hpeer, [], by simp, by simp⟩

variable [Transport ω σ]

section Mails

variable (hkeeps : KeepsPeer ω σ)

include hkeeps

/-- Whatever goes out goes to the current peer, and what is held back keeps its place. -/
theorem mails_account : Account ω (Mails (σ := σ)) where
  nothing := mails_refl
  append h h' := h.trans h'
  offered _ := Ledger.writing_ensures <| (hkeeps.write _ _).mono
    fun _ _ hpeer _ hleft => ⟨hpeer, _, by simpa using hleft, rfl⟩
  passed _ _ hnone := Ledger.writing_ensures <| (hkeeps.write _ _).mono
    fun _ _ hpeer => ⟨hpeer, _, by simp [hnone], rfl⟩
  held _ _ := ⟨rfl, [], rfl, by simp⟩
  flush _ := Ledger.passing_ensures <| (hkeeps.flush _).mono fun _ _ hpeer => mails_quiet hpeer

/-- The end of the wrapper sends what it still can to the current peer. -/
theorem close_mails [World ω] (state : Buffered (Ledger σ) × ω) :
    (close : Action (Buffered (Ledger σ) × ω) Empty Unit).Ensures state
      fun _ after => Mails [] state.1 after.1 := by
  refine ((mails_account hkeeps).settle state).bind ?_ fun e => e.elim
  intro _ between hbetween
  refine Action.Ensures.on (Ledger.passing_ensures ((hkeeps.close _).mono fun _ _ hpeer => ?_))
  exact hbetween.trans (mails_quiet hpeer)

end Mails

/-! ### Reads -/

/-- Nothing is sent and nothing comes to wait, though the peer may become another. -/
def Rests {ε : Type} (state : Buffered (Ledger σ) × ω) (_ : Option ε)
    (after : Buffered (Ledger σ) × ω) : Prop :=
  after.1.inner.posted = state.1.inner.posted ∧ after.1.pending = state.1.pending

omit [Addressed σ] [Transport ω σ] in
theorem rests_composes {ε : Type} : Action.Composes (Rests (ω := ω) (σ := σ) (ε := ε)) where
  refl _ := ⟨rfl, rfl⟩
  trans h h' := ⟨h'.1.trans h.1, h'.2.trans h.2⟩

omit [Addressed σ] [Transport ω σ] in
theorem within_rests {ε α : Type} (x : Action (σ × ω) ε α) :
    (within (Ledger.passing x)).Obeys Rests :=
  fun _ => Action.Ensures.on (Ledger.passing_ensures fun _ _ _ _ => ⟨rfl, rfl⟩)

omit [Addressed σ] [Transport ω σ] in
theorem changeUnread_rests {ε : Type} (unread : Buffered (Ledger σ) → Bytes) :
    (changeBuffers fun b => { b with unread := unread b } :
      Action (Buffered (Ledger σ) × ω) ε Unit).Obeys Rests :=
  fun _ => Action.ensures_change ⟨rfl, rfl⟩

theorem readRaw_rests (room : Nat) :
    (readRaw room : Action (Buffered (Ledger σ) × ω) TransportError Bytes).Obeys Rests := by
  have hR := rests_composes (ω := ω) (σ := σ) (ε := TransportError)
  have hserve : (serve room : Action (Buffered (Ledger σ) × ω) TransportError Bytes).Obeys Rests :=
    fun _ => Action.ensures_step ⟨rfl, rfl⟩
  have hrefill : (refill : Action (Buffered (Ledger σ) × ω) TransportError Unit).Obeys Rests := by
    refine Action.Obeys.bind hR (Action.obeys_see hR _) fun b => ?_
    refine Action.Obeys.bind hR (changeUnread_rests _) fun _ => ?_
    refine Action.Obeys.attempt_bind hR id (within_rests _) fun result => ?_
    cases result with
    | ok chunk => exact changeUnread_rests _
    | error e =>
        exact Action.Obeys.bind hR (changeUnread_rests _) fun _ =>
          Action.obeys_fail fun _ => ⟨rfl, rfl⟩
  refine Action.Obeys.bind hR (Action.obeys_see hR _) fun b => ?_
  split
  · exact Action.obeys_pure hR _
  · split
    · exact hserve
    · split
      · exact within_rests _
      · exact Action.Obeys.bind hR hrefill fun _ => hserve

theorem pollReadable_rests (timeout : Option Duration) :
    (pollReadable timeout : Action (Buffered (Ledger σ) × ω) TransportError Bool).Obeys Rests := by
  have hR := rests_composes (ω := ω) (σ := σ) (ε := TransportError)
  refine Action.Obeys.bind hR (Action.obeys_see hR _) fun b => ?_
  split
  · exact Action.obeys_pure hR _
  · exact within_rests _

end Buffered

end TypedChannel
