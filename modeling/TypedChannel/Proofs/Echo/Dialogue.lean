import TypedChannel.Proofs.Echo.Service
import TypedChannel.Proofs.RoundTrip.Malformed
/-!
# TypedChannel.Proofs.Echo.Dialogue

A stream on which a peer sends one run of bytes after another, closes, and
takes what is written back to it.

1. Between two runs the peer may pause, so that a readiness check finds nothing
   for a while; within a run, and once it has closed, every check says yes.
2. Seen from one run a dialogue is a `Flow`, seen from its end it is a supply of
   nothing (`Dialogue.closed`), and what is written to it goes into a `Sink`.
-/

namespace TypedChannel.Cli

open TypedChannel.Action

variable {ω σ α : Type}

/-- A stream that brings runs of bytes and then ends. -/
structure Dialogue (ω σ : Type) [World ω] [Transport ω σ] [Terminal ω] where
  /-- These runs are still to come, the first one first. -/
  Brings : σ × ω → List Bytes → Prop
  output : σ × ω → Output UInt8
  /-- How many readiness checks may still find nothing before the next run begins. -/
  pauses : σ × ω → Nat
  /-- How many more times a read or a write can be interrupted. -/
  interruptions : σ × ω → Nat
  /-- It is a stream or a pipe. -/
  continuous : ∀ {state : σ × ω} {runs : List Bytes}, Brings state runs →
    Transport.kind ω state.1 ≠ .datagram
  /-- Nobody asks the server to stop. -/
  running : ∀ {state : σ × ω} {runs : List Bytes}, Brings state runs →
    Terminal.isInterrupted state.2 = false
  /-- A run that is used up does not count. -/
  empty : ∀ {state : σ × ω} {runs : List Bytes}, Brings state ([] :: runs) ↔ Brings state runs
  poll : ∀ {state : σ × ω} {runs : List Bytes} (timeout : Option Duration), Brings state runs →
    ∃ answer after,
      (Transport.pollReadable timeout : Action (σ × ω) TransportError Bool).Returns state
          (.ok answer) after ∧
        Brings after runs ∧ output after = output state ∧
        interruptions after ≤ interruptions state ∧
        if answer = true then pauses after = 0 else pauses after < pauses state
  read : ∀ {state : σ × ω} {run : Bytes} {runs : List Bytes} {room : Nat},
    Brings state (run :: runs) → pauses state = 0 → room ≠ 0 → room ≤ run.length →
    ∃ result after,
      (Transport.readRaw room : Action (σ × ω) TransportError Bytes).Returns state result after ∧
        output after = output state ∧
        ((∃ chunk left, result = .ok chunk ∧ chunk ≠ [] ∧ chunk.length ≤ room ∧
            run = chunk ++ left ∧ Brings after (left :: runs) ∧ (left ≠ [] → pauses after = 0)) ∨
          ∃ e, result = .error e ∧ e.isInterrupted = true ∧ Brings after (run :: runs) ∧
            pauses after = 0 ∧ interruptions after < interruptions state)
  /-- Behind the last run a read finds the end. -/
  close : ∀ {state : σ × ω} {room : Nat}, Brings state [] → pauses state = 0 → room ≠ 0 →
    ∃ e after,
      (Transport.readRaw room : Action (σ × ω) TransportError Bytes).Returns state (.error e)
          after ∧
        Brings after [] ∧ output after = output state ∧ pauses after = 0 ∧
        (e.isPeerGone = true ∨ e.isInterrupted = true ∧ interruptions after < interruptions state)
  write : ∀ {state : σ × ω} {runs : List Bytes} {bytes : Bytes}, Brings state runs → bytes ≠ [] →
    ∃ result after,
      (Transport.writeRaw bytes : Action (σ × ω) TransportError Nat).Returns state result after ∧
        Brings after runs ∧
        ((∃ n, result = .ok n ∧ n ≠ 0 ∧ output after =
            { output state with written := (output state).written ++ bytes.take n }) ∨
          ∃ e, result = .error e ∧ e.isInterrupted = true ∧ output after = output state ∧
            interruptions after < interruptions state)
  look : ∀ {transport : σ} {world : ω} {runs : List Bytes}, Brings (transport, world) runs →
    Brings (transport, (World.look world).2) runs ∧
      output (transport, (World.look world).2) = output (transport, world) ∧
      pauses (transport, (World.look world).2) ≤ pauses (transport, world) ∧
      interruptions (transport, (World.look world).2) ≤ interruptions (transport, world)
  note : ∀ {transport : σ} {world : ω} {runs : List Bytes} (event : Log.Event),
    Brings (transport, world) runs →
    Brings (transport, World.note event world) runs ∧
      output (transport, World.note event world) = output (transport, world) ∧
      pauses (transport, World.note event world) ≤ pauses (transport, world)
  print : ∀ {transport : σ} {world : ω} {runs : List Bytes} (text : String),
    Brings (transport, world) runs →
    Brings (transport, Terminal.print text world) runs ∧
      output (transport, Terminal.print text world) =
        { output (transport, world) with
          printed := (output (transport, world)).printed ++ text }

namespace Dialogue

variable [World ω] [Transport ω σ] [Terminal ω] (dialogue : Dialogue ω σ)

/-- A run, with the runs `later` behind it. -/
def flow (later : List Bytes) (output : Output UInt8) : Flow ω σ where
  Holds state run := dialogue.Brings state (run :: later) ∧ dialogue.output state = output ∧
    (run ≠ [] → dialogue.pauses state = 0)
  timed := true
  interruptions := dialogue.interruptions
  continuous h := dialogue.continuous h.1
  poll {state run timeout} h hrun _ := by
    obtain ⟨hbrings, houtput, hpauses⟩ := h
    obtain ⟨answer, after, hpoll, hafter, hsame, hfewer, hanswer⟩ := dialogue.poll timeout hbrings
    have hnone := hpauses hrun
    cases answer with
    | false =>
        simp only [Bool.false_eq_true, if_false] at hanswer
        omega
    | true => exact ⟨after, hpoll, ⟨hafter, hsame.trans houtput, fun _ => hanswer⟩, hfewer⟩
  read {state run} room h hroom hle := by
    obtain ⟨hbrings, houtput, hpauses⟩ := h
    have hrun : run ≠ [] :=
      List.ne_nil_of_length_pos (Nat.lt_of_lt_of_le (Nat.pos_of_ne_zero hroom) hle)
    obtain ⟨result, after, hread, hsame, hend⟩ := dialogue.read hbrings (hpauses hrun) hroom hle
    refine ⟨result, after, hread, ?_⟩
    obtain ⟨chunk, left, hresult, hchunk, hfits, hsplit, hleft, hnone⟩ |
      ⟨e, hresult, he, hagain, hnone, hfewer⟩ := hend
    · exact .inl ⟨chunk, left, hresult, hchunk, hfits, hsplit, hleft, hsame.trans houtput, hnone⟩
    · exact .inr ⟨e, hresult, he, ⟨hagain, hsame.trans houtput, fun _ => hnone⟩, hfewer⟩
  look _ h := by
    obtain ⟨hbrings, houtput, hpauses⟩ := h
    obtain ⟨hafter, hsame, hfewer, hinterruptions⟩ := dialogue.look hbrings
    exact ⟨⟨hafter, hsame.trans houtput, fun hrun => by have := hpauses hrun; omega⟩,
      hinterruptions⟩
  note event h := by
    obtain ⟨hbrings, houtput, hpauses⟩ := h
    obtain ⟨hafter, hsame, hfewer⟩ := dialogue.note event hbrings
    exact ⟨hafter, hsame.trans houtput, fun hrun => by have := hpauses hrun; omega⟩

/-- Where replies go, while these runs are still to come. -/
def sink (runs : List Bytes) (printed : String) : Sink ω σ where
  Ready state := dialogue.Brings state runs ∧ (dialogue.output state).printed = printed
  accepted state := (dialogue.output state).written
  interruptions := dialogue.interruptions
  write {state} bytes h hbytes := by
    obtain ⟨hbrings, hprinted⟩ := h
    obtain ⟨result, after, hwrite, hafter, hend⟩ := dialogue.write hbrings hbytes
    refine ⟨result, after, hwrite, ?_⟩
    obtain ⟨n, hresult, hn, houtput⟩ | ⟨e, hresult, he, houtput, hfewer⟩ := hend
    · exact ⟨⟨hafter, by rw [houtput, hprinted]⟩, .inl ⟨n, hresult, hn, by rw [houtput]⟩⟩
    · exact ⟨⟨hafter, by rw [houtput, hprinted]⟩, .inr ⟨e, hresult, he, by rw [houtput], hfewer⟩⟩
  note event h := by
    obtain ⟨hbrings, hprinted⟩ := h
    obtain ⟨hafter, hsame, -⟩ := dialogue.note event hbrings
    exact ⟨⟨hafter, by rw [hsame, hprinted]⟩, by rw [hsame]⟩

/-- The end of a dialogue, where nothing is left to ask for. -/
def closed (output : Output UInt8) : Supply ω σ where
  Holds state pieces := pieces = [] ∧ dialogue.Brings state [] ∧ dialogue.output state = output ∧
    dialogue.pauses state = 0
  timed := true
  whole := true
  receive h := by
    obtain ⟨hnone, -⟩ := h
    contradiction
  look _ h := by
    obtain ⟨hpieces, hbrings, houtput, hpauses⟩ := h
    obtain ⟨hafter, hsame, hfewer, -⟩ := dialogue.look hbrings
    exact ⟨hpieces, hafter, hsame.trans houtput, by omega⟩
  note event h := by
    obtain ⟨hpieces, hbrings, houtput, hpauses⟩ := h
    obtain ⟨hafter, hsame, hfewer⟩ := dialogue.note event hbrings
    exact ⟨hpieces, hafter, hsame.trans houtput, by omega⟩

/-- Whether the peer is to blame for a failure, because it has gone. -/
def Gone (cause : ChannelError) : Prop :=
  ∃ source, cause = .transport source ∧ source.isPeerGone = true

theorem isInterrupted_of_isPeerGone {e : TransportError} (h : e.isPeerGone = true) :
    e.isInterrupted = false := by
  cases e with
  | io source =>
      unfold TransportError.isPeerGone at h
      unfold TransportError.isInterrupted
      cases hkind : source.kind <;> simp_all
  | closed => rfl
  | _ => contradiction

/-- The place where that supply is, and where its peer is found to have gone. -/
def terminus (output : Output UInt8) : Terminus ω σ where
  Holds state := dialogue.Brings state [] ∧ dialogue.output state = output ∧
    dialogue.pauses state = 0
  timed := true
  interruptions := dialogue.interruptions
  Tells e := e.isPeerGone = true
  final := isInterrupted_of_isPeerGone
  poll {state timeout} h _ := by
    obtain ⟨hbrings, houtput, hpauses⟩ := h
    obtain ⟨answer, after, hpoll, hafter, hsame, hfewer, hanswer⟩ := dialogue.poll timeout hbrings
    cases answer with
    | false =>
        simp only [Bool.false_eq_true, if_false] at hanswer
        omega
    | true => exact ⟨after, hpoll, ⟨hafter, hsame.trans houtput, hanswer⟩, hfewer⟩
  read {state room} h hroom := by
    obtain ⟨hbrings, houtput, hpauses⟩ := h
    obtain ⟨e, after, hread, hafter, hsame, hnone, hend⟩ := dialogue.close hbrings hpauses hroom
    exact ⟨e, after, hread, ⟨hafter, hsame.trans houtput, hnone⟩, hend⟩
  look _ h := by
    obtain ⟨hbrings, houtput, hpauses⟩ := h
    obtain ⟨hafter, hsame, hfewer, hinterruptions⟩ := dialogue.look hbrings
    exact ⟨⟨hafter, hsame.trans houtput, by omega⟩, hinterruptions⟩
  note event h := by
    obtain ⟨hbrings, houtput, hpauses⟩ := h
    obtain ⟨hafter, hsame, hfewer⟩ := dialogue.note event hbrings
    exact ⟨hafter, hsame.trans houtput, by omega⟩

/-- At the end every request fails because the peer has gone. -/
theorem closed_starves (output : Output UInt8) : Channel.Starves (dialogue.closed output) Gone := by
  intro state pieces wanted timeout h hwanted
  obtain ⟨e, after, hreceive, hgone, hafter⟩ :=
    (dialogue.terminus output).receive_returns (.inr rfl) hwanted h.2
  exact ⟨e, after, hreceive, ⟨e, rfl, hgone⟩, h.1, hafter⟩

end Dialogue

end TypedChannel.Cli
