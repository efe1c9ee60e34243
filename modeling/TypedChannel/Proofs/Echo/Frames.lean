import TypedChannel.Proofs.Echo.Dialogue
/-!
# TypedChannel.Proofs.Echo.Frames

Frames, as an echo server receives them from a stream.

1. A frame is a string with its length in front, or a payload with the
   terminator behind.  `heard?` tells what a server hears in it, if it is
   answered at all.
2. Whatever it hears, a server takes exactly the frame: the text is drawn with
   it (`receive_draws`), or the failure is one that leaves the channel aligned
   (`receive_breaks`).
-/

namespace TypedChannel.Cli.Echo

open TypedChannel.Action TypedChannel.Channel

/-- The bytes that carry a frame; without a payload it is the mark for no string. -/
def frameWire (settings : EchoSettings) (frame : Option Bytes) : Bytes :=
  match settings.terminator with
  | none => stringWire frame
  | some terminator => frame.getD [] ++ Text.Utf8.encode terminator

/-- Whether a frame is a complete one: its length is one that a channel accepts, or it ends where
its terminator first does. -/
def Framed (settings : EchoSettings) (config : ChannelConfig) (frame : Option Bytes) : Prop :=
  match settings.terminator with
  | none => FitsString config.maxStringLength frame
  | some terminator => ∃ payload, frame = some payload ∧
      Bytes.indexOf? (Text.Utf8.encode terminator) (payload ++ Text.Utf8.encode terminator) =
        some payload.length

/-- The payload of a frame that is not too long; no string at all counts as the empty one. -/
def payload? (settings : EchoSettings) (config : ChannelConfig) (frame : Option Bytes) :
    Option Bytes :=
  match settings.terminator with
  | none => some (frame.getD [])
  | some terminator => frame.filter fun payload =>
      payload.length + (Text.Utf8.encode terminator).length ≤ config.terminatedBufferSize

/-- What a server hears in a frame: its payload, if that is text. -/
def heard? (settings : EchoSettings) (config : ChannelConfig) (frame : Option Bytes) :
    Option Heard :=
  (payload? settings config frame).bind hear

theorem heard?_eq_some {settings : EchoSettings} {config : ChannelConfig} {frame : Option Bytes}
    {heard : Heard} (h : heard? settings config frame = some heard) :
    payload? settings config frame = some heard.payload ∧
      Text.Utf8.encode heard.text = heard.payload := by
  obtain ⟨payload, hpayload, hheard⟩ := Option.bind_eq_some_iff.mp h
  obtain ⟨hsame, htext⟩ := hear_eq_some hheard
  exact ⟨hpayload.trans (by rw [hsame]), htext⟩

/-- A frame in which nothing is heard is too long, or no text. -/
theorem heard?_eq_none {settings : EchoSettings} {config : ChannelConfig} {frame : Option Bytes}
    (h : heard? settings config frame = none) :
    payload? settings config frame = none ∨ ∃ payload fault,
      payload? settings config frame = some payload ∧
        Text.Utf8.decode payload = .error fault := by
  cases hpayload : payload? settings config frame with
  | none => exact .inl rfl
  | some payload =>
      rw [heard?, hpayload, Option.bind_some] at h
      obtain ⟨fault, hfault⟩ := hear_eq_none h
      exact .inr ⟨payload, fault, rfl, hfault⟩

/-! ## Receiving a frame -/

variable {ω σ : Type} [World ω] [Transport ω σ] {flow : Flow ω σ} {settings : EchoSettings}
  {frame : Option Bytes} {state : Channel σ × Surroundings ω}

/-- A frame that is heard is taken, and its text received. -/
theorem receive_draws (htimed : flow.timed = true) (hsome : settings.terminator ≠ some "")
    {heard : Heard}
    (hframed : Framed settings state.1.config frame)
    (hheard : heard? settings state.1.config frame = some heard) :
    Draws flow.supply state [frameWire settings frame] heard.text (receive settings) := by
  obtain ⟨hpayload, htext⟩ := heard?_eq_some hheard
  have htime : InTime flow.supply.timed (stalling settings).timeout := .inr htimed
  cases hterminator : settings.terminator with
  | none =>
      simp only [Framed, payload?, hterminator, Option.some.injEq] at hframed hpayload
      -- The frame is what a string with this text, or no string, is sent as.
      obtain ⟨value, rfl, hvalue⟩ : ∃ value : Option String,
          value.map Text.Utf8.encode = frame ∧ value.getD "" = heard.text := by
        cases frame with
        | some payload => exact ⟨some heard.text, by simpa [htext] using hpayload.symm, rfl⟩
        | none =>
            have hempty : Text.Utf8.decode (Text.Utf8.encode heard.text) = .ok "" := by
              rw [htext, ← hpayload]
              exact Text.Utf8.decode_encode ""
            rw [Text.Utf8.decode_encode, Except.ok.injEq] at hempty
            exact ⟨none, rfl, hempty.symm⟩
      have hstring : Draws flow.supply state _ value (acceptString (stalling settings)) :=
        acceptString_draws htime hframed
      have hdraws : Draws flow.supply state
          [frameWire settings (value.map Text.Utf8.encode)] _ _ :=
        (hstring.map (·.getD "")).regroup (by simp [frameWire, hterminator])
      rw [hvalue] at hdraws
      rw [receive_prefixed hterminator]
      exact hdraws
  | some terminator =>
      simp only [Framed, payload?, hterminator] at hframed hpayload
      obtain ⟨payload, rfl, hfirst⟩ := hframed
      obtain ⟨hsame, hfits⟩ := Option.filter_eq_some_iff.mp hpayload
      cases hsame
      rw [← htext] at hfirst hfits
      have hfits' : FitsTerminated state.1.config.terminatedBufferSize
          (Text.Utf8.encode heard.text) (Text.Utf8.encode terminator) :=
        ⟨encode_ne_nil hsome hterminator, hfirst, by simpa using hfits⟩
      have hdraws := acceptTerminated_draws (flow_terminates flow) htime hfits'
      rw [receive_terminated hterminator, frameWire, hterminator, Option.getD_some, ← htext]
      exact hdraws

/-- A frame in which nothing is heard is taken as well, and reported as one to skip. -/
theorem receive_breaks (htimed : flow.timed = true) (hsome : settings.terminator ≠ some "")
    (hframed : Framed settings state.1.config frame)
    (hheard : heard? settings state.1.config frame = none) :
    Breaks flow.supply state [frameWire settings frame] (·.leavesAligned = true)
      (receive settings) := by
  have htime : InTime flow.supply.timed (stalling settings).timeout := .inr htimed
  cases hterminator : settings.terminator with
  | none =>
      rw [receive_prefixed hterminator]
      obtain hlong | ⟨payload, fault, hpayload, hfault⟩ := heard?_eq_none hheard
      · simp [payload?, hterminator] at hlong
      · simp only [Framed, payload?, hterminator, Option.some.injEq] at hframed hpayload
        cases frame with
        | none =>
            have hempty : Text.Utf8.decode payload = .ok "" :=
              hpayload ▸ Text.Utf8.decode_encode ""
            rw [hempty] at hfault
            contradiction
        | some bytes =>
            rw [Option.getD_some] at hpayload
            subst hpayload
            have hbreaks : Breaks flow.supply state [frameWire settings (some bytes)] _ _ :=
              (acceptString_breaks htime hframed hfault).regroup (by
                simp [frameWire, hterminator])
            exact (hbreaks.mono fun _ hblame => by rw [hblame]; rfl).bind
  | some terminator =>
      rw [receive_terminated hterminator, frameWire, hterminator]
      simp only [Framed, hterminator] at hframed
      obtain ⟨payload, rfl, hfirst⟩ := hframed
      rw [Option.getD_some]
      by_cases hfits : payload.length + (Text.Utf8.encode terminator).length ≤
          state.1.config.terminatedBufferSize
      · have hpayload : payload? settings state.1.config (some payload) = some payload := by
          simp [payload?, hterminator, hfits]
        obtain hlong | ⟨payload', fault, hpayload', hfault⟩ := heard?_eq_none hheard
        · rw [hpayload] at hlong
          contradiction
        · rw [hpayload, Option.some.injEq] at hpayload'
          subst hpayload'
          have hbreaks : Breaks flow.supply state _ _ _ :=
            acceptTerminated_breaks (flow_terminates flow) htime
              ⟨encode_ne_nil hsome hterminator, hfirst, hfits⟩ hfault
          exact hbreaks.mono fun _ hblame => by rw [hblame]; rfl
      · have hbreaks : Breaks flow.supply state _ _ _ :=
          acceptTerminatedBytes_breaks htime (encode_ne_nil hsome hterminator) hfirst
            (Nat.lt_of_not_le hfits)
        exact (hbreaks.mono fun _ hblame => by rw [hblame]; rfl).bind

/-- Behind the last frame nothing is received. -/
theorem receive_closed [Terminal ω] (dialogue : Dialogue ω σ) (output : Output UInt8)
    (hsome : settings.terminator ≠ some "") (state : Channel σ × Surroundings ω) :
    Breaks (dialogue.closed output) state [] Dialogue.Gone (receive settings) := by
  have htime : InTime (dialogue.closed output).timed (stalling settings).timeout := .inr rfl
  have hstarves : Starves (dialogue.closed output) Dialogue.Gone := dialogue.closed_starves output
  cases hterminator : settings.terminator with
  | none =>
      rw [receive_prefixed hterminator]
      exact (acceptString_starves hstarves htime state).bind
  | some terminator =>
      rw [receive_terminated hterminator]
      exact acceptTerminated_starves hstarves (encode_ne_nil hsome hterminator)
        (fun h => dialogue.continuous h.2.1) htime state

end TypedChannel.Cli.Echo
