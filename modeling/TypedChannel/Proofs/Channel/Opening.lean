import TypedChannel.Channel.Listener
import TypedChannel.Proofs.Channel.Policy
/-!
# TypedChannel.Proofs.Channel.Opening

The policy where there is no channel yet.

1. Connecting, accepting and making a pipe leave the diagnostics as they were
   if they succeed, and apply the policy once if they fail (`Admits`).  A client
   and a server that takes its first peer go by their own options, the others
   by the settings for their channels.
2. Once the transport has answered, every one of them comes back, with the
   failure that the transport has met if it has met one (`HandsOn`).
3. `errorPolicy` puts the two halves together: every operation on a channel in
   every state that operations lead to, and every way to open one.
-/

namespace TypedChannel

section Opening

variable {ω α ε : Type} [HostWorld ω]

/-- How an attempt to open something leaves the diagnostics: as they were, or with the policy
applied once. -/
def Admits (fatal : Bool) (handle : Diagnostics.Handle) (around : Surroundings ω)
    (failure : Option ChannelError) (after : Surroundings ω) : Prop :=
  match failure with
  | none => after.diagnostics.slots = around.diagnostics.slots
  | some e => ∃ cause, Applied fatal handle around.diagnostics cause e after.diagnostics ∧
      (handle.Held around.diagnostics →
        after.diagnostics.lastError handle = some cause.message)

variable {around between : Surroundings ω}

/-- Closing a listener cannot fail. -/
theorem close_ensures (listener : ChannelListener) (around : Surroundings ω) :
    (listener.close : Action (Surroundings ω) ε Unit).Ensures around fun result after =>
      failure? result = none ∧ after.diagnostics = around.diagnostics := by
  intro patience result after hrun
  cases hrun
  exact ⟨rfl, rfl⟩

/-- What the transport has answered is handed on: a success as it is, and a failure through the
policy, with its own text recorded. -/
def HandsOn {β : Type} (fatal : Bool) (handle : Diagnostics.Handle) (around : Surroundings ω)
    (answer : Except TransportError β) (result : Except ChannelError α) (after : Surroundings ω) :
    Prop :=
  match answer with
  | .ok _ => (∃ a, result = .ok a) ∧ after.diagnostics.slots = around.diagnostics.slots
  | .error cause => ∃ e, result = .error e ∧
      Applied fatal handle around.diagnostics (.transport cause) e after.diagnostics ∧
      (handle.Held around.diagnostics → after.diagnostics.lastError handle = some cause.message)

section Completes

variable {world : ω} {β : Type}

theorem close_completes (listener : ChannelListener) (around : Surroundings ω) :
    (listener.close : Action (Surroundings ω) ε Unit).Completes around fun result after =>
      result = .ok () ∧ after.diagnostics = around.diagnostics :=
  ⟨_, _, ⟨0, fun _ _ => rfl⟩, rfl, rfl⟩

/-- How a server takes its first peer off the socket. -/
def ChannelListener.takeFirst (listener : ChannelListener)
    (options : ChannelListener.ServerOptions) : Action ω TransportError Handle :=
  if options.keepListening then listener.socket.accept options.acceptTimeout
  else listener.socket.acceptOnce options.acceptTimeout

end Completes

/-- How every attempt to open a channel ends. -/
structure Opening (around : Surroundings ω) : Prop where
  connect : ∀ name port kind options, (Channel.connect name port kind options).Ensures around
    fun result after =>
      Admits options.errorsFatal options.config.diagnostics around (failure? result) after
  accept : ∀ (listener : ChannelListener) timeout, (listener.accept timeout).Ensures around
    fun result after => Admits listener.config.errorsFatal listener.config.diagnostics around
      (failure? result) after
  acceptOnce : ∀ (listener : ChannelListener) timeout, (listener.acceptOnce timeout).Ensures around
    fun result after => Admits listener.config.errorsFatal listener.config.diagnostics around
      (failure? result) after
  serve : ∀ (listener : ChannelListener) options, (listener.serve options).Ensures around
    fun result after =>
      Admits options.errorsFatal listener.config.diagnostics around (failure? result) after
  pipe : ∀ config : ChannelConfig, (Channel.pipe config).Ensures around
    fun result after =>
      Admits config.errorsFatal config.diagnostics around (failure? result) after
  /-- As soon as the transport has answered, well or not, each of them comes back. -/
  connected : ∀ {name port kind} {options : ClientOptions} {answer world},
    (Socket.connect name port kind options.connectTimeout).Returns around.world answer world →
    (Channel.connect name port kind options).Completes around
      (HandsOn options.errorsFatal options.config.diagnostics around answer)
  accepted : ∀ {listener : ChannelListener} {timeout answer world},
    (listener.socket.accept timeout).Returns around.world answer world →
    (listener.accept timeout).Completes around
      (HandsOn listener.config.errorsFatal listener.config.diagnostics around answer)
  acceptedOnce : ∀ {listener : ChannelListener} {timeout answer world},
    (listener.socket.acceptOnce timeout).Returns around.world answer world →
    (listener.acceptOnce timeout).Completes around
      (HandsOn listener.config.errorsFatal listener.config.diagnostics around answer)
  served : ∀ {listener : ChannelListener} {options answer world},
    (listener.takeFirst options).Returns around.world answer world →
    (listener.serve options).Completes around
      (HandsOn options.errorsFatal listener.config.diagnostics around answer)
  piped : ∀ {config : ChannelConfig} {answer world},
    PipePair.create.Returns around.world answer world →
    (Channel.pipe config).Completes around
      (HandsOn config.errorsFatal config.diagnostics around answer)

end Opening

end TypedChannel
