import TypedChannel.Proofs.Action
import TypedChannel.Transport.Basic
/-!
# TypedChannel.Proofs.Transport.Recorded

A transport with a list of the calls made of it.

`Recorded σ` hands every call on to `σ` and writes down what was asked and what
came back.  The transport `σ` is any at all, so a fact about the record of an
operation over `Recorded σ` is one about what the operation does with every
transport, whatever that answers.
-/

namespace TypedChannel

/-! ## Looking at the world -/

namespace Transport

variable {ω σ ε α β : Type} {state : σ × ω}

theorem ensures_inWorld_bind {f : ω → α × ω} {g : α → Action (σ × ω) ε β}
    {post : Except ε β → σ × ω → Prop}
    (h : (g (f state.2).1).Ensures (state.1, (f state.2).2) post) :
    (inWorld f >>= g).Ensures state post := h

theorem ensures_note [World ω] {event : Log.Event} {post : Except ε Unit → σ × ω → Prop}
    (h : post (.ok ()) (state.1, World.note event state.2)) :
    (note event : Action (σ × ω) ε Unit).Ensures state post := by
  intro patience result after hrun
  cases hrun
  exact h

theorem completes_note [World ω] {event : Log.Event} {post : Except ε Unit → σ × ω → Prop}
    (h : post (.ok ()) (state.1, World.note event state.2)) :
    (note event : Action (σ × ω) ε Unit).Completes state post :=
  ⟨.ok (), (state.1, World.note event state.2), ⟨0, fun _ _ => rfl⟩, h⟩

end Transport

/-! ## Calls -/

/-- One call of a transport, with how it ended. -/
inductive TransportCall where
  | read (room : Nat) (result : Except TransportError Bytes)
  | poll (timeout : Option Duration) (result : Except TransportError Bool)
  | write (offered : Bytes) (result : Except TransportError Nat)
  | flush (result : Except TransportError Unit)
  | close

namespace TransportCall

/-- The bytes that a call has put into the transport. -/
def accepted : TransportCall → Bytes
  | write offered (.ok n) => offered.take n
  | _ => []

/-- The bytes that a call has taken from the transport. -/
def taken : TransportCall → Bytes
  | read _ (.ok chunk) => chunk
  | _ => []

/-- Whether a call offers bytes. -/
def isWrite : TransportCall → Bool
  | write _ _ => true
  | _ => false

@[simp] theorem accepted_write_ok (offered : Bytes) (n : Nat) :
    (write offered (.ok n)).accepted = offered.take n := rfl

@[simp] theorem accepted_write_error (offered : Bytes) (e : TransportError) :
    (write offered (.error e)).accepted = [] := rfl

@[simp] theorem accepted_read (room : Nat) (result : Except TransportError Bytes) :
    (read room result).accepted = [] := rfl

@[simp] theorem accepted_poll (timeout : Option Duration) (result : Except TransportError Bool) :
    (poll timeout result).accepted = [] := rfl

@[simp] theorem accepted_flush (result : Except TransportError Unit) :
    (flush result).accepted = [] := rfl

@[simp] theorem accepted_close : close.accepted = [] := rfl

@[simp] theorem taken_read_ok (room : Nat) (chunk : Bytes) :
    (read room (.ok chunk)).taken = chunk := rfl

@[simp] theorem taken_read_error (room : Nat) (e : TransportError) :
    (read room (.error e)).taken = [] := rfl

@[simp] theorem taken_write (offered : Bytes) (result : Except TransportError Nat) :
    (write offered result).taken = [] := rfl

@[simp] theorem taken_poll (timeout : Option Duration) (result : Except TransportError Bool) :
    (poll timeout result).taken = [] := rfl

@[simp] theorem taken_flush (result : Except TransportError Unit) :
    (flush result).taken = [] := rfl

end TransportCall

/-- All bytes that `calls` have put into the transport, in order. -/
def accepted (calls : List TransportCall) : Bytes := calls.flatMap TransportCall.accepted

/-- All bytes that `calls` have taken from the transport, in order. -/
def taken (calls : List TransportCall) : Bytes := calls.flatMap TransportCall.taken

@[simp] theorem accepted_nil : accepted [] = [] := rfl

@[simp] theorem taken_nil : taken [] = [] := rfl

@[simp] theorem accepted_cons (call : TransportCall) (calls : List TransportCall) :
    accepted (call :: calls) = call.accepted ++ accepted calls := List.flatMap_cons

@[simp] theorem taken_cons (call : TransportCall) (calls : List TransportCall) :
    taken (call :: calls) = call.taken ++ taken calls := List.flatMap_cons

@[simp] theorem accepted_append (calls more : List TransportCall) :
    accepted (calls ++ more) = accepted calls ++ accepted more := List.flatMap_append

@[simp] theorem taken_append (calls more : List TransportCall) :
    taken (calls ++ more) = taken calls ++ taken more := List.flatMap_append

/-- Calls that offer nothing put nothing in. -/
theorem accepted_eq_nil {calls : List TransportCall} (h : ∀ call ∈ calls, call.isWrite = false) :
    accepted calls = [] := by
  induction calls with
  | nil => rfl
  | cons call calls ih =>
      have hcall : call.accepted = [] := by
        have hw := h call List.mem_cons_self
        cases call <;> first | rfl | contradiction
      rw [accepted_cons, hcall, ih fun c hc => h c (List.mem_cons_of_mem call hc), List.append_nil]

/-- Where one record follows another, a call stands in the one or in the other. -/
theorem call_of_append {calls more before rest : List TransportCall} {call : TransportCall}
    (h : calls ++ more = before ++ call :: rest) :
    (∃ between, calls = before ++ call :: between) ∨
      ∃ between, before = calls ++ between ∧ more = between ++ call :: rest := by
  obtain ⟨between, hbefore, hmore⟩ | ⟨between, hcalls, hrest⟩ := List.append_eq_append_iff.mp h
  · exact .inr ⟨between, hbefore, hmore⟩
  · cases between with
    | nil => exact .inr ⟨[], by simpa using hcalls.symm, by simpa using hrest.symm⟩
    | cons first between =>
        rw [List.cons_append, List.cons.injEq] at hrest
        rw [← hrest.1] at hcalls
        exact .inl ⟨between, hcalls⟩

/-! ## The recording transport -/

/-- A transport and the calls made of it so far, the first one first. -/
structure Recorded (σ : Type) where
  inner : σ
  calls : List TransportCall

namespace Recorded

variable {ω σ α ε : Type}

/-- Run an operation of the transport within and write down how it ended. -/
@[inline] def recording (call : Except ε α → TransportCall) (x : Action (σ × ω) ε α) :
    Action (Recorded σ × ω) ε α :=
  fun patience (r, w) => (x patience (r.inner, w)).map fun (result, (inner, w)) =>
    (result, ({ inner, calls := r.calls ++ [call result] }, w))

instance [Transport ω σ] : Transport ω (Recorded σ) where
  kind r := Transport.kind ω r.inner
  readRaw room := recording (.read room) (Transport.readRaw room)
  pollReadable timeout := recording (.poll timeout) (Transport.pollReadable timeout)
  writeRaw bytes := recording (.write bytes) (Transport.writeRaw bytes)
  flushRaw := recording .flush Transport.flushRaw
  close := recording (fun _ => .close) Transport.close

variable {call : Except ε α → TransportCall} {x : Action (σ × ω) ε α} {state : Recorded σ × ω}
  {post : Except ε α → Recorded σ × ω → Prop}

/-- What the operation within ensures, it ensures behind the call that is written down. -/
theorem ensures_recording (hx : x.Ensures (state.1.inner, state.2) fun result after =>
      post result (⟨after.1, state.1.calls ++ [call result]⟩, after.2)) :
    (recording call x).Ensures state post := by
  intro patience result after hrun
  obtain ⟨⟨r, inner, w⟩, hrun', heq⟩ := Option.map_eq_some_iff.mp hrun
  cases heq
  exact hx patience result (inner, w) hrun'

theorem returns_recording {result : Except ε α} {after : σ × ω}
    (hx : x.Returns (state.1.inner, state.2) result after) :
    (recording call x).Returns state result
      (⟨after.1, state.1.calls ++ [call result]⟩, after.2) := by
  obtain ⟨enough, hrun⟩ := hx
  refine ⟨enough, fun patience hle => ?_⟩
  show (x patience (state.1.inner, state.2)).map _ = _
  rw [hrun patience hle]
  rfl

theorem completes_recording (hx : x.Completes (state.1.inner, state.2) fun result after =>
      post result (⟨after.1, state.1.calls ++ [call result]⟩, after.2)) :
    (recording call x).Completes state post := by
  obtain ⟨result, after, hreturns, hpost⟩ := hx
  exact ⟨result, _, returns_recording hreturns, hpost⟩

/-- A recorded operation adds one call to the record. -/
theorem recording_calls (call : Except ε α → TransportCall) (x : Action (σ × ω) ε α) :
    (recording call x).Ensures state fun result after =>
    after.1.calls = state.1.calls ++ [call result] :=
  ensures_recording fun _ _ _ _ => rfl

end Recorded

end TypedChannel
