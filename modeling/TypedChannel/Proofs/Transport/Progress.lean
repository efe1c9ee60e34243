import TypedChannel.Diagnostics
import TypedChannel.Proofs.Transport.Receive
import TypedChannel.Proofs.Transport.Transmit
/-!
# TypedChannel.Proofs.Transport.Progress

How many bytes a sequence of calls has moved for a request that it has not
brought to its end.

A write that accepts all it was offered and a read that fills all its room end
the request they were made for, so `unfinished direction calls` counts the
bytes that moved after the last such call:

* a transmit that succeeds leaves nothing unfinished, and so does a receive of
  everything;
* one that fails leaves what it has moved.
-/

namespace TypedChannel

namespace TransportCall

/-- The bytes that a call has moved in a direction. -/
def moved : Direction → TransportCall → Bytes
  | .sent => accepted
  | .received => taken

/-- Whether a call has moved all that it was made for. -/
def completes : Direction → TransportCall → Bool
  | .sent, write offered (.ok n) => decide (offered.length ≤ n)
  | .received, read room (.ok chunk) => decide (room ≤ chunk.length)
  | _, _ => false

/-- The progress of a request after one more call. -/
def progress (direction : Direction) (before : Nat) (call : TransportCall) : Nat :=
  if call.completes direction then 0 else before + (call.moved direction).length

end TransportCall

/-- All bytes that `calls` have moved in a direction. -/
def moved : Direction → List TransportCall → Bytes
  | .sent => accepted
  | .received => taken

/-- How far the request is that the last of `calls` were made for, when the first of them found it
at `before`. -/
def unfinishedFrom (direction : Direction) (before : Nat) (calls : List TransportCall) : Nat :=
  calls.foldl (TransportCall.progress direction) before

/-- The bytes that `calls` have moved for a request they did not bring to its end. -/
def unfinished (direction : Direction) (calls : List TransportCall) : Nat :=
  unfinishedFrom direction 0 calls

variable {direction : Direction} {before : Nat} {calls more : List TransportCall}

@[simp] theorem moved_nil : moved direction [] = [] := by cases direction <;> rfl

@[simp] theorem moved_append :
    moved direction (calls ++ more) = moved direction calls ++ moved direction more := by
  cases direction with
  | sent => exact accepted_append calls more
  | received => exact taken_append calls more

@[simp] theorem moved_cons (call : TransportCall) :
    moved direction (call :: calls) = call.moved direction ++ moved direction calls := by
  cases direction with
  | sent => exact accepted_cons call calls
  | received => exact taken_cons call calls

@[simp] theorem unfinishedFrom_nil : unfinishedFrom direction before [] = before := rfl

@[simp] theorem unfinishedFrom_cons (call : TransportCall) :
    unfinishedFrom direction before (call :: calls) =
      unfinishedFrom direction (call.progress direction before) calls := rfl

theorem unfinishedFrom_append : unfinishedFrom direction before (calls ++ more) =
    unfinishedFrom direction (unfinishedFrom direction before calls) more := List.foldl_append

@[simp] theorem unfinished_nil : unfinished direction [] = 0 := rfl

/-- After calls that left nothing unfinished only the later ones matter. -/
theorem unfinished_append (h : unfinished direction calls = 0) :
    unfinished direction (calls ++ more) = unfinished direction more := by
  show unfinishedFrom direction 0 (calls ++ more) = _
  rw [unfinishedFrom_append]
  exact congrArg (unfinishedFrom direction · more) h

/-- What is unfinished has moved, now or before. -/
theorem unfinishedFrom_le :
    unfinishedFrom direction before calls ≤ before + (moved direction calls).length := by
  induction calls generalizing before with
  | nil => simp
  | cons call calls ih =>
      rw [unfinishedFrom_cons, moved_cons, List.length_append]
      have hstep : call.progress direction before ≤
          before + (call.moved direction).length := by
        unfold TransportCall.progress
        split
        · exact Nat.zero_le _
        · exact Nat.le_refl _
      have hrest := @ih (call.progress direction before)
      omega

theorem unfinished_le : unfinished direction calls ≤ (moved direction calls).length := by
  have h : unfinishedFrom direction 0 calls ≤ 0 + (moved direction calls).length :=
    unfinishedFrom_le
  rwa [Nat.zero_add] at h

/-! ## Transmits -/

namespace Transmission

variable {bytes left : Bytes} {failure : Option TransportError}

theorem of_nil (h : Transmission [] calls left failure) : calls = [] ∧ failure = none := by
  cases h with
  | finished => exact ⟨rfl, rfl⟩
  | accepted pending _ _ | interrupted pending _ _ | refused pending | failed pending _ =>
      exact absurd rfl pending

/-- A transmit that succeeds finishes what it was for; one that fails leaves what it has moved. -/
theorem unfinishedFrom_sent (h : Transmission bytes calls left failure) (pending : bytes ≠ []) :
    unfinishedFrom .sent before calls =
      if failure.isSome then before + (TypedChannel.accepted calls).length else 0 := by
  induction h generalizing before with
  | finished => exact absurd rfl pending
  | @accepted bytes left n calls failure _ moves rest ih =>
      rw [unfinishedFrom_cons, accepted_cons, List.length_append]
      by_cases hall : bytes.length ≤ n
      · have hdrop : bytes.drop n = [] := List.drop_eq_nil_of_le hall
        rw [hdrop] at rest
        obtain ⟨hcalls, hfailure⟩ := rest.of_nil
        simp [hcalls, hfailure, TransportCall.progress, TransportCall.completes, hall]
      · have hdrop : bytes.drop n ≠ [] := by simpa using hall
        rw [ih hdrop]
        simp [TransportCall.progress, TransportCall.completes, hall, TransportCall.moved,
          Nat.add_assoc]
  | interrupted _ _ _ ih =>
      rw [unfinishedFrom_cons, accepted_cons]
      exact ih pending
  | refused _ =>
      simp [TransportCall.progress, TransportCall.completes, TransportCall.moved, pending]
  | failed _ _ => simp [TransportCall.progress, TransportCall.completes, TransportCall.moved]

theorem unfinished_sent (h : Transmission bytes calls left failure) : unfinished .sent calls =
    if failure.isSome then (TypedChannel.accepted calls).length else 0 := by
  by_cases hbytes : bytes = []
  · subst hbytes
    obtain ⟨hcalls, hfailure⟩ := h.of_nil
    simp [hcalls, hfailure]
  · have hall : unfinishedFrom .sent 0 calls = _ := h.unfinishedFrom_sent hbytes
    rwa [Nat.zero_add] at hall

theorem unfinished_received (h : Transmission bytes calls left failure) :
    unfinished .received calls = 0 := by
  have hle : unfinished .received calls ≤ (taken calls).length := unfinished_le
  rw [h.taken_eq_nil] at hle
  exact Nat.le_zero.mp hle

end Transmission

/-! ## Receives -/

namespace Reception

variable {wanted : Nat} {timeout : Option Duration} {everything : Bool} {got : Bytes}
  {result : Except TransportError Bytes}

/-- A receive of everything that succeeds finishes what it was for; one that fails leaves what it
has moved. -/
theorem unfinishedFrom_received (h : Reception wanted timeout everything got calls result)
    (complete : everything = true) (missing : got.length < wanted) :
    unfinishedFrom .received got.length calls =
      if (failure? result).isSome then got.length + (taken calls).length else 0 := by
  induction h with
  | full enough => omega
  | late _ | blind _ => simp [TransportCall.progress, TransportCall.completes, TransportCall.moved]
  | failed _ _ => simp [TransportCall.progress, TransportCall.completes, TransportCall.moved]
  | interrupted _ _ _ ih =>
      rw [unfinishedFrom_cons, unfinishedFrom_cons, taken_cons, taken_cons]
      exact ih missing
  | first _ content _ => simp [content] at complete
  | @more got chunk lft calls result _ _ rest ih =>
      rw [unfinishedFrom_cons, unfinishedFrom_cons, taken_cons, taken_cons]
      by_cases hfull : wanted - got.length ≤ chunk.length
      · have henough : wanted ≤ (got ++ chunk).length := by
          rw [List.length_append]
          omega
        obtain ⟨hcalls, hresult⟩ := rest.calls_of_full henough
        simp [hcalls, hresult, TransportCall.progress, TransportCall.completes, hfull]
      · have hmissing : (got ++ chunk).length < wanted := by
          rw [List.length_append]
          omega
        have hrest := ih hmissing
        simp only [List.length_append] at hrest
        simp [TransportCall.progress, TransportCall.completes, hfull, TransportCall.moved, hrest,
          Nat.add_assoc]

theorem unfinished_received (h : Reception wanted timeout true [] calls result) :
    unfinished .received calls =
      if (failure? result).isSome then (taken calls).length else 0 := by
  by_cases hmissing : 0 < wanted
  · simpa [unfinished] using h.unfinishedFrom_received rfl hmissing
  · obtain ⟨hcalls, hresult⟩ := h.calls_of_full (by simpa using hmissing)
    simp [hcalls, hresult]

/-- What a receive that fails has taken is unfinished, whether it had to be complete or not. -/
theorem unfinished_of_error {e : TransportError}
    (h : Reception wanted timeout everything [] calls (.error e)) :
    unfinished .received calls = (taken calls).length := by
  cases everything with
  | true => simpa using h.unfinished_received
  | false =>
      have hle : unfinished .received calls ≤ (taken calls).length := unfinished_le
      rw [h.taken_of_error] at hle ⊢
      exact Nat.le_zero.mp hle

theorem unfinished_sent (h : Reception wanted timeout everything got calls result) :
    unfinished .sent calls = 0 := by
  have hle : unfinished .sent calls ≤ (accepted calls).length := unfinished_le
  rw [h.accepted_eq_nil] at hle
  exact Nat.le_zero.mp hle

end Reception

end TypedChannel
