import TypedChannel.Diagnostics
/-!
# TypedChannel.Proofs.Diagnostics.Sinks

What a trace line does to the store: it goes to the sink of its handle, and
nowhere else.
-/

namespace TypedChannel.Diagnostics

/-- A sink keeps a line in full, unless its writes fail: then it keeps nothing of it. -/
theorem Sink.record_eq (line : String) (sink : Sink) : (sink.record line).2 =
    if sink.fault = some .write then sink else { sink with text := sink.text ++ line } := by
  unfold record
  cases hfault : sink.fault with
  | none => rfl
  | some fault => cases fault <;> rfl

/-- It tells of its fault every time. -/
theorem Sink.record_error (line : String) (sink : Sink) :
    (sink.record line).1 = sink.fault.map fun _ => .bare .other := by
  unfold record
  cases sink.fault with
  | none => rfl
  | some fault => cases fault <;> rfl

namespace Store

variable {text : String} {handle : Handle} {store : Store}

/-- A trace line goes to a sink and not to a slot. -/
theorem trace_slots (text : String) (handle : Handle) (store : Store) :
    (store.trace text handle).2.slots = store.slots := by
  unfold trace
  split
  · rfl
  · split <;> rfl

/-- Of the sinks it changes only the one of its handle. -/
theorem trace_sinks (text : String) (handle : Handle) (store : Store) (number : Nat) :
    (store.trace text handle).2.sinks[number]? =
      if handle.sink = some number then
        (store.sinks[number]?).map fun sink => (sink.record text).2
      else store.sinks[number]? := by
  unfold trace
  cases hsink : handle.sink with
  | none => simp
  | some held =>
      simp only [Option.some.injEq]
      by_cases hsame : held = number
      · subst hsame
        cases hheld : store.sinks[held]? with
        | none => simp [hheld]
        | some sink =>
            obtain ⟨hlt, -⟩ := List.getElem?_eq_some_iff.mp hheld
            simp [List.getElem?_set_self hlt]
      · cases hheld : store.sinks[held]? with
        | none => simp [hsame]
        | some sink => simp [hsame, List.getElem?_set_ne hsame]

end Store

end TypedChannel.Diagnostics
