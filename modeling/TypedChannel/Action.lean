/-!
# TypedChannel.Action

Computations that change a state, may fail, and may go on for ever.

1. An action ends with an answer or an error, and with the state after it
   either way: what a failed operation did stays done.
2. Only `iterate` loops. A loop that has not ended after as many rounds as the
   patience allows gives up, and so does every action that waits for it:
   giving up is neither an answer nor an error.
-/

namespace TypedChannel

/-- A computation on a state `s` that ends with an `α` or fails with an `ε`. Its first argument
is the patience with the loops in it. -/
def Action (s ε α : Type) : Type := Nat → s → Option (Except ε α × s)

/-- What a round of a loop ends with. -/
inductive Round (β α : Type) where
  /-- Go on with this. -/
  | again (next : β)
  /-- The loop has its answer. -/
  | done (answer : α)

namespace Action

variable {s t ε ε' α β : Type}

/-! ## Sequencing -/

/-- The action that does nothing and answers `a`. -/
@[inline] def answer (a : α) : Action s ε α := fun _ state => some (.ok a, state)

/-- Run `x`, and unless it fails go on with what `f` makes of its answer. -/
@[inline] def andThen (x : Action s ε α) (f : α → Action s ε β) : Action s ε β :=
  fun patience state =>
    match x patience state with
    | some (.ok a, state) => f a patience state
    | some (.error e, state) => some (.error e, state)
    | none => none

instance : Monad (Action s ε) where
  pure := answer
  bind := andThen

/-- Fail with `e`. -/
@[inline] def fail (e : ε) : Action s ε α := fun _ state => some (.error e, state)

/-- Wait for something that never comes. -/
def never : Action s ε α := fun _ _ => none

/-- Run `x` and answer with how it ended, so that a failure can be handled. -/
@[inline] def attempt (x : Action s ε α) : Action s ε' (Except ε α) :=
  fun patience state => (x patience state).map fun (result, state) => (.ok result, state)

/-- Fail with what `f` makes of an error of `x`. -/
@[inline] def mapError (f : ε → ε') (x : Action s ε α) : Action s ε' α :=
  fun patience state =>
    (x patience state).map fun (result, state) => (result.mapError f, state)

/-- An action that cannot fail, where failure is possible. -/
@[inline] def lift (x : Action s Empty α) : Action s ε α := x.mapError Empty.elim

/-- Run `x`, and if it fails undo what was prepared for it. -/
@[inline] def undoing (undo : s → s) (x : Action s ε α) : Action s ε α :=
  fun patience state => (x patience state).map fun (result, state) =>
    match result with
    | .ok a => (.ok a, state)
    | .error e => (.error e, undo state)

/-- Answer with a result that is already there. -/
@[inline] def ofExcept (result : Except ε α) : Action s ε α :=
  fun _ state => some (result, state)

/-! ## State -/

/-- Answer with what `f` sees of the state. -/
@[inline] def see (f : s → α) : Action s ε α := fun _ state => some (.ok (f state), state)

/-- Change the state. -/
@[inline] def change (f : s → s) : Action s ε Unit := fun _ state => some (.ok (), f state)

/-- Change the state and answer with what the change gives. -/
@[inline] def step (f : s → α × s) : Action s ε α :=
  fun _ state => let (a, state) := f state; some (.ok a, state)

/-- Run an action on a part of the state. -/
@[inline] def on (part : s → t) (put : t → s → s) (x : Action t ε α) : Action s ε α :=
  fun patience state =>
    (x patience (part state)).map fun (result, after) => (result, put after state)

/-! ## Loops -/

/-- At most `limit` rounds of a loop. -/
def rounds (body : β → Action s ε (Round β α)) (patience : Nat) :
    Nat → β → s → Option (Except ε α × s)
  | 0, _, _ => none
  | limit + 1, start, state =>
    match body start patience state with
    | some (.ok (.again next), state) => rounds body patience limit next state
    | some (.ok (.done a), state) => some (.ok a, state)
    | some (.error e, state) => some (.error e, state)
    | none => none

/-- Repeat `body`, each round with what the last one left, until a round is the last or fails. -/
def iterate (body : β → Action s ε (Round β α)) (start : β) : Action s ε α :=
  fun patience => rounds body patience patience start

end Action

end TypedChannel
