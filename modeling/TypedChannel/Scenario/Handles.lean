import TypedChannel.Diagnostics
/-!
# TypedChannel.Scenario.Handles

Diagnostics handles, by number, and what is done with them.

1. A clone of a handle has its sink and shares its error slot. A new sink of a
   handle is its own: no other handle gets it, and the slot stays shared.
-/

namespace TypedChannel.Scenario

/-- Something done with handles or with a sink alone. -/
inductive HandleStep where
  | create
  | createTraced (sink : Diagnostics.Sink)
  | clone (handle : Nat)
  | setTrace (handle : Nat) (sink : Diagnostics.Sink)
  | trace (handle : Nat) (line : String)
  | isTraced (handle : Nat)
  | record (handle : Nat) (message : String)
  | lastError (handle : Nat)
  | clear (handle : Nat)
  | describe (handle : Nat)
  /-- Write a line to a sink that no handle has. -/
  | recordDirect (sink : Diagnostics.Sink) (line : String)
  | describeSink (sink : Diagnostics.Sink)
  deriving Repr

/-- How a step ended. -/
inductive HandleAnswer where
  | nothing
  | handle (number : Nat)
  | flag (b : Bool)
  | text (s : Option String)
  deriving DecidableEq, Repr

/-- All handles, by number, and what they share. -/
structure Handles where
  handles : List Diagnostics.Handle := []
  store : Diagnostics.Store := .empty
  deriving DecidableEq, Repr

namespace Handles

/-- The handle with a number. -/
def get (number : Nat) (handles : Handles) : Diagnostics.Handle :=
  handles.handles.getD number { sink := none, slot := 0 }

/-- One more handle. -/
def add (made : Diagnostics.Handle × Diagnostics.Store) (handles : Handles) :
    HandleAnswer × Handles :=
  (.handle handles.handles.length,
    { handles := handles.handles ++ [made.1], store := made.2 })

/-- One more sink without a handle. -/
def addSink (sink : Diagnostics.Sink) (handles : Handles) : Handles :=
  { handles with store := { handles.store with sinks := handles.store.sinks ++ [sink] } }

/-- Do a step. -/
def step (handles : Handles) : HandleStep → HandleAnswer × Handles
  | .create => handles.add handles.store.create
  | .createTraced sink => handles.add (handles.store.createTraced sink)
  | .clone number => handles.add (handles.get number, handles.store)
  | .setTrace number sink =>
    let (handle, store) := Diagnostics.Store.setTrace sink (handles.get number) handles.store
    (.nothing, { handles := handles.handles.set number handle, store })
  | .trace number line =>
    (.nothing, { handles with
      store := (Diagnostics.Store.trace line (handles.get number) handles.store).2 })
  | .isTraced number => (.flag (handles.get number).sink.isSome, handles)
  | .record number message =>
    (.nothing, { handles with
      store := handles.store.recordError message (handles.get number) })
  | .lastError number => (.text (handles.store.lastError (handles.get number)), handles)
  | .clear number =>
    (.nothing, { handles with store := handles.store.clearError (handles.get number) })
  | .describe number => (.text (some (handles.store.describe (handles.get number))), handles)
  | .recordDirect sink line =>
    let (fault, sink) := sink.record line
    (.text (fault.map (·.message)), handles.addSink sink)
  | .describeSink sink => (.text (some Diagnostics.Sink.describe), handles.addSink sink)

/-- Do steps in order. -/
def play (handles : Handles) : List HandleStep → List HandleAnswer × Handles
  | [] => ([], handles)
  | step :: steps =>
    let (answer, handles) := handles.step step
    let (answers, handles) := handles.play steps
    (answer :: answers, handles)

end Handles

end TypedChannel.Scenario
