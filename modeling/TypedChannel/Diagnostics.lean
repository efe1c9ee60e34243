import TypedChannel.IoError
import TypedChannel.Text.Quoted
/-!
# TypedChannel.Diagnostics

The value trace and the text of the last error, shared by every channel that
holds a clone of the same handle.

1. A handle names at most one sink for trace lines and one slot for an error
   text. Cloning copies both names, so clones share the sink and the slot;
   giving one handle a new sink leaves its clones with the old one.
2. A trace line is `<direction> <depth> <indent><description> = <value>`, with
   the depth right-aligned in two columns and an indent of two blanks for each
   level, and is flushed at once.
3. A slot keeps every text it was given, the last one first; only that one is
   ever shown.
-/

namespace TypedChannel

/-- Which way a traced value travelled. -/
inductive Direction where
  | sent
  | received
  deriving DecidableEq, Repr

def Direction.name : Direction → String
  | .sent => "send"
  | .received => "recv"

namespace Diagnostics

/-! ## Sinks -/

/-- How a sink for trace lines fails. -/
inductive SinkFault where
  /-- Every write fails, and nothing is kept. -/
  | write
  /-- Every flush fails, after the text has been kept. -/
  | flush
  deriving DecidableEq, Repr

/-- A sink for trace lines with the text it holds. -/
structure Sink where
  fault : Option SinkFault
  text : String
  deriving DecidableEq, Repr

/-- A sink that holds nothing yet. -/
def Sink.empty (fault : Option SinkFault) : Sink := { fault, text := "" }

/-- One trace line with its line feed. -/
def line (direction : Direction) (depth : Nat) (description value : String) : String :=
  let number := toString depth
  let aligned := String.ofList (List.replicate (2 - number.length) ' ') ++ number
  let indent := String.ofList (List.replicate (2 * depth) ' ')
  direction.name ++ " " ++ aligned ++ " " ++ indent ++ description ++ " = " ++ value ++ "\n"

/-- Write a line to a sink and flush it. -/
def Sink.record (sink : Sink) (text : String) : Option IoError × Sink :=
  match sink.fault with
  | none => (none, { sink with text := sink.text ++ text })
  | some .write => (some (.bare .other), sink)
  | some .flush => (some (.bare .other), { sink with text := sink.text ++ text })

/-! ## Handles -/

/-- A handle: the sink its trace lines go to, if any, and the slot of its error text. -/
structure Handle where
  sink : Option Nat
  slot : Nat
  deriving DecidableEq, Repr

/-- All sinks and all error slots, by number. -/
structure Store where
  sinks : List Sink
  /-- What each slot was given, the last first; `none` is what empties it. -/
  slots : List (List (Option String))
  deriving DecidableEq, Repr

/-- No sink and no slot yet. -/
def Store.empty : Store := { sinks := [], slots := [] }

namespace Store

/-- A new handle without a sink. -/
def create (store : Store) : Handle × Store :=
  ({ sink := none, slot := store.slots.length }, { store with slots := store.slots ++ [[]] })

/-- The same handle with a new sink of its own. -/
def setTrace (sink : Sink) (handle : Handle) (store : Store) : Handle × Store :=
  ({ handle with sink := some store.sinks.length }, { store with sinks := store.sinks ++ [sink] })

/-- A new handle with a new sink. -/
def createTraced (sink : Sink) (store : Store) : Handle × Store :=
  let (handle, store) := store.create
  setTrace sink handle store

/-- Write a line to the sink of a handle. Without a sink nothing happens. -/
def trace (text : String) (handle : Handle) (store : Store) : Option IoError × Store :=
  match handle.sink with
  | none => (none, store)
  | some number =>
    match store.sinks[number]? with
    | none => (none, store)
    | some sink =>
      let (error, sink) := sink.record text
      (error, { store with sinks := store.sinks.set number sink })

/-- Give the slot of a handle something else to hold. -/
def give (text : Option String) (handle : Handle) (store : Store) : Store :=
  { store with slots := store.slots.modify handle.slot (text :: ·) }

/-- Put an error text into the slot of a handle. -/
def recordError (message : String) (handle : Handle) (store : Store) : Store :=
  store.give (some message) handle

/-- Empty the slot of a handle. -/
def clearError (handle : Handle) (store : Store) : Store :=
  store.give none handle

/-- The text in the slot of a handle. -/
def lastError (handle : Handle) (store : Store) : Option String :=
  ((store.slots[handle.slot]?).bind List.head?).join

/-- The text of a sink. -/
def sinkText (number : Nat) (store : Store) : String :=
  ((store.sinks[number]?).map (·.text)).getD ""

/-- How a handle shows itself. -/
def describe (handle : Handle) (store : Store) : String :=
  let lastError := match store.lastError handle with
    | none => "None"
    | some message => "Some(" ++ Text.quoted message ++ ")"
  "Diagnostics \x7b trace: " ++ toString handle.sink.isSome ++ ", last_error: " ++ lastError
    ++ " \x7d"

end Store

/-- How a sink shows itself. -/
def Sink.describe : String := "TraceSink \x7b .. \x7d"

end Diagnostics

end TypedChannel
