/-!
# TypedChannel.Host.Environment

The environment that everything with a descriptor shares: while it is held,
writing to a vanished peer fails instead of killing the process.

1. The first holder saves what the process did on a broken pipe and makes it
   ignore one; the last holder to go away puts back what was saved.
-/

namespace TypedChannel

/-- What a process does when it writes to a pipe that nobody reads. -/
inductive Disposition where
  | default
  | ignored
  /-- It runs the handler at this address. -/
  | handled (address : Nat)
  deriving DecidableEq, Repr

/-- The shared environment. -/
structure Environment where
  /-- How many things hold it. -/
  holders : Nat := 0
  disposition : Disposition := .default
  /-- What the first holder found. -/
  saved : Option Disposition := none
  deriving DecidableEq, Repr

namespace Environment

/-- One more holder. -/
def acquire (environment : Environment) : Environment :=
  if environment.holders = 0 then
    { holders := 1, disposition := .ignored, saved := some environment.disposition }
  else
    { environment with holders := environment.holders + 1 }

/-- One holder fewer. -/
def release (environment : Environment) : Environment :=
  if environment.holders ≤ 1 then
    { holders := 0
      disposition := environment.saved.getD environment.disposition
      saved := none }
  else
    { environment with holders := environment.holders - 1 }

end Environment

end TypedChannel
