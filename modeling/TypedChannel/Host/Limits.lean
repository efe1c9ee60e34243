/-!
# TypedChannel.Host.Limits

The open-file limits of a process, and when the soft one is raised.

1. The soft limit is raised when a descriptor comes within `headroom` of it,
   at least to twice what it was and beyond the descriptor and its headroom,
   and never above the hard limit.
2. At the hard limit nothing more can be done.
-/

namespace TypedChannel

/-- The soft and the hard limit on open files. -/
structure Limits where
  soft : Nat
  hard : Nat
  deriving DecidableEq, Repr

namespace Limits

/-- The limit that stands for none; all numbers of limits are at most this. -/
def unlimited : Nat := 18446744073709551615

/-- Descriptors that are kept free below the soft limit. -/
def headroom : Nat := 16

/-- The smallest soft limit that doubling starts from. -/
def growthBase : Nat := 64

/-- A number cut at the largest one. -/
def saturated (n : Nat) : Nat := min n unlimited

/-- The descriptors that must fit below the soft limit once `descriptor` is open. -/
def needed (descriptor : Int) : Nat := saturated (descriptor.toNat + headroom)

/-- The soft limit that makes room beyond `descriptor`. -/
def target (limits : Limits) (descriptor : Int) : Nat :=
  min (max (saturated (2 * max limits.soft growthBase)) (saturated (needed descriptor + 1)))
    limits.hard

/-- The soft limit to ask for, when the present one leaves too little room beyond `descriptor`
and there is any room to gain. -/
def raiseFor? (limits : Limits) (descriptor : Int) : Option Nat :=
  if needed descriptor < limits.soft || limits.target descriptor ≤ limits.soft then none
  else some (limits.target descriptor)

/-- A limit, or nothing where there is none. -/
def finite? (n : Nat) : Option Nat := if n = unlimited then none else some n

end Limits

end TypedChannel
