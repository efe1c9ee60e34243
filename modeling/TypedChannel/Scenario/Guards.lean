import TypedChannel.Host.Environment
/-!
# TypedChannel.Scenario.Guards

Guards that hold the shared environment, by number.

1. Every guard that lives holds the environment once. A guard is dropped once;
   dropping it again changes nothing.
-/

namespace TypedChannel.Scenario

/-- Something done with guards. -/
inductive GuardStep where
  | acquire
  /-- One more guard, if the numbered one lives. -/
  | clone (number : Nat)
  | drop (number : Nat)
  /-- Drop all guards, and number new ones from zero again. -/
  | dropAll
  deriving DecidableEq, Repr

/-- Which guards live, by number, and the environment they hold. -/
structure Guards where
  alive : List Bool := []
  environment : Environment := {}
  deriving DecidableEq, Repr

namespace Guards

/-- A new guard. -/
def acquire (guards : Guards) : Guards :=
  { alive := guards.alive ++ [true], environment := guards.environment.acquire }

/-- A guard cloned from another; from one that is gone comes one that is gone. -/
def clone (number : Nat) (guards : Guards) : Guards :=
  if guards.alive[number]? = some true then guards.acquire
  else { guards with alive := guards.alive ++ [false] }

/-- Drop a guard. -/
def drop (number : Nat) (guards : Guards) : Guards :=
  if guards.alive[number]? = some true then
    { alive := guards.alive.set number false, environment := guards.environment.release }
  else guards

/-- Drop all guards. -/
def dropAll (guards : Guards) : Guards :=
  { (List.range guards.alive.length).foldl (fun guards number => guards.drop number) guards with
    alive := [] }

def step (guards : Guards) : GuardStep → Guards
  | .acquire => guards.acquire
  | .clone number => guards.clone number
  | .drop number => guards.drop number
  | .dropAll => guards.dropAll

/-- The environment before the first step, after each step, and after dropping all guards. -/
def play (guards : Guards) : List GuardStep → List Environment
  | [] => [guards.environment, guards.dropAll.environment]
  | step :: steps => guards.environment :: (guards.step step).play steps

end Guards

end TypedChannel.Scenario
