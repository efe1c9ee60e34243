import TypedChannel.Host.World
/-!
# TypedChannel.Cli.Terminal

What a command needs of the place it runs in: somewhere to print, and a way
for the user to ask it to stop.
-/

namespace TypedChannel.Cli

/-- A world with a terminal. -/
class Terminal (ω : Type) where
  /-- Print a text at once. -/
  print : String → ω → ω
  /-- Whether the user has asked the program to stop. -/
  isInterrupted : ω → Bool

/-- A host has a terminal. -/
instance HostWorld.terminal {ω : Type} [HostWorld ω] : Terminal ω where
  print text w :=
    let host := HostWorld.host w
    HostWorld.setHost { host with output := host.output ++ text } w
  isInterrupted w := (HostWorld.host w).interrupted

end TypedChannel.Cli
