import TypedChannel.Host.World
import TypedChannel.Proofs.Action
/-!
# TypedChannel.Proofs.Host.Environment

Taking hold of the shared environment and letting go of it.

1. `Shifts moves` relates two hosts between which these moves were made, and
   nothing else has happened to the environment; `turns` says which of the moves
   the log is told of.
2. `x.Spares` says that `x` makes no move, however it ends, and `x.Makes R` that
   the moves that it makes go with its result.  Both have a rule for each
   construct of an action.
-/

namespace TypedChannel

open TypedChannel.Action

/-! ## Moves -/

namespace Environment

/-- One change of who holds the environment. -/
inductive Move where
  | acquire
  | release
  deriving DecidableEq, Repr

/-- What becomes of the environment itself. -/
inductive Turn where
  | initialized
  | restored
  deriving DecidableEq, Repr

/-- What the log is told of it. -/
def Turn.event : Turn → Log.Event
  | .initialized =>
    { level := .debug, origin := .environment, message := "channel environment initialized",
      fields := [] }
  | .restored =>
    { level := .debug, origin := .environment, message := "channel environment restored",
      fields := [] }

/-- The disposition from then on, in a process whose own disposition is `own`. -/
def Turn.disposition (own : Disposition) : Turn → Disposition
  | .initialized => .ignored
  | .restored => own

/-- How many hold the environment after these moves, if `n` did before. -/
def count : Nat → List Move → Nat
  | n, [] => n
  | n, .acquire :: moves => count (n + 1) moves
  | n, .release :: moves => count (n - 1) moves

/-- It is initialized when the number goes from zero to one, and restored when it returns to
zero. -/
def turns : Nat → List Move → List Turn
  | _, [] => []
  | n, .acquire :: moves => (if n = 0 then [.initialized] else []) ++ turns (n + 1) moves
  | n, .release :: moves => (if n - 1 = 0 then [.restored] else []) ++ turns (n - 1) moves

/-- The environment after these moves. -/
def shift : Environment → List Move → Environment
  | environment, [] => environment
  | environment, .acquire :: moves => shift environment.acquire moves
  | environment, .release :: moves => shift environment.release moves

@[simp] theorem holders_acquire (environment : Environment) :
    environment.acquire.holders = environment.holders + 1 := by
  unfold acquire
  split <;> simp_all

@[simp] theorem holders_release (environment : Environment) :
    environment.release.holders = environment.holders - 1 := by
  unfold release
  split
  · exact (Nat.sub_eq_zero_of_le ‹_›).symm
  · rfl

theorem holders_shift (environment : Environment) (moves : List Move) :
    (environment.shift moves).holders = count environment.holders moves := by
  induction moves generalizing environment with
  | nil => rfl
  | cons move moves ih =>
      cases move with
      | acquire | release => simp [shift, count, ih]

theorem shift_append (environment : Environment) (moves more : List Move) :
    environment.shift (moves ++ more) = (environment.shift moves).shift more := by
  induction moves generalizing environment with
  | nil => rfl
  | cons move moves ih =>
      cases move with
      | acquire | release => exact ih _

theorem turns_append (n : Nat) (moves more : List Move) :
    turns n (moves ++ more) = turns n moves ++ turns (count n moves) more := by
  induction moves generalizing n with
  | nil => rfl
  | cons move moves ih =>
      cases move with
      | acquire | release => simp [turns, count, ih]

end Environment

namespace Host

open Environment (Move Turn)

/-- What the log has been told of the environment, the first event first. -/
def environmentLog (host : Host) : List Log.Event :=
  (host.journal.filter (·.origin == .environment)).reverse

/-- Whether these moves were made between two states of a host, the log was told of their turns,
and nothing else has happened to the environment. -/
structure Shifts (moves : List Move) (host after : Host) : Prop where
  environment : after.environment = host.environment.shift moves
  told : after.environmentLog =
    host.environmentLog ++ (Environment.turns host.environment.holders moves).map Turn.event

theorem shifts_nil {host after : Host} (henvironment : after.environment = host.environment)
    (hlog : after.environmentLog = host.environmentLog) : Shifts [] host after :=
  ⟨henvironment, hlog.trans (List.append_nil _).symm⟩

theorem Shifts.trans {moves more : List Move} {host between after : Host}
    (h : Shifts moves host between) (h' : Shifts more between after) :
    Shifts (moves ++ more) host after where
  environment := by
    rw [h'.environment, h.environment, Environment.shift_append]
  told := by
    rw [h'.told, h.told, h.environment, Environment.holders_shift, Environment.turns_append,
      List.map_append, List.append_assoc]

theorem Shifts.of_same {moves : List Move} {host between after : Host}
    (h : Shifts moves between after) (henvironment : between.environment = host.environment)
    (hlog : between.environmentLog = host.environmentLog) : Shifts moves host after :=
  (shifts_nil henvironment hlog).trans h

theorem shifts_note {event : Log.Event} (h : event.origin ≠ .environment) (host : Host) :
    Shifts [] host (host.note event) :=
  shifts_nil rfl (by simp [environmentLog, Host.note, h])

theorem shifts_acquire (host : Host) : Shifts [.acquire] host host.acquireEnvironment := by
  unfold acquireEnvironment
  dsimp only
  split
  · rename_i hnone
    exact ⟨rfl, by simp [environmentLog, Host.note, Environment.turns, hnone, Turn.event]⟩
  · rename_i hsome
    exact ⟨rfl, by simp [environmentLog, Environment.turns, hsome]⟩

theorem shifts_release (host : Host) : Shifts [.release] host host.releaseEnvironment := by
  unfold releaseEnvironment
  dsimp only
  rw [Environment.holders_release]
  split
  · rename_i hnone
    exact ⟨rfl, by simp [environmentLog, Host.note, Environment.turns, hnone, Turn.event]⟩
  · rename_i hsome
    exact ⟨rfl, by simp [environmentLog, Environment.turns, hsome]⟩

end Host

/-! ## Actions that spare it -/

section Rules

variable {ω α β ε ε' : Type} [HostWorld ω]

/-- However `x` ends, it leaves the environment alone, and what it gives satisfies `P`. -/
def Action.Spares (x : Action ω ε α) (P : α → Prop := fun _ => True) : Prop :=
  ∀ world, x.Ensures world fun result after =>
    Host.Shifts [] (HostWorld.host world) (HostWorld.host after) ∧ ∀ a, result = .ok a → P a

/-- A world that does nothing to the environment of its host by itself. -/
class Discreet (ω : Type) [HostWorld ω] : Prop where
  host_setHost (host : Host) (world : ω) : HostWorld.host (HostWorld.setHost host world) = host
  look (world : ω) : Host.Shifts [] (HostWorld.host world) (HostWorld.host (World.look world).2)
  note (event : Log.Event) (world : ω) : event.origin ≠ .environment →
    Host.Shifts [] (HostWorld.host world) (HostWorld.host (World.note event world))
  rest (ready : Host → Bool) (limit : Option Duration) :
    (HostWorld.rest ready limit : Action ω Empty Bool).Spares

instance : Discreet Host where
  host_setHost _ _ := rfl
  look _ := Host.shifts_nil rfl rfl
  note _ host h := Host.shifts_note h host
  rest ready limit := by
    intro host patience result after hrun
    change Host.rest ready limit patience host = _ at hrun
    unfold Host.rest at hrun
    split at hrun
    · cases hrun
      exact ⟨Host.shifts_nil rfl rfl, fun _ _ => trivial⟩
    · obtain ⟨d, -, heq⟩ := Option.map_eq_some_iff.mp hrun
      cases heq
      exact ⟨Host.shifts_nil rfl rfl, fun _ _ => trivial⟩

namespace Action

variable {P : α → Prop} {Q : β → Prop}

theorem spares_pure {a : α} (h : P a) : (pure a : Action ω ε α).Spares P :=
  fun _ => ensures_pure ⟨Host.shifts_nil rfl rfl, fun _ hok => Except.ok.inj hok ▸ h⟩

theorem spares_fail (e : ε) : (Action.fail e : Action ω ε α).Spares P :=
  fun _ => ensures_fail ⟨Host.shifts_nil rfl rfl, nofun⟩

theorem spares_see (f : ω → α) : (see f : Action ω ε α).Spares :=
  fun _ => ensures_see ⟨Host.shifts_nil rfl rfl, fun _ _ => trivial⟩

theorem spares_step {f : ω → α × ω}
    (h : ∀ world, Host.Shifts [] (HostWorld.host world) (HostWorld.host (f world).2)) :
    (step f : Action ω ε α).Spares :=
  fun world => ensures_step ⟨h world, fun _ _ => trivial⟩

theorem spares_change {f : ω → ω}
    (h : ∀ world, Host.Shifts [] (HostWorld.host world) (HostWorld.host (f world))) :
    (change f : Action ω ε Unit).Spares :=
  fun world => ensures_change ⟨h world, fun _ _ => trivial⟩

theorem Spares.bind {x : Action ω ε α} {f : α → Action ω ε β} (hx : x.Spares P)
    (hf : ∀ a, P a → (f a).Spares Q) : (x >>= f).Spares Q := by
  intro world
  refine (hx world).bind ?_ ?_
  · rintro a between ⟨hbefore, ha⟩
    exact (hf a (ha a rfl) between).mono fun _ _ ⟨hafter, hgiven⟩ =>
      ⟨hbefore.trans hafter, hgiven⟩
  · rintro e after ⟨hafter, -⟩
    exact ⟨hafter, nofun⟩

/-- Nothing goes on behind a failure. -/
theorem spares_fail_bind (e : ε) (f : α → Action ω ε β) : (Action.fail e >>= f).Spares Q :=
  Spares.bind (P := fun _ => False) (spares_fail e) fun _ h => h.elim

theorem spares_unless {condition : Prop} [Decidable condition] (e : ε)
    {next : Unit → Action ω ε β} (h : (next ()).Spares Q) :
    (if condition then Action.fail e >>= next else next ()).Spares Q := by
  split
  · exact spares_fail_bind e next
  · exact h

theorem Spares.then {x : Action ω ε α} {f : α → Action ω ε β} (hx : x.Spares)
    (hf : ∀ a, (f a).Spares Q) : (x >>= f).Spares Q :=
  hx.bind fun a _ => hf a

theorem spares_change_bind {g : ω → ω} {f : Unit → Action ω ε β}
    (h : ∀ world, Host.Shifts [] (HostWorld.host world) (HostWorld.host (g world)))
    (hf : (f ()).Spares Q) : (change g >>= f).Spares Q :=
  (spares_change h).then fun _ => hf

theorem spares_step_bind {g : ω → α × ω} {f : α → Action ω ε β}
    (h : ∀ world, Host.Shifts [] (HostWorld.host world) (HostWorld.host (g world).2))
    (hf : ∀ a, (f a).Spares Q) : (step g >>= f).Spares Q :=
  (spares_step h).then hf

theorem spares_never : (Action.never : Action ω ε α).Spares P :=
  fun _ _ _ _ hrun => by cases hrun

theorem Spares.mono {x : Action ω ε α} {P' : α → Prop} (hx : x.Spares P)
    (h : ∀ a, P a → P' a) : x.Spares P' :=
  fun world => (hx world).mono fun _ _ ⟨hafter, hgiven⟩ => ⟨hafter, fun a ha => h a (hgiven a ha)⟩

theorem Spares.attempt_bind {x : Action ω ε α} {f : Except ε α → Action ω ε' β}
    (hx : x.Spares) (hf : ∀ result, (f result).Spares Q) : (attempt x >>= f).Spares Q := by
  intro world
  refine (hx world).attempt_bind ?_
  rintro result between ⟨hbefore, -⟩
  exact (hf result between).mono fun _ _ ⟨hafter, hgiven⟩ => ⟨hbefore.trans hafter, hgiven⟩

theorem Spares.iterate {body : β → Action ω ε (Round β α)}
    (hbody : ∀ b, (body b).Spares fun round => match round with
      | .again _ => True
      | .done a => P a) (start : β) : (iterate body start).Spares P := by
  intro world
  refine ensures_iterate (fun _ between =>
    Host.Shifts [] (HostWorld.host world) (HostWorld.host between)) (Host.shifts_nil rfl rfl) ?_
  intro b between hbefore
  refine (hbody b between).mono ?_
  rintro result after ⟨hafter, hgiven⟩
  cases result with
  | error e => exact ⟨hbefore.trans hafter, nofun⟩
  | ok round =>
      cases round with
      | again next => exact hbefore.trans hafter
      | done a => exact ⟨hbefore.trans hafter, fun _ hok => Except.ok.inj hok ▸ hgiven _ rfl⟩

theorem Spares.mapError {f : ε → ε'} {x : Action ω ε α} (hx : x.Spares P) :
    (x.mapError f).Spares P := by
  refine fun world => Ensures.mapError ((hx world).mono ?_)
  rintro (e | a) after ⟨hafter, hgiven⟩
  · exact ⟨hafter, nofun⟩
  · exact ⟨hafter, fun _ hok => hgiven _ (by cases hok; rfl)⟩

theorem Spares.undoing {undo : ω → ω} {x : Action ω ε α} (hx : x.Spares P)
    (hundo : ∀ world, Host.Shifts [] (HostWorld.host world) (HostWorld.host (undo world))) :
    (x.undoing undo).Spares P := by
  refine fun world => Ensures.undoing ((hx world).mono ?_)
  rintro (e | a) after ⟨hafter, hgiven⟩
  · exact ⟨hafter.trans (hundo after), nofun⟩
  · exact ⟨hafter, hgiven⟩

theorem Spares.onHost [Discreet ω] {x : Action Host ε α} (hx : x.Spares P) :
    (HostWorld.onHost x : Action ω ε α).Spares P := by
  refine fun world => Ensures.on ((hx (HostWorld.host world)).mono ?_)
  rintro result after ⟨hafter, hgiven⟩
  rw [Discreet.host_setHost]
  exact ⟨hafter, hgiven⟩

end Action

/-- Changing the host of a world is changing the environment there. -/
theorem shifts_setHost [Discreet ω] {moves : List Environment.Move} {f : Host → Host}
    (hf : ∀ host : Host, Host.Shifts moves host (f host)) (world : ω) :
    Host.Shifts moves (HostWorld.host world)
      (HostWorld.host (HostWorld.setHost (f (HostWorld.host world)) world)) := by
  rw [Discreet.host_setHost]
  exact hf _

end Rules

/-! ## Actions that make moves -/

section Moves

open Environment (Move)

variable {ω α β ε ε' : Type} [HostWorld ω]

/-- However `x` ends, it has made moves that go with its result. -/
def Action.Makes (x : Action ω ε α) (R : Except ε α → List Move → Prop) : Prop :=
  ∀ world, x.Ensures world fun result after =>
    ∃ moves, R result moves ∧ Host.Shifts moves (HostWorld.host world) (HostWorld.host after)

/-- These moves go with a success that satisfies `P`, and some of those with a failure. -/
def Ending (P : α → Prop) (opened : List Move) (refused : List (List Move)) :
    Except ε α → List Move → Prop
  | .ok a, moves => P a ∧ moves = opened
  | .error _, moves => moves ∈ refused

theorem ending_unmoved {P : α → Prop} {opened : List Move} (e : ε) :
    Ending P opened [[]] (.error e) [] := List.mem_singleton_self _

/-- Only the last round of a loop makes moves. -/
def Last (R : Except ε α → List Move → Prop) : Except ε (Round β α) → List Move → Prop
  | .ok (.again _), moves => moves = []
  | .ok (.done a), moves => R (.ok a) moves
  | .error e, moves => R (.error e) moves

theorem last_unmoved {P : α → Prop} {opened : List Move} (e : ε) :
    Last (β := β) (Ending P opened [[]]) (.error e) [] := List.mem_singleton_self _

namespace Action

variable {P : α → Prop} {R : Except ε α → List Move → Prop} {S : Except ε β → List Move → Prop}

theorem Makes.mono {x : Action ω ε α} {R' : Except ε α → List Move → Prop} (hx : x.Makes R)
    (h : ∀ result moves, R result moves → R' result moves) : x.Makes R' :=
  fun world => (hx world).mono fun result _ ⟨moves, hmoves, hafter⟩ =>
    ⟨moves, h result moves hmoves, hafter⟩

theorem Spares.makes {x : Action ω ε α} (hx : x.Spares P) : x.Makes (Ending P [] [[]]) := by
  refine fun world => (hx world).mono ?_
  rintro (e | a) after ⟨hafter, hgiven⟩
  · exact ⟨[], List.mem_singleton_self _, hafter⟩
  · exact ⟨[], ⟨hgiven a rfl, rfl⟩, hafter⟩

theorem Makes.bind {x : Action ω ε α} {f : α → Action ω ε β} (hx : x.Makes R)
    (hok : ∀ a moves, R (.ok a) moves → (f a).Makes fun result more => S result (moves ++ more))
    (herr : ∀ e moves, R (.error e) moves → S (.error e) moves) : (x >>= f).Makes S := by
  intro world
  refine (hx world).bind ?_ ?_
  · rintro a between ⟨moves, hmoves, hbefore⟩
    refine (hok a moves hmoves between).mono ?_
    rintro result after ⟨more, hmore, hafter⟩
    exact ⟨moves ++ more, hmore, hbefore.trans hafter⟩
  · rintro e after ⟨moves, hmoves, hafter⟩
    exact ⟨moves, herr e moves hmoves, hafter⟩

theorem Makes.attempt_bind {x : Action ω ε α} {f : Except ε α → Action ω ε' β}
    {S : Except ε' β → List Move → Prop} (hx : x.Makes R)
    (hf : ∀ result moves, R result moves →
      (f result).Makes fun result more => S result (moves ++ more)) :
    (attempt x >>= f).Makes S := by
  intro world
  refine (hx world).attempt_bind ?_
  rintro result between ⟨moves, hmoves, hbefore⟩
  refine (hf result moves hmoves between).mono ?_
  rintro result after ⟨more, hmore, hafter⟩
  exact ⟨moves ++ more, hmore, hbefore.trans hafter⟩

/-- What spares the environment makes no difference to the moves. -/
theorem Spares.bind_makes {x : Action ω ε α} {f : α → Action ω ε β} (hx : x.Spares P)
    (hf : ∀ a, (f a).Makes S) (hnone : ∀ e, S (.error e) []) : (x >>= f).Makes S := by
  refine hx.makes.bind ?_ ?_
  · rintro a _ ⟨-, rfl⟩
    exact hf a
  · rintro e moves hmoves
    obtain rfl := List.mem_singleton.mp hmoves
    exact hnone e

theorem makes_pure {a : α} (h : R (.ok a) []) : (pure a : Action ω ε α).Makes R :=
  fun _ => ensures_pure ⟨[], h, Host.shifts_nil rfl rfl⟩

theorem makes_fail {e : ε} (h : R (.error e) []) : (Action.fail e : Action ω ε α).Makes R :=
  fun _ => ensures_fail ⟨[], h, Host.shifts_nil rfl rfl⟩

theorem Makes.iterate {body : β → Action ω ε (Round β α)} (start : β)
    (hbody : ∀ b, (body b).Makes (Last R)) : (iterate body start).Makes R := by
  intro world
  refine ensures_iterate (fun _ between =>
    Host.Shifts [] (HostWorld.host world) (HostWorld.host between)) (Host.shifts_nil rfl rfl) ?_
  intro b between hbefore
  refine (hbody b between).mono ?_
  rintro result after ⟨moves, hmoves, hafter⟩
  have hboth : Host.Shifts moves (HostWorld.host world) (HostWorld.host after) :=
    hbefore.trans hafter
  cases result with
  | error e => exact ⟨moves, hmoves, hboth⟩
  | ok round =>
      cases round with
      | again next =>
          obtain rfl : moves = [] := hmoves
          exact hboth
      | done a => exact ⟨moves, hmoves, hboth⟩

/-- What changes the host as these moves do, before anything else. -/
theorem makes_step_bind [Discreet ω] {moves : List Move} {g : Host → α × Host}
    {f : α → Action ω ε β} (hg : ∀ host : Host, Host.Shifts moves host (g host).2)
    (hf : ∀ a, (f a).Makes fun result more => S result (moves ++ more)) :
    (HostWorld.onHost (step g) >>= f).Makes S := by
  intro world patience result after hrun
  have hstart : Host.Shifts moves (HostWorld.host world)
      (HostWorld.host (HostWorld.setHost (g (HostWorld.host world)).2 world)) :=
    shifts_setHost hg world
  obtain ⟨more, hmore, hafter⟩ := hf _ _ patience result after hrun
  exact ⟨moves ++ more, hmore, hstart.trans hafter⟩

theorem makes_change_bind [Discreet ω] {moves : List Move} {g : Host → Host}
    {f : Unit → Action ω ε β} (hg : ∀ host : Host, Host.Shifts moves host (g host))
    (hf : (f ()).Makes fun result more => S result (moves ++ more)) :
    (HostWorld.onHost (change g) >>= f).Makes S :=
  makes_step_bind (g := fun host => ((), g host)) hg fun _ => hf

end Action

end Moves

end TypedChannel
