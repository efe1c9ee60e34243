import TypedChannel.Proofs.Host.Opening
/-!
# TypedChannel.Proofs.Host.Holders

The shared environment is held exactly while something uses it.

1. `Operation` is all that makes or ends a holder: opening, accepting, wrapping,
   guarding, and letting go.  `Operation.moves` says which moves go with which
   end of it, and `Operation.after` who lives then.
2. In a `History` operations follow one another in any order, each ending as it
   does, and in between whatever else happens may change the disposition.
3. Then as many hold the environment as live, the log is told of it when the
   number leaves zero or returns to it, and while nobody lives the disposition is
   the one from before (`heldWhileUsed`).
-/

namespace TypedChannel

open TypedChannel.Action
open Environment (Move Turn)

/-! ## Sound environments -/

namespace Environment

variable {n : Nat} {own : Disposition} {environment : Environment}

/-- Whether nobody lets go of what nobody holds. -/
def Covered : Nat → List Move → Prop
  | _, [] => True
  | n, .acquire :: moves => Covered (n + 1) moves
  | n, .release :: moves => n ≠ 0 ∧ Covered (n - 1) moves

/-- Whether `n` hold the environment, and without them the disposition is this. -/
structure Sound (n : Nat) (own : Disposition) (environment : Environment) : Prop where
  holders : environment.holders = n
  free : n = 0 → environment.disposition = own ∧ environment.saved = none
  saved : n ≠ 0 → environment.saved = some own

/-- The first one saves what it finds. -/
theorem Sound.acquire (h : Sound n own environment) : Sound (n + 1) own environment.acquire := by
  refine ⟨by rw [holders_acquire, h.holders], nofun, fun _ => ?_⟩
  unfold Environment.acquire
  by_cases hnone : n = 0
  · rw [if_pos (h.holders.trans hnone), (h.free hnone).1]
  · rw [if_neg (h.holders ▸ hnone)]
    exact h.saved hnone

/-- The last one puts it back. -/
theorem Sound.release (h : Sound (n + 1) own environment) : Sound n own environment.release := by
  have hsaved : environment.saved = some own := h.saved (Nat.succ_ne_zero n)
  refine ⟨by rw [holders_release, h.holders, Nat.add_sub_cancel], fun hnone => ?_, fun hsome => ?_⟩
  · unfold Environment.release
    rw [if_pos (Nat.le_of_eq (by rw [h.holders, hnone])), hsaved]
    exact ⟨rfl, rfl⟩
  · unfold Environment.release
    rw [if_neg (by rw [h.holders]; omega)]
    exact hsaved

theorem Sound.shift (h : Sound n own environment) {moves : List Move} (hcovered : Covered n moves) :
    Sound (count n moves) own (environment.shift moves) := by
  induction moves generalizing n environment with
  | nil => exact h
  | cons move moves ih =>
      cases move with
      | acquire => exact ih h.acquire hcovered
      | release =>
          obtain ⟨hsome, hcovered⟩ := hcovered
          obtain ⟨n, rfl⟩ := Nat.exists_eq_succ_of_ne_zero hsome
          exact ih h.release hcovered

theorem Sound.disposition_acquire (h : Sound n own environment) :
    environment.acquire.disposition = if n = 0 then .ignored else environment.disposition := by
  unfold Environment.acquire
  rw [h.holders]
  split <;> rfl

theorem Sound.disposition_release (h : Sound (n + 1) own environment) :
    environment.release.disposition = if n = 0 then own else environment.disposition := by
  have hsaved : environment.saved = some own := h.saved (Nat.succ_ne_zero n)
  unfold Environment.release
  rw [h.holders, hsaved]
  by_cases hnone : n = 0
  · rw [if_pos (Nat.le_of_eq (by rw [hnone])), if_pos hnone]
    rfl
  · rw [if_neg (by omega), if_neg hnone]

/-- Nothing but a turn changes the disposition. -/
theorem Sound.disposition_shift (h : Sound n own environment) {moves : List Move}
    (hcovered : Covered n moves) :
    (environment.shift moves).disposition =
      (turns n moves).foldl (fun _ turn => turn.disposition own) environment.disposition := by
  induction moves generalizing n environment with
  | nil => rfl
  | cons move moves ih =>
      cases move with
      | acquire =>
          rw [Environment.shift, ih h.acquire hcovered, h.disposition_acquire, turns]
          split <;> rfl
      | release =>
          obtain ⟨hsome, hcovered⟩ := hcovered
          obtain ⟨n, rfl⟩ := Nat.exists_eq_succ_of_ne_zero hsome
          rw [Environment.shift, ih h.release hcovered, h.disposition_release, turns,
            Nat.succ_sub_one]
          split <;> rfl

end Environment

/-! ## Holders -/

/-- What holds the environment as long as it lives. -/
inductive Holder where
  | opened (handle : Handle)
  | listening (listener : SocketListener)
  | guard
  deriving DecidableEq, Repr

namespace Holder

/-- A handle, whoever its peer is at the time. -/
def of : Handle → Holder
  | .datagram number role _ descriptor => .opened (.datagram number role none descriptor)
  | handle => .opened handle

/-- The same holder, whoever its peer is at the time. -/
def settled : Holder → Holder
  | opened handle => of handle
  | holder => holder

def Held : Holder → Prop
  | opened handle => handle.Held
  | listening _ | guard => True

@[simp] theorem held_of {handle : Handle} : (of handle).Held ↔ handle.Held := by
  cases handle with
  | link _ _ | pipe _ _ _ | stream _ _ _ | datagram _ _ _ _ => exact Iff.rfl

@[simp] theorem held_settled {holder : Holder} : holder.settled.Held ↔ holder.Held := by
  cases holder with
  | opened handle => exact held_of
  | listening _ | guard => exact Iff.rfl

variable {ω ε : Type} [HostWorld ω]

/-- Give a holder up. -/
def drop : Holder → Action ω ε Unit
  | opened handle =>
      (Action.lift Handle.close).on (fun world => (handle, world)) fun ended _ => ended.2
  | listening listener => listener.close
  | guard => HostWorld.onHost (change Host.releaseEnvironment)

theorem drop_makes [Discreet ω] {holder : Holder} (h : holder.Held) :
    (holder.drop : Action ω ε Unit).Makes (Ending (fun _ => True) [.release] []) := by
  have hrelease : ∀ {f : Host → Host}, (∀ host : Host, Host.Shifts [.release] host (f host)) →
      (HostWorld.onHost (change f) : Action ω ε Unit).Makes
        (Ending (fun _ => True) [.release] []) :=
    fun hf => makes_change_bind hf (makes_pure (a := ()) ⟨trivial, rfl⟩)
  cases holder with
  | opened handle => exact hrelease (Handle.shifts_release h)
  | listening listener => exact hrelease listener.shifts_release
  | guard => exact hrelease Host.shifts_release

end Holder

/-! ## Operations -/

namespace Tenancy

/-- What makes or ends a holder. -/
inductive Operation where
  | connect (name : String) (port : UInt16) (kind : SocketKind) (timeout : Option Duration)
  | connectAddress (address : SocketAddress) (kind : SocketKind) (timeout : Option Duration)
  | bind (kind : SocketKind) (address : SocketAddress)
  | accept (listener : SocketListener) (timeout : Option Duration)
  | acceptOnce (listener : SocketListener) (timeout : Option Duration)
  | pipe
  /-- Make a handle of a pipe's descriptor. -/
  | wrap (pipeEnd : PipeEnd)
  /-- Take the descriptor out of a pipe's handle. -/
  | unwrap (pipeEnd : PipeEnd)
  /-- A guard of its own, or a clone of one. -/
  | guard
  | drop (holder : Holder)

namespace Operation

variable {ω : Type} [HostWorld ω]

/-- Do it; gives the new holders. -/
def run : Operation → Action ω TransportError (List Holder)
  | connect name port kind timeout => do
    return [.of (← Socket.connect name port kind timeout)]
  | connectAddress address kind timeout => do
    return [.of (← Socket.connectAddress address kind timeout)]
  | bind kind address => do return [.listening (← SocketListener.bind kind address)]
  | accept listener timeout => do return [.of (← listener.accept timeout)]
  | acceptOnce listener timeout => do return [.of (← listener.acceptOnce timeout)]
  | pipe => do
    let (reader, writer) ← PipePair.create
    return [.of reader, .of writer]
  | wrap pipeEnd => do return [.of (← pipeEnd.wrap)]
  | unwrap pipeEnd => do
    let _ ← pipeEnd.unwrap
    return []
  | guard => do
    HostWorld.onHost (change Host.acquireEnvironment)
    return [.guard]
  | drop holder => do
    holder.drop
    return []

/-- The holder that ends with it, however it ends. -/
def consumes : Operation → Option Holder
  | acceptOnce listener _ => some (.listening listener)
  | unwrap pipeEnd => some (.of pipeEnd.handle)
  | drop holder => some holder.settled
  | _ => none

/-- The number of holders that it makes if it succeeds. -/
def opens : Operation → Nat
  | pipe => 2
  | unwrap _ | drop _ => 0
  | _ => 1

/-- The moves that can go with an end of it; what cannot fail has none for a failure. -/
def moves : Operation → Except TransportError (List Holder) → List (List Move)
  | connect .., .ok _ | connectAddress .., .ok _ | bind .., .ok _ | accept .., .ok _ |
    wrap _, .ok _ | guard, .ok _ => [[.acquire]]
  | acceptOnce .., .ok _ => [[.acquire, .release]]
  | pipe, .ok _ => [[.acquire, .acquire]]
  | unwrap _, .ok _ | drop _, .ok _ => [[.release]]
  | connect .., .error _ => [[], [.acquire, .release]]
  | connectAddress .., .error _ | bind .., .error _ => [[.acquire, .release]]
  | accept .., .error _ | pipe, .error _ => [[]]
  | acceptOnce .., .error _ => [[.release]]
  | wrap _, .error _ | unwrap _, .error _ | guard, .error _ | drop _, .error _ => []

/-- Who comes with an end of it. -/
def newcomers : Except TransportError (List Holder) → List Holder
  | .ok holders => holders
  | .error _ => []

/-- Who is left of those who lived. -/
def remaining (operation : Operation) (live : List Holder) : List Holder :=
  match operation.consumes with
  | some holder => live.erase holder
  | none => live

/-- Who lives after it. -/
def after (operation : Operation) (result : Except TransportError (List Holder))
    (live : List Holder) : List Holder :=
  newcomers result ++ operation.remaining live

/-- These moves can go with this end of it, and the new holders hold. -/
structure Outcome (operation : Operation) (result : Except TransportError (List Holder))
    (moves : List Move) : Prop where
  moves : moves ∈ operation.moves result
  opened : ∀ holders, result = .ok holders →
    holders.length = operation.opens ∧ ∀ holder ∈ holders, holder.Held

/-- An operation that makes holders out of what something else opens. -/
theorem makes_holders {α : Type} {operation : Operation} {x : Action ω TransportError α}
    {holders : α → List Holder} {P : α → Prop} {opened : List Move} {refused : List (List Move)}
    (hx : x.Makes (Ending P opened refused)) (hopens : ∀ a, (holders a).length = operation.opens)
    (hheld : ∀ a, P a → ∀ holder ∈ holders a, holder.Held)
    (hok : ∀ made, opened ∈ operation.moves (.ok made))
    (herr : ∀ e, refused = operation.moves (.error e)) :
    (do return holders (← x) : Action ω TransportError (List Holder)).Makes
      operation.Outcome := by
  refine hx.bind ?_ ?_
  · rintro a _ ⟨ha, rfl⟩
    refine makes_pure ⟨?_, ?_⟩
    · rw [List.append_nil]
      exact hok _
    · rintro _ ⟨⟩
      exact ⟨hopens a, hheld a ha⟩
  · intro e moves hmoves
    exact ⟨herr e ▸ hmoves, nofun⟩

theorem run_makes [Discreet ω] (operation : Operation)
    (hheld : ∀ holder ∈ operation.consumes, holder.Held) :
    (operation.run : Action ω TransportError (List Holder)).Makes operation.Outcome := by
  have hnone : ∀ {α : Type} (_ : α), True → ∀ holder ∈ ([] : List Holder), holder.Held :=
    fun _ _ => by simp
  have hhandle : ∀ handle : Handle, handle.Held → ∀ holder ∈ [Holder.of handle], holder.Held :=
    fun handle h => by simpa using h
  cases operation with
  | connect name port kind timeout =>
      exact makes_holders (Socket.connect_makes name port kind timeout) (fun _ => rfl) hhandle
        (fun _ => List.mem_singleton_self _) fun _ => rfl
  | connectAddress address kind timeout =>
      exact makes_holders (Socket.connectAddress_makes address kind timeout) (fun _ => rfl) hhandle
        (fun _ => List.mem_singleton_self _) fun _ => rfl
  | bind kind address =>
      exact makes_holders (SocketListener.bind_makes kind address) (fun _ => rfl)
        (by simp [Holder.Held]) (fun _ => List.mem_singleton_self _) fun _ => rfl
  | accept listener timeout =>
      exact makes_holders (SocketListener.accept_makes listener timeout) (fun _ => rfl) hhandle
        (fun _ => List.mem_singleton_self _) fun _ => rfl
  | acceptOnce listener timeout =>
      exact makes_holders (SocketListener.acceptOnce_makes listener timeout) (fun _ => rfl) hhandle
        (fun _ => List.mem_singleton_self _) fun _ => rfl
  | pipe =>
      refine makes_holders PipePair.create_makes (fun _ => rfl) ?_
        (fun _ => List.mem_singleton_self _) fun _ => rfl
      rintro ⟨reader, writer⟩ ⟨hreader, hwriter⟩
      simp [hreader, hwriter]
  | wrap pipeEnd =>
      exact makes_holders pipeEnd.wrap_makes (fun _ => rfl) hhandle
        (fun _ => List.mem_singleton_self _) fun _ => rfl
  | unwrap pipeEnd =>
      exact makes_holders pipeEnd.unwrap_makes (fun _ => rfl) hnone
        (fun _ => List.mem_singleton_self _) fun _ => rfl
  | guard =>
      have hguard : (HostWorld.onHost (change Host.acquireEnvironment) :
          Action ω TransportError Unit).Makes (Ending (fun _ => True) [.acquire] []) :=
        makes_change_bind Host.shifts_acquire (makes_pure (a := ()) ⟨trivial, rfl⟩)
      exact makes_holders hguard (fun _ => rfl) (by simp [Holder.Held])
        (fun _ => List.mem_singleton_self _) fun _ => rfl
  | drop holder =>
      have hholder : holder.Held := Holder.held_settled.mp (hheld _ rfl)
      exact makes_holders (Holder.drop_makes hholder) (fun _ => rfl) hnone
        (fun _ => List.mem_singleton_self _) fun _ => rfl

/-- How many holders an end of it brings. -/
def comes (operation : Operation) : Except TransportError (List Holder) → Nat
  | .ok _ => operation.opens
  | .error _ => 0

/-- How many holders it takes. -/
def goes (operation : Operation) : Nat := if operation.consumes.isSome then 1 else 0

/-- Whoever comes takes hold, whoever goes lets go, and what is taken hold of for a while is let go
of again. -/
inductive Balanced : List Move → Nat → Nat → Prop
  | nothing : Balanced [] 0 0
  | comes : Balanced [.acquire] 1 0
  | both : Balanced [.acquire, .acquire] 2 0
  | goes : Balanced [.release] 0 1
  | passes (n : Nat) : Balanced [.acquire, .release] n n

theorem moves_balanced (operation : Operation) (result : Except TransportError (List Holder)) :
    ∀ made ∈ operation.moves result, Balanced made (operation.comes result) operation.goes := by
  have honly : ∀ {only : List Move} {comes goes : Nat}, Balanced only comes goes →
      ∀ made ∈ [only], Balanced made comes goes := fun h => List.forall_mem_singleton.mpr h
  cases operation with
  | connect _ _ _ _ =>
      cases result with
      | ok _ => exact honly .comes
      | error _ => exact List.forall_mem_cons.mpr ⟨.nothing, honly (.passes 0)⟩
  | connectAddress _ _ _ | bind _ _ =>
      cases result with
      | ok _ => exact honly .comes
      | error _ => exact honly (.passes 0)
  | accept _ _ =>
      cases result with
      | ok _ => exact honly .comes
      | error _ => exact honly .nothing
  | acceptOnce _ _ =>
      cases result with
      | ok _ => exact honly (.passes 1)
      | error _ => exact honly .goes
  | pipe =>
      cases result with
      | ok _ => exact honly .both
      | error _ => exact honly .nothing
  | wrap _ | guard =>
      cases result with
      | ok _ => exact honly .comes
      | error _ => exact List.forall_mem_nil _
  | unwrap _ | drop _ =>
      cases result with
      | ok _ => exact honly .goes
      | error _ => exact List.forall_mem_nil _

theorem Balanced.count {made : List Move} {comes goes n : Nat} (h : Balanced made comes goes)
    (hgoes : goes ≤ n) :
    Environment.Covered n made ∧ Environment.count n made + goes = n + comes := by
  cases h with
  | nothing | comes | both => simp [Environment.Covered, Environment.count]
  | goes =>
      have hsome : n ≠ 0 := Nat.ne_of_gt hgoes
      simp [Environment.Covered, Environment.count, hsome, Nat.sub_add_cancel hgoes]
  | passes => simp [Environment.Covered, Environment.count]

theorem length_remaining {operation : Operation} {live : List Holder}
    (hconsumes : ∀ holder ∈ operation.consumes, holder ∈ live) :
    (operation.remaining live).length + operation.goes = live.length := by
  unfold remaining goes
  cases hcase : operation.consumes with
  | none => rfl
  | some holder =>
      have hmem : holder ∈ live := hconsumes holder hcase
      rw [List.length_erase_of_mem hmem]
      exact Nat.sub_add_cancel (List.length_pos_of_mem hmem)

/-- The moves say how many live then. -/
theorem Outcome.length_after {operation : Operation}
    {result : Except TransportError (List Holder)} {made : List Move} {live : List Holder}
    (h : operation.Outcome result made) (hconsumes : ∀ holder ∈ operation.consumes, holder ∈ live) :
    Environment.Covered live.length made ∧
      (operation.after result live).length = Environment.count live.length made := by
  have hremaining := length_remaining hconsumes
  have hnewcomers : (newcomers result).length = operation.comes result := by
    cases result with
    | ok holders => exact (h.opened holders rfl).1
    | error e => rfl
  have hbalanced := moves_balanced operation result made h.moves
  obtain ⟨hcovered, hcount⟩ := hbalanced.count (n := live.length) (by omega)
  refine ⟨hcovered, ?_⟩
  rw [after, List.length_append, hnewcomers]
  omega

/-- Whoever lives then holds. -/
theorem Outcome.held_after {operation : Operation}
    {result : Except TransportError (List Holder)} {made : List Move} {live : List Holder}
    (h : operation.Outcome result made) (hheld : ∀ holder ∈ live, holder.Held) :
    ∀ holder ∈ operation.after result live, holder.Held := by
  intro holder hholder
  obtain hnew | hold := List.mem_append.mp hholder
  · cases result with
    | ok holders => exact (h.opened holders rfl).2 holder hnew
    | error e => contradiction
  · unfold remaining at hold
    cases hcase : operation.consumes with
    | none =>
        rw [hcase] at hold
        exact hheld holder hold
    | some gone =>
        rw [hcase] at hold
        exact hheld holder (List.mem_of_mem_erase hold)

end Operation

/-! ## Histories -/

variable {ω : Type} [HostWorld ω]

/-- Whether nothing has happened to an environment between two states of a host, except perhaps to
the disposition. -/
structure Aside (host after : Host) : Prop where
  holders : after.environment.holders = host.environment.holders
  saved : after.environment.saved = host.environment.saved
  told : after.environmentLog = host.environmentLog

/-- Operations one after another, in a process that nobody held the environment of.  These are the
holders that live now, and the disposition at the last moment when none did. -/
inductive History : List Holder → Disposition → ω → Prop
  | fresh (world : ω) (hnone : (HostWorld.host world).environment.holders = 0)
      (hsaved : (HostWorld.host world).environment.saved = none) :
      History [] (HostWorld.host world).environment.disposition world
  /-- Whatever else happens. -/
  | elsewhere {live : List Holder} {own : Disposition} {world after : ω}
      (before : History live own world)
      (haside : Aside (HostWorld.host world) (HostWorld.host after)) :
      History live (if live = [] then (HostWorld.host after).environment.disposition else own) after
  | operated {live : List Holder} {own : Disposition} {world after : ω}
      {result : Except TransportError (List Holder)} (patience : Nat) (operation : Operation)
      (before : History live own world)
      (hconsumes : ∀ holder ∈ operation.consumes, holder ∈ live)
      (hrun : operation.run patience world = some (result, after)) :
      History (operation.after result live) own after

variable {live : List Holder} {own : Disposition} {world : ω}

theorem History.sound [Discreet ω] (h : History live own world) :
    (∀ holder ∈ live, holder.Held) ∧
      (HostWorld.host world).environment.Sound live.length own := by
  induction h with
  | fresh world hnone hsaved => exact ⟨by simp, hnone, fun _ => ⟨rfl, hsaved⟩, nofun⟩
  | @elsewhere live own world after before haside ih =>
      obtain ⟨hheld, hsound⟩ := ih
      refine ⟨hheld, haside.holders.trans hsound.holders, fun hnone => ?_, fun hsome => ?_⟩
      · rw [if_pos (List.eq_nil_of_length_eq_zero hnone)]
        exact ⟨rfl, haside.saved.trans (hsound.free hnone).2⟩
      · rw [if_neg (mt List.length_eq_zero_iff.mpr hsome)]
        exact haside.saved.trans (hsound.saved hsome)
  | operated patience operation before hconsumes hrun ih =>
      obtain ⟨hheld, hsound⟩ := ih
      obtain ⟨made, houtcome, hshifts⟩ :=
        operation.run_makes (fun holder h => hheld holder (hconsumes holder h)) _ patience _ _ hrun
      obtain ⟨hcovered, hlength⟩ := houtcome.length_after hconsumes
      refine ⟨houtcome.held_after hheld, ?_⟩
      rw [hlength, hshifts.environment]
      exact hsound.shift hcovered

/-! ## Held while used -/

/-- What an end of an operation makes of an environment that was held by `live`. -/
structure Passage (operation : Operation) (result : Except TransportError (List Holder))
    (live : List Holder) (own : Disposition) (host after : Host) : Prop where
  active : after.environment.holders = (operation.after result live).length
  /-- Its moves lead there, it is initialized and restored where they leave zero and return to it,
  and neither happens elsewhere. -/
  turned : ∃ made ∈ operation.moves result,
    after.environment.holders = Environment.count live.length made ∧
    after.environmentLog =
      host.environmentLog ++ (Environment.turns live.length made).map Turn.event ∧
    after.environment.disposition = (Environment.turns live.length made).foldl
      (fun _ turn => turn.disposition own) host.environment.disposition
  /-- What fails without taking a holder leaves as many as there were. -/
  refused : operation.consumes = none → ∀ e, result = .error e →
    after.environment.holders = host.environment.holders

/-- Whether exactly these hold the environment, `own` is what the last of them to go puts back, and
so it remains whatever is done next. -/
structure Orderly (live : List Holder) (own : Disposition) (world : ω) : Prop where
  active : (HostWorld.host world).environment.holders = live.length
  restored : live = [] → (HostWorld.host world).environment.disposition = own
  saved : live ≠ [] → (HostWorld.host world).environment.saved = some own
  next : ∀ (operation : Operation) (patience : Nat)
    (result : Except TransportError (List Holder)) (after : ω),
    (∀ holder ∈ operation.consumes, holder ∈ live) →
    operation.run patience world = some (result, after) →
    Passage operation result live own (HostWorld.host world) (HostWorld.host after)

theorem History.passage [Discreet ω] (h : History live own world) {operation : Operation}
    {patience : Nat} {result : Except TransportError (List Holder)} {after : ω}
    (hconsumes : ∀ holder ∈ operation.consumes, holder ∈ live)
    (hrun : operation.run patience world = some (result, after)) :
    Passage operation result live own (HostWorld.host world) (HostWorld.host after) := by
  obtain ⟨hheld, hsound⟩ := h.sound
  obtain ⟨-, hnext⟩ := (h.operated patience operation hconsumes hrun).sound
  obtain ⟨made, houtcome, hshifts⟩ :=
    operation.run_makes (fun holder h => hheld holder (hconsumes holder h)) _ patience _ _ hrun
  obtain ⟨hcovered, hlength⟩ := houtcome.length_after hconsumes
  refine ⟨hnext.holders, ⟨made, houtcome.moves, hnext.holders.trans hlength, ?_, ?_⟩, ?_⟩
  · rw [hshifts.told, hsound.holders]
  · rw [hshifts.environment]
    exact hsound.disposition_shift hcovered
  · rintro hkeeps e rfl
    rw [hnext.holders, hsound.holders, Operation.after, Operation.remaining, hkeeps]
    rfl

/-- As many hold the environment as live, after any history of openings that succeed or fail
anywhere, of accepting and letting go; each initialization is told when the number leaves zero, each
restoration when it returns there, and the disposition is the one from before again. -/
theorem heldWhileUsed [Discreet ω] (h : History live own world) : Orderly live own world where
  active := h.sound.2.holders
  restored hnone := (h.sound.2.free (List.length_eq_zero_iff.mpr hnone)).1
  saved hsome := h.sound.2.saved (mt List.length_eq_zero_iff.mp hsome)
  next _ _ _ _ hconsumes hrun := h.passage hconsumes hrun

/-- In a process with a handler of its own a guard is taken, a connect fails because there are no
sockets, and the guard is given up. -/
theorem heldWhileUsed_handler :
    let host : Host :=
      { environment := { disposition := .handled 7 }, faults := [{ call := .socket, errno := 24 }] }
    let after : Host :=
      { host with faults := [], journal := [Turn.restored.event, Turn.initialized.event] }
    Orderly [] (.handled 7) after := by
  intro host after
  let held : Host :=
    { host with
      environment := { holders := 1, disposition := .ignored, saved := some (.handled 7) }
      journal := [Turn.initialized.event] }
  have hfresh : History [] (.handled 7) host := .fresh host rfl rfl
  have hguard : History [.guard] (.handled 7) held :=
    hfresh.operated 0 .guard nofun (show _ = some (.ok [.guard], held) from rfl)
  have hrefused : History [.guard] (.handled 7) { held with faults := [] } :=
    hguard.operated 0 (.connectAddress (SocketListener.onPort 9) .datagram none) nofun
      (show _ = some (.error (.connect (SocketListener.onPort 9) (.os 24)), _) from rfl)
  have hdropped : History [] (.handled 7) after :=
    hrefused.operated 0 (.drop .guard) (by simp [Operation.consumes, Holder.settled])
      (show _ = some (.ok [], after) from rfl)
  exact heldWhileUsed hdropped

end Tenancy

end TypedChannel
