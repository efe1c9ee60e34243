import TypedChannel.Host.Basic
import TypedChannel.Proofs.Action
/-!
# TypedChannel.Proofs.Host.Capacity

The open-file limits of a process while nobody but this library changes them.

1. A soft limit that is asked for lies above the present one and not above the
   hard one (`Limits.raises_of_raiseFor?`), and with it there is room, or no more
   can be had (`Limits.HasRoom`).
2. `Supervised` is a host that writes down both limits of every request.  What
   is done to it is what is done to the host alone (`Supervised.ensureCapacity_mirrors`).
3. Making room in a state in which the recorded limits, if there are any, are
   those of the system ends in such a state, whichever system call fails
   (`Supervised.ensureCapacity_ends`).
4. So the books are right at any time of any history (`Supervised.bookkeeping`).
-/

namespace TypedChannel

open TypedChannel.Action

/-! ## Limits -/

namespace Limits

variable {limits : Limits} {descriptor : Int} {target : Nat}

/-- Whether there is room beyond a descriptor, or none to be gained. -/
def HasRoom (limits : Limits) (descriptor : Int) : Prop :=
  descriptor.toNat + headroom < limits.soft ∨ limits.soft = limits.hard

theorem raiseFor?_eq_none :
    limits.raiseFor? descriptor = none ↔
      needed descriptor < limits.soft ∨ limits.target descriptor ≤ limits.soft := by
  simp only [raiseFor?, Bool.or_eq_true, decide_eq_true_eq, ite_eq_left_iff, reduceCtorEq,
    imp_false, Decidable.not_not]

theorem raiseFor?_eq_some :
    limits.raiseFor? descriptor = some target ↔
      (limits.soft ≤ needed descriptor ∧ limits.soft < limits.target descriptor) ∧
        limits.target descriptor = target := by
  simp [raiseFor?]

/-- The soft limit rises, to the hard one at most, which stays. -/
structure Raises (limits after : Limits) : Prop where
  above : limits.soft < after.soft
  below : after.soft ≤ limits.hard
  hard : after.hard = limits.hard

theorem raises_of_raiseFor? (h : limits.raiseFor? descriptor = some target) :
    limits.Raises { limits with soft := target } := by
  obtain ⟨⟨-, habove⟩, rfl⟩ := raiseFor?_eq_some.mp h
  exact ⟨habove, Nat.min_le_right _ _, rfl⟩

/-- The sums are cut at the largest number, which no limit exceeds. -/
theorem hasRoom_target (hbound : limits.hard ≤ unlimited) (descriptor : Int) :
    HasRoom { limits with soft := limits.target descriptor } descriptor := by
  simp only [HasRoom, target, needed, saturated, headroom]
  generalize unlimited = most at *
  omega

/-- Nothing is asked for where there is room, and where twice the soft limit is no more than it. -/
theorem hasRoom_of_raiseFor?_eq_none (hle : limits.soft ≤ limits.hard)
    (hbound : limits.hard ≤ unlimited) (h : limits.raiseFor? descriptor = none) :
    limits.HasRoom descriptor := by
  rw [raiseFor?_eq_none] at h
  simp only [HasRoom, target, needed, saturated, headroom, growthBase] at h ⊢
  generalize unlimited = most at *
  omega

end Limits

/-! ## System calls -/

namespace Host

/-- A call that may be made to fail leaves everything but the faults as it is. -/
theorem check_settles (call : SystemCall) (host : Host) :
    (check call).Settles host fun _ after => ∃ faults, after = { host with faults } := by
  intro patience
  unfold check
  dsimp only
  cases (Fault.strike call host.faults).1 with
  | none | some errno => exact ⟨_, _, rfl, _, rfl⟩

/-- The same limits, recorded or not. -/
structure SameLimits (host after : Host) : Prop where
  limits : after.limits = host.limits
  recorded : after.recordedLimits = host.recordedLimits

theorem readLimits_settles (host : Host) :
    readLimits.Settles host fun result after =>
      SameLimits host after ∧ ∀ limits, result = .ok limits → limits = host.limits := by
  refine (check_settles .getLimits host).bind ?_ ?_
  · rintro _ after ⟨faults, rfl⟩
    exact settles_see ⟨⟨rfl, rfl⟩, fun limits hlimits => by cases hlimits; rfl⟩
  · rintro e after ⟨faults, rfl⟩
    exact ⟨⟨rfl, rfl⟩, nofun⟩

theorem setLimits_settles (limits : Limits) (host : Host) :
    (setLimits limits).Settles host fun result after =>
      after.recordedLimits = host.recordedLimits ∧
        match result with
        | .ok () => after.limits = limits
        | .error _ => after.limits = host.limits := by
  refine (check_settles .setLimits host).bind ?_ ?_
  · rintro _ after ⟨faults, rfl⟩
    exact settles_change ⟨rfl, rfl⟩
  · rintro e after ⟨faults, rfl⟩
    exact ⟨rfl, rfl⟩

/-- Whether the recorded limits, if there are any, are those of the system. -/
def Tracks (host : Host) : Prop :=
  ∀ limits, host.recordedLimits = some limits → limits = host.limits

theorem trackedLimits_settles {host : Host} (htracks : host.Tracks) :
    trackedLimits.Settles host fun result after =>
      SameLimits host after ∧ ∀ limits, result = .ok limits → limits = host.limits := by
  refine settles_see_bind ?_
  cases hrecorded : host.recordedLimits with
  | none => exact readLimits_settles host
  | some limits =>
      refine settles_pure ⟨⟨rfl, rfl⟩, fun answer hanswer => ?_⟩
      cases hanswer
      exact htracks limits hrecorded

/-- What is recorded is read first, if it was not before. -/
theorem recordLimits_settles {host : Host} (htracks : host.Tracks) :
    recordLimits.Settles host fun result after => after.limits = host.limits ∧
      match result with
      | .ok limits => limits = host.limits ∧ after.recordedLimits = some host.limits
      | .error e => (∃ cause, e = .io cause) ∧ after.recordedLimits = none := by
  refine settles_see_bind ?_
  cases hrecorded : host.recordedLimits with
  | none =>
      have hread : (readLimits.mapError .io).Settles host fun result after =>
          SameLimits host after ∧ match result with
            | .ok limits => limits = host.limits
            | .error e => ∃ cause, e = TransportError.io cause := by
        refine Settles.mapError ((readLimits_settles host).mono fun result after hsame => ?_)
        cases result with
        | ok limits => exact ⟨hsame.1, hsame.2 limits rfl⟩
        | error cause => exact ⟨hsame.1, cause, rfl⟩
      refine hread.bind ?_ ?_
      · rintro limits after ⟨hsame, rfl⟩
        exact settles_change_bind (settles_pure ⟨hsame.limits, rfl, rfl⟩)
      · rintro e after ⟨hsame, hcause⟩
        exact ⟨hsame.limits, hcause, hsame.recorded.trans hrecorded⟩
  | some limits =>
      obtain rfl := htracks limits hrecorded
      exact settles_pure ⟨rfl, rfl, hrecorded⟩

end Host

/-! ## Calls that are written down -/

/-- A host that writes down all limits it is asked to set, behind the limits at that time. -/
structure Supervised where
  host : Host
  asked : List (Limits × Limits)

namespace Supervised

variable {ε α β : Type}

/-- Run an action of the host. -/
@[inline] def onHost (x : Action Host ε α) : Action Supervised ε α :=
  x.on host fun host state => { state with host }

/-- Ask for other limits. -/
def setLimits (limits : Limits) : Action Supervised IoError Unit := do
  Action.change fun state => { state with asked := state.asked ++ [(state.host.limits, limits)] }
  onHost (Host.setLimits limits)

/-- Make room beyond `descriptor`. -/
def ensureCapacity (descriptor : Int) : Action Supervised TransportError Unit :=
  Host.makeRoom onHost setLimits descriptor

/-! What is written down makes no difference. -/

/-- Whether `x` does to a supervised host what `y` does to a host. -/
def Mirrors (x : Action Supervised ε α) (y : Action Host ε α) : Prop :=
  ∀ patience state, (x patience state).map (fun ended => (ended.1, ended.2.host)) =
    y patience state.host

theorem onHost_mirrors (x : Action Host ε α) : Mirrors (onHost x) x := by
  intro patience state
  show ((x patience state.host).map _).map _ = _
  cases x patience state.host with
  | none => rfl
  | some ended => rfl

theorem Mirrors.bind {x : Action Supervised ε α} {y : Action Host ε α}
    {f : α → Action Supervised ε β} {g : α → Action Host ε β} (hx : Mirrors x y)
    (hf : ∀ a, Mirrors (f a) (g a)) : Mirrors (x >>= f) (y >>= g) := by
  intro patience state
  show (andThen x f patience state).map _ = andThen y g patience state.host
  unfold andThen
  rw [← hx patience state]
  cases x patience state with
  | none => rfl
  | some ended =>
      obtain ⟨result, after⟩ := ended
      cases result with
      | ok a => exact hf a patience after
      | error e => rfl

theorem Mirrors.attempt {ε' : Type} {x : Action Supervised ε α} {y : Action Host ε α}
    (hx : Mirrors x y) :
    Mirrors (Action.attempt x : Action Supervised ε' _) (Action.attempt y) := by
  intro patience state
  show ((x patience state).map _).map _ = (y patience state.host).map _
  rw [← hx patience state]
  cases x patience state with
  | none => rfl
  | some ended => rfl

theorem setLimits_mirrors (limits : Limits) :
    Mirrors (setLimits limits) (Host.setLimits limits) :=
  fun patience state => onHost_mirrors _ patience
    { state with asked := state.asked ++ [(state.host.limits, limits)] }

theorem ensureCapacity_mirrors (descriptor : Int) :
    Mirrors (ensureCapacity descriptor) (Host.ensureCapacity descriptor) := by
  refine (onHost_mirrors _).bind fun limits => ?_
  cases limits.raiseFor? descriptor with
  | none =>
      dsimp only
      split
      · exact onHost_mirrors _
      · exact fun _ _ => rfl
  | some target =>
      refine (setLimits_mirrors _).attempt.bind fun result => ?_
      cases result with
      | ok _ => exact (onHost_mirrors _).bind fun _ => onHost_mirrors _
      | error e => exact (onHost_mirrors _).bind fun _ _ _ => rfl

/-! ## What making room does -/

/-- How making room beyond `descriptor` ends. -/
inductive Ends (descriptor : Int) (before : Supervised) :
    Except TransportError Unit → Supervised → Prop
  /-- The limits could not be read. -/
  | unread (cause : IoError) {after : Supervised} (limits : after.host.limits = before.host.limits)
      (recorded : after.host.recordedLimits = none) (asked : after.asked = before.asked) :
      Ends descriptor before (.error (.io cause)) after
  /-- There was nothing to ask for. -/
  | left {after : Supervised} (stays : before.host.limits.raiseFor? descriptor = none)
      (limits : after.host.limits = before.host.limits)
      (recorded : after.host.recordedLimits = some before.host.limits)
      (asked : after.asked = before.asked) : Ends descriptor before (.ok ()) after
  | raised {after : Supervised} (target : Nat)
      (raises : before.host.limits.raiseFor? descriptor = some target)
      (limits : after.host.limits = { before.host.limits with soft := target })
      (recorded : after.host.recordedLimits = some after.host.limits)
      (asked : after.asked =
        before.asked ++ [(before.host.limits, { before.host.limits with soft := target })]) :
      Ends descriptor before (.ok ()) after
  | refused {after : Supervised} (target : Nat) (cause : IoError)
      (raises : before.host.limits.raiseFor? descriptor = some target)
      (limits : after.host.limits = before.host.limits)
      (recorded : after.host.recordedLimits = some before.host.limits)
      (asked : after.asked =
        before.asked ++ [(before.host.limits, { before.host.limits with soft := target })]) :
      Ends descriptor before
        (.error (.descriptorLimit descriptor.toNat before.host.limits.soft cause)) after

theorem setLimits_settles (limits : Limits) (state : Supervised) :
    (setLimits limits).Settles state fun result after =>
      after.asked = state.asked ++ [(state.host.limits, limits)] ∧
      after.host.recordedLimits = state.host.recordedLimits ∧
        match result with
        | .ok () => after.host.limits = limits
        | .error _ => after.host.limits = state.host.limits :=
  settles_change_bind (Settles.on ((Host.setLimits_settles limits state.host).mono
    fun _ _ hset => ⟨rfl, hset⟩))

theorem settles_onHost_change_bind {f : Host → Host} {g : Unit → Action Supervised ε β}
    {post : Except ε β → Supervised → Prop} {state : Supervised}
    (h : (g ()).Settles { state with host := f state.host } post) :
    (onHost (Action.change f) >>= g).Settles state post := h

/-- Making room always ends, in one of these ways. -/
theorem ensureCapacity_ends {state : Supervised} (htracks : state.host.Tracks)
    (descriptor : Int) : (ensureCapacity descriptor).Settles state (Ends descriptor state) := by
  have hrecord : (onHost Host.recordLimits).Settles state fun result after =>
      after.asked = state.asked ∧ after.host.limits = state.host.limits ∧
        match result with
        | .ok limits => limits = state.host.limits ∧
            after.host.recordedLimits = some state.host.limits
        | .error e => (∃ cause, e = .io cause) ∧ after.host.recordedLimits = none :=
    Settles.on ((Host.recordLimits_settles htracks).mono fun _ _ hread => ⟨rfl, hread⟩)
  refine hrecord.bind ?_ ?_
  · rintro limits between ⟨hasked, hlimits, rfl, hrecorded⟩
    cases hraise : state.host.limits.raiseFor? descriptor with
    | none =>
        dsimp only
        split
        · exact Settles.on (settles_change (.left hraise hlimits hrecorded hasked))
        · exact settles_pure (.left hraise hlimits hrecorded hasked)
    | some target =>
        refine (setLimits_settles { state.host.limits with soft := target } between).attempt_bind ?_
        rintro result after ⟨hmore, hkept, hset⟩
        rw [hasked, hlimits] at hmore
        cases result with
        | ok _ =>
            have hrecorded : some { state.host.limits with soft := target } =
                some after.host.limits := congrArg some hset.symm
            exact settles_onHost_change_bind
              (Settles.on (settles_change (.raised target hraise hset hrecorded hmore)))
        | error cause =>
            exact settles_onHost_change_bind (settles_fail
              (.refused target cause hraise (hset.trans hlimits) (hkept.trans hrecorded) hmore))
  · rintro e between ⟨hasked, hlimits, ⟨cause, rfl⟩, hrecorded⟩
    exact .unread cause hlimits hrecorded hasked

/-! ## Histories -/

/-- What holds of the limits at any time, if they were `start` before anything was recorded. -/
structure Sound (start : Limits) (state : Supervised) : Prop where
  tracks : state.host.Tracks
  hard : state.host.limits.hard = start.hard
  grown : start.soft ≤ state.host.limits.soft
  bounded : state.host.limits.soft ≤ state.host.limits.hard
  /-- Whatever was asked for had a soft limit above that of the time and not above the hard one,
  and the same hard one. -/
  asked : ∀ ask ∈ state.asked, ask.1.Raises ask.2

variable {start : Limits} {state after : Supervised} {descriptor : Int}
  {result : Except TransportError Unit}

/-- The limits that are recorded are the ones that were found or set. -/
theorem Ends.tracks (h : Ends descriptor state result after) : after.host.Tracks := by
  intro limits hlimits
  cases h with
  | unread cause _ hrecorded _ =>
      rw [hrecorded] at hlimits
      contradiction
  | left _ hsame hrecorded _ | refused _ _ _ hsame hrecorded _ =>
      rw [hrecorded] at hlimits
      cases hlimits
      exact hsame.symm
  | raised _ _ _ hrecorded _ =>
      rw [hrecorded] at hlimits
      cases hlimits
      rfl

/-- The limits stay as they are, or the soft one rises towards the hard one. -/
theorem Ends.limits (h : Ends descriptor state result after) :
    after.host.limits = state.host.limits ∨ state.host.limits.Raises after.host.limits := by
  cases h with
  | unread _ hsame _ _ | left _ hsame _ _ | refused _ _ _ hsame _ _ => exact .inl hsame
  | raised target hraises hset _ _ =>
      rw [hset]
      exact .inr (Limits.raises_of_raiseFor? hraises)

theorem Ends.asked (h : Ends descriptor state result after) :
    ∃ asks, after.asked = state.asked ++ asks ∧
      ∀ ask ∈ asks, ask.1.Raises ask.2 := by
  cases h with
  | unread _ _ _ hasked | left _ _ _ hasked => exact ⟨[], by simpa using hasked, by simp⟩
  | raised target hraises _ _ hasked | refused target _ hraises _ _ hasked =>
      exact ⟨_, hasked, by simpa using Limits.raises_of_raiseFor? hraises⟩

theorem Ends.sound (h : Ends descriptor state result after) (hsound : Sound start state) :
    Sound start after := by
  obtain ⟨asks, hmore, hbounds⟩ := h.asked
  have hasked : ∀ ask ∈ after.asked, ask.1.Raises ask.2 := by
    rw [hmore]
    intro ask hask
    obtain hask | hask := List.mem_append.mp hask
    · exact hsound.asked ask hask
    · exact hbounds ask hask
  obtain hsame | hraises := h.limits
  · exact ⟨h.tracks, hsame ▸ hsound.hard, hsame ▸ hsound.grown, hsame ▸ hsound.bounded, hasked⟩
  · refine ⟨h.tracks, hraises.hard.trans hsound.hard, ?_, ?_, hasked⟩
    · exact Nat.le_trans hsound.grown (Nat.le_of_lt hraises.above)
    · rw [hraises.hard]
      exact hraises.below

/-- The states that making room and asking for the limits lead to, on a host whose limits were
`start` and not recorded.  Between two calls the host may become any other with the same limits and
the same record, so any system call may be made to fail. -/
inductive History (start : Limits) : Supervised → Prop
  | started (host : Host) (limits : host.limits = start) (unrecorded : host.recordedLimits = none) :
      History start ⟨host, []⟩
  | ensured {state after : Supervised} {result : Except TransportError Unit} (patience : Nat)
      (descriptor : Int) (before : History start state)
      (run : ensureCapacity descriptor patience state = some (result, after)) : History start after
  | tracked {state after : Supervised} {result : Except IoError Limits} (patience : Nat)
      (before : History start state)
      (run : onHost Host.trackedLimits patience state = some (result, after)) : History start after
  | elsewhere {state : Supervised} (host : Host) (before : History start state)
      (same : state.host.SameLimits host) : History start { state with host }

theorem Sound.elsewhere (h : Sound start state) {host : Host} (hsame : state.host.SameLimits host) :
    Sound start { state with host } where
  tracks limits hlimits := by
    rw [hsame.recorded] at hlimits
    exact (h.tracks limits hlimits).trans hsame.limits.symm
  hard := hsame.limits ▸ h.hard
  grown := hsame.limits ▸ h.grown
  bounded := hsame.limits ▸ h.bounded
  asked := h.asked

theorem trackedLimits_settles (htracks : state.host.Tracks) :
    (onHost Host.trackedLimits).Settles state fun result after =>
      (state.host.SameLimits after.host ∧ after = { state with host := after.host }) ∧
        ∀ limits, result = .ok limits → limits = state.host.limits :=
  Settles.on ((Host.trackedLimits_settles htracks).mono fun _ _ htracked =>
    ⟨⟨htracked.1, rfl⟩, htracked.2⟩)

theorem History.sound (h : History start state) (hle : start.soft ≤ start.hard) :
    Sound start state := by
  induction h with
  | started host hlimits hunrecorded =>
      subst hlimits
      exact ⟨fun limits hlimits => by simp [hunrecorded] at hlimits, rfl, Nat.le_refl _, hle,
        by simp⟩
  | ensured patience descriptor before run ih =>
      exact ((ensureCapacity_ends ih.tracks descriptor).ensures _ _ _ run).sound ih
  | tracked patience before run ih =>
      obtain ⟨⟨hsame, hafter⟩, -⟩ := (trackedLimits_settles ih.tracks).ensures _ _ _ run
      rw [hafter]
      exact ih.elsewhere hsame
  | elsewhere host before same ih => exact ih.elsewhere same

/-- The bookkeeping of the limits. -/
structure Bookkeeping (start : Limits) (state : Supervised) : Prop extends Sound start state where
  /-- Making room always ends.  Where it succeeds there is room, or no more can be had; where it
  fails the limits are as they were. -/
  ensured : ∀ descriptor : Nat, (ensureCapacity descriptor).Settles state fun result after =>
    state.host.limits.soft ≤ after.host.limits.soft ∧
    match result with
    | .ok () => descriptor + Limits.headroom < after.host.limits.soft ∨
        after.host.limits.soft = after.host.limits.hard
    | .error e => after.host.limits = state.host.limits ∧
        ((after.asked = state.asked ∧ ∃ cause, e = .io cause) ∨
          ∃ asked cause, after.asked = state.asked ++ [(state.host.limits, asked)] ∧
            e = .descriptorLimit descriptor state.host.limits.soft cause)
  /-- The limits that are told are those of the system. -/
  tracked : (onHost Host.trackedLimits).Settles state fun result after =>
    after.host.limits = state.host.limits ∧ after.asked = state.asked ∧
      ∀ limits, result = .ok limits → limits = state.host.limits
  /-- A host that writes nothing down does the same. -/
  unsupervised : ∀ descriptor, Mirrors (ensureCapacity descriptor) (Host.ensureCapacity descriptor)

/-- Whichever calls are made, in whatever order, and whichever of them fail: what is recorded is
what the system has, the soft limit only rises, and never above the hard one. -/
theorem bookkeeping {start : Limits} {state : Supervised} (h : History start state)
    (hle : start.soft ≤ start.hard) (hbound : start.hard ≤ Limits.unlimited) :
    Bookkeeping start state := by
  have hsound := h.sound hle
  have hunlimited : state.host.limits.hard ≤ Limits.unlimited := hsound.hard ▸ hbound
  refine { hsound with ensured := fun descriptor => ?_, tracked := ?_,
                       unsupervised := ensureCapacity_mirrors }
  · refine (ensureCapacity_ends hsound.tracks descriptor).mono fun result after hends => ?_
    have hgrows : state.host.limits.soft ≤ after.host.limits.soft := by
      obtain hsame | hraises := hends.limits
      · exact Nat.le_of_eq (by rw [hsame])
      · exact Nat.le_of_lt hraises.above
    refine ⟨hgrows, ?_⟩
    cases hends with
    | unread cause hsame _ hasked => exact ⟨hsame, .inl ⟨hasked, cause, rfl⟩⟩
    | left hstays hsame _ _ =>
        dsimp only
        rw [hsame]
        exact Limits.hasRoom_of_raiseFor?_eq_none hsound.bounded hunlimited hstays
    | raised target hraises hset _ _ =>
        obtain ⟨-, rfl⟩ := Limits.raiseFor?_eq_some.mp hraises
        dsimp only
        rw [hset]
        exact Limits.hasRoom_target hunlimited descriptor
    | refused target cause _ hsame _ hasked => exact ⟨hsame, .inr ⟨_, cause, hasked, rfl⟩⟩
  · refine (trackedLimits_settles hsound.tracks).mono ?_
    rintro result after ⟨⟨hsame, hafter⟩, hanswer⟩
    exact ⟨hsame.limits, by rw [hafter], hanswer⟩

/-- The soft limit is raised once, and a second time the system refuses. -/
theorem bookkeeping_refused : ∃ state : Supervised, History ⟨1024, 4096⟩ state ∧
    state.asked = [(⟨1024, 4096⟩, ⟨2048, 4096⟩), (⟨2048, 4096⟩, ⟨4096, 4096⟩)] ∧
    state.host.limits = ⟨2048, 4096⟩ ∧ state.host.recordedLimits = some ⟨2048, 4096⟩ ∧
    1024 ≤ 4096 ∧ 4096 ≤ Limits.unlimited ∧ Bookkeeping ⟨1024, 4096⟩ state := by
  have hstarted : History ⟨1024, 4096⟩ ⟨{ faults := [⟨.setLimits, 1, 1⟩] }, []⟩ :=
    .started _ rfl rfl
  have hraised := History.ensured 0 1020 hstarted rfl
  have hrefused := History.ensured 0 2040 hraised rfl
  have hle : 1024 ≤ 4096 := by decide
  have hbound : 4096 ≤ Limits.unlimited := by decide
  exact ⟨_, hrefused, rfl, rfl, rfl, hle, hbound, bookkeeping hrefused hle hbound⟩

end Supervised

end TypedChannel
