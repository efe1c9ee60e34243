import TypedChannel.World
/-!
# TypedChannel.Proofs.Clock

The time of a world, and what is left of a deadline as it goes on.

1. What is left of a timeout is the timeout without the time that has passed,
   and nothing once that is longer (`Deadline.remaining_starting`).
2. A deadline that is too far away to be told leaves no timeout at all.
3. A step of an operation that is given what is left of a deadline makes a
   deadline of its own from that.  It upholds the first one
   (`Deadline.Upholds.restart`): both leave the same time from then on.
-/

namespace TypedChannel

/-- The time of a world in nanoseconds.  It does not go back while one looks at it, and what one
sees is the time between. -/
structure Clock (ω : Type) [World ω] where
  now : ω → Nat
  look : ∀ world, now world ≤ (World.look world).1.nanos ∧
    (World.look world).1.nanos ≤ now (World.look world).2

/-- A clock that stands still while one looks at it and while the log is told of an event. -/
structure StillClock (ω : Type) [World ω] extends Clock ω where
  look_still : ∀ world, now (World.look world).2 = now world
  note_still : ∀ event world, now (World.note event world) = now world

namespace Deadline

variable {start seen : Instant} {t : Duration}

theorem starting_of_told (htold : start.after? t ≠ none) :
    starting start (some t) = ⟨some ⟨start.nanos + t.nanos⟩⟩ := by
  unfold Instant.after? at htold
  by_cases hlimit : start.nanos + t.nanos < Instant.limit
  · show (⟨start.after? t⟩ : Deadline) = _
    rw [Instant.after?, if_pos hlimit]
  · rw [if_neg hlimit] at htold
    contradiction

theorem starting_of_untold (huntold : start.after? t = none) : starting start (some t) = ⟨none⟩ :=
  congrArg Deadline.mk huntold

/-- What is left of a timeout is what has not passed of it. -/
theorem remaining_starting (htold : start.after? t ≠ none) (hseen : start.nanos ≤ seen.nanos) :
    (starting start (some t)).remaining seen =
      some ⟨t.nanos - (seen.nanos - start.nanos)⟩ := by
  have hleft : start.nanos + t.nanos - seen.nanos = t.nanos - (seen.nanos - start.nanos) := by
    omega
  rw [starting_of_told htold]
  exact congrArg (fun left => some (Duration.mk left)) hleft

/-- No time is left only behind the end of the timeout. -/
theorem over_of_remaining (h : (starting start (some t)).remaining seen = some .zero) :
    start.nanos + t.nanos ≤ seen.nanos := by
  by_cases htold : start.after? t = none
  · rw [starting_of_untold htold] at h
    contradiction
  · rw [starting_of_told htold] at h
    have hzero : start.nanos + t.nanos - seen.nanos = 0 :=
      congrArg Duration.nanos (Option.some.inj h)
    exact Nat.le_of_sub_eq_zero hzero

theorem remaining_of_untold {deadline : Deadline} (h : deadline.at? = none) :
    deadline.remaining seen = none := by
  unfold remaining
  rw [h]
  rfl

/-! ### Deadlines made from what is left of others -/

theorem lt_limit_of_starting {timeout : Option Duration} {point : Instant}
    (h : (starting start timeout).at? = some point) : point.nanos < Instant.limit := by
  obtain ⟨t, -, hafter⟩ := Option.bind_eq_some_iff.mp h
  unfold Instant.after? at hafter
  split at hafter
  · next hlimit =>
      cases hafter
      exact hlimit
  · contradiction

/-- The deadline `part` of a step that begins at `since` leaves the same time as the deadline
`whole` of all of it.  If there is an end at all, that is said of the points that can be told. -/
structure Upholds (part : Deadline) (since : Instant) (whole : Deadline) : Prop where
  told : ∀ point, part.at? = some point → point.nanos < Instant.limit
  remaining_eq : ∀ seen : Instant, since.nanos ≤ seen.nanos →
    (whole.at? ≠ none → seen.nanos < Instant.limit) → part.remaining seen = whole.remaining seen

namespace Upholds

variable {since now : Instant} {whole part : Deadline}

theorem starting (start : Instant) (timeout : Option Duration) :
    (Deadline.starting start timeout).Upholds start (Deadline.starting start timeout) where
  told _ h := lt_limit_of_starting h
  remaining_eq _ _ _ := rfl

/-- What is left of a deadline makes one that leaves the same.  Once it has passed, that is one
without any time left, and later there is none left either. -/
theorem restart (h : part.Upholds since whole) (hle : since.nanos ≤ now.nanos) :
    (Deadline.starting now (part.remaining now)).Upholds now whole where
  told _ := lt_limit_of_starting
  remaining_eq seen hseen hlimit := by
    rw [← h.remaining_eq seen (Nat.le_trans hle hseen) hlimit]
    obtain ⟨⟨⟩ | point⟩ := part
    · rfl
    · have hwhole : whole.at? ≠ none := by
        intro hnone
        have hleft := h.remaining_eq seen (Nat.le_trans hle hseen) (absurd hnone)
        rw [remaining_of_untold hnone] at hleft
        contradiction
      have hnow : seen.nanos < Instant.limit := hlimit hwhole
      have hpoint : point.nanos < Instant.limit := h.told point rfl
      have htold : now.after? (point.since now) ≠ none := by
        unfold Instant.after? Instant.since
        rw [if_pos (by dsimp only; omega)]
        nofun
      have hleft : point.nanos - now.nanos - (seen.nanos - now.nanos) =
          point.nanos - seen.nanos := by omega
      refine (remaining_starting htold hseen).trans ?_
      exact congrArg (fun left => some (Duration.mk left)) hleft

end Upholds

/-- An operation that starts now with this timeout has the deadline `whole` for its own. -/
def Grants (whole : Deadline) (now : Instant) (timeout : Option Duration) : Prop :=
  (starting now timeout).Upholds now whole

theorem grants_starting (now : Instant) (timeout : Option Duration) :
    (starting now timeout).Grants now timeout :=
  Upholds.starting now timeout

theorem Upholds.grants {since now : Instant} {whole part : Deadline}
    (h : part.Upholds since whole) (hle : since.nanos ≤ now.nanos) :
    whole.Grants now (part.remaining now) :=
  h.restart hle

end Deadline

/-! ## Looking at a clock that stands still -/

namespace StillClock

variable {ω : Type} [World ω] (clock : StillClock ω) (world : ω)

theorem look_eq : (World.look world).1 = ⟨clock.now world⟩ := by
  obtain ⟨hbefore, hafter⟩ := clock.look world
  rw [clock.look_still] at hafter
  exact congrArg Instant.mk (Nat.le_antisymm hafter hbefore)

theorem startNow_eq (timeout : Option Duration) :
    (Deadline.startNow timeout world).1 = Deadline.starting ⟨clock.now world⟩ timeout := by
  cases timeout with
  | none => rfl
  | some t => exact congrArg (Deadline.starting · (some t)) (clock.look_eq world)

theorem now_startNow (timeout : Option Duration) :
    clock.now (Deadline.startNow timeout world).2 = clock.now world := by
  cases timeout with
  | none => rfl
  | some t => exact clock.look_still world

theorem remainingNow_eq (deadline : Deadline) :
    (deadline.remainingNow world).1 = deadline.remaining ⟨clock.now world⟩ := by
  obtain ⟨⟨⟩ | point⟩ := deadline
  · rfl
  · exact congrArg (Deadline.remaining ⟨some point⟩) (clock.look_eq world)

theorem now_remainingNow (deadline : Deadline) :
    clock.now (deadline.remainingNow world).2 = clock.now world := by
  obtain ⟨⟨⟩ | point⟩ := deadline
  · rfl
  · exact clock.look_still world

end StillClock

end TypedChannel
