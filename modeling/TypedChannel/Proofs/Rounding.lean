import TypedChannel.Proofs.Host.Waiting
/-!
# TypedChannel.Proofs.Rounding

A duration in the whole milliseconds of a poll.

1. The milliseconds of a poll are none only for no time at all, grow with the
   duration, and are never more than one poll can wait for.
2. Up to there they are as few as the duration fits in (`Duration.ceilMillis`),
   if it is less than a millisecond or has no fraction of one.  A fraction
   behind whole milliseconds is left out (`Duration.LeavesOut`), so a poll may
   be given one millisecond less.
3. A round of a wait that finds nothing ends less than a millisecond before its
   deadline, and not before it unless such a fraction was left out
   (`waitRound_ensures`).
-/

namespace TypedChannel

open TypedChannel.Action

/-! ## Whole milliseconds -/

namespace Duration

/-- The fewest whole milliseconds that a duration fits in. -/
def ceilMillis (d : Duration) : Nat := (d.nanos + 999999) / 1000000

/-- Whether whole milliseconds come with a fraction of another one. -/
def LeavesOut (d : Duration) : Prop := 1000000 ≤ d.nanos ∧ d.nanos % 1000000 ≠ 0

instance (d : Duration) : Decidable d.LeavesOut := inferInstanceAs (Decidable (_ ∧ _))

variable {d longer : Duration} {n : Nat}

/-- This is what makes them the fewest. -/
theorem ceilMillis_le : d.ceilMillis ≤ n ↔ d.nanos ≤ n * 1000000 := by
  unfold ceilMillis
  omega

theorem millis_mono (h : d.nanos ≤ longer.nanos) : d.millis ≤ longer.millis :=
  Nat.div_le_div_right h

theorem ceilMillis_of_leavesOut (h : d.LeavesOut) : d.ceilMillis = d.millis + 1 := by
  obtain ⟨-, hrest⟩ := h
  unfold ceilMillis millis
  omega

theorem eq_zero_iff : d = .zero ↔ d.nanos = 0 := by
  constructor
  · rintro rfl
    rfl
  · exact fun h => congrArg Duration.mk h

end Duration

/-! ## The milliseconds of a poll -/

namespace Readiness

variable {d longer : Duration}

/-- All whole milliseconds, and one for less. -/
theorem pollMillis_eq_max (d : Duration) :
    pollMillis d = min (max d.millis (min d.nanos 1)) maxPollMillis := by
  unfold pollMillis Duration.millis
  simp only [Bool.and_eq_true, decide_eq_true_eq, bne_iff_ne]
  congr 1
  split <;> omega

theorem pollMillis_mono (h : d.nanos ≤ longer.nanos) : pollMillis d ≤ pollMillis longer := by
  have hmillis := Duration.millis_mono h
  rw [pollMillis_eq_max, pollMillis_eq_max]
  unfold maxPollMillis
  omega

theorem pollMillis_eq_zero : pollMillis d = 0 ↔ d = .zero := by
  rw [Duration.eq_zero_iff, pollMillis_eq_max]
  unfold Duration.millis maxPollMillis
  omega

/-- Only the fraction behind whole milliseconds is left out. -/
theorem pollMillis_eq_ceilMillis (h : ¬ d.LeavesOut) :
    pollMillis d = min d.ceilMillis maxPollMillis := by
  rw [pollMillis_eq_max]
  unfold Duration.LeavesOut at h
  unfold Duration.ceilMillis Duration.millis
  congr 1
  omega

theorem pollMillis_of_leavesOut (h : d.LeavesOut) : pollMillis d = min d.millis maxPollMillis := by
  rw [pollMillis_eq_max]
  unfold Duration.LeavesOut at h
  unfold Duration.millis
  congr 1
  omega

/-- So it is the fewest that `d` fits in, unless a fraction is left out below the cap. -/
theorem pollMillis_eq_ceilMillis_iff :
    pollMillis d = min d.ceilMillis maxPollMillis ↔ ¬(d.LeavesOut ∧ d.millis < maxPollMillis) := by
  by_cases h : d.LeavesOut
  · rw [pollMillis_of_leavesOut h, Duration.ceilMillis_of_leavesOut h]
    constructor
    · rintro heq ⟨-, hless⟩
      omega
    · intro hcap
      have hmost : maxPollMillis ≤ d.millis := Nat.le_of_not_lt fun hless => hcap ⟨h, hless⟩
      omega
  · exact ⟨fun _ hcut => h hcut.1, fun _ => pollMillis_eq_ceilMillis h⟩

/-- How much of `d` a poll is given, if it can wait for as long. -/
theorem nanos_le_pollMillis (hmax : d.nanos ≤ maxPollMillis * 1000000) :
    d.nanos < pollMillis d * 1000000 + 1000000 ∧
      (d.nanos ≤ pollMillis d * 1000000 ↔ ¬ d.LeavesOut) := by
  have hfits : d.ceilMillis ≤ maxPollMillis := Duration.ceilMillis_le.mpr hmax
  by_cases h : d.LeavesOut
  · have hmore := Duration.ceilMillis_of_leavesOut h
    have hgiven : pollMillis d = d.millis := by
      rw [pollMillis_of_leavesOut h]
      omega
    rw [← Duration.ceilMillis_le, hgiven]
    exact ⟨Nat.lt_div_mul_add (by decide), by omega, fun hnot => absurd h hnot⟩
  · have hgiven : pollMillis d = d.ceilMillis := by
      rw [pollMillis_eq_ceilMillis h]
      omega
    rw [hgiven]
    have hall : d.nanos ≤ d.ceilMillis * 1000000 := Duration.ceilMillis_le.mp (Nat.le_refl _)
    exact ⟨Nat.lt_of_le_of_lt hall (Nat.lt_add_of_pos_right (by decide)), fun _ => h, fun _ => hall⟩

/-! ## A poll that finds nothing -/

section Wait

variable {ω : Type} [World ω] {poll : Nat → Action ω IoError PollResult}

/-- How far a deadline is used up when a round that had `left` of it found nothing. -/
def UsedUp (point : Instant) (left : Duration) (now : Nat) : Prop :=
  point.nanos < now + 1000000 ∧ (¬ left.LeavesOut → point.nanos ≤ now)

theorem usedUp_of_polled {point seen : Instant} {now : Nat}
    (hmax : (point.since seen).nanos ≤ maxPollMillis * 1000000)
    (hpolled : seen.nanos + pollMillis (point.since seen) * 1000000 ≤ now) :
    UsedUp point (point.since seen) now := by
  obtain ⟨hshort, hall⟩ := nanos_le_pollMillis hmax
  have hleft : point.nanos ≤ seen.nanos + (point.since seen).nanos := by
    show point.nanos ≤ seen.nanos + (point.nanos - seen.nanos)
    omega
  refine ⟨by omega, fun hwhole => ?_⟩
  have hgiven := hall.mpr hwhole
  omega

/-- A round of a wait that ends it without anything found. -/
theorem waitRound_ensures (clock : Clock ω) (hpoll : KeepsTime clock poll) (point : Instant)
    (world : ω)
    (hmax : (point.since (World.look world).1).nanos ≤ maxPollMillis * 1000000) :
    (waitRound poll ⟨some point⟩ ()).Ensures world fun result after =>
      result = .ok (.done false) →
        UsedUp point (point.since (World.look world).1) (clock.now after) := by
  obtain ⟨-, hseen⟩ := clock.look world
  refine ensures_step_bind ((hpoll _ _).attempt_bind fun result after hpolled => ?_)
  obtain ⟨-, hidle⟩ := hpolled
  cases result with
  | error e =>
      dsimp only
      split
      · exact ensures_pure nofun
      · exact ensures_fail nofun
  | ok found =>
      cases found with
      | ready => exact ensures_pure nofun
      | invalid => exact ensures_fail nofun
      | idle =>
          refine ensures_pure fun _ => usedUp_of_polled hmax ?_
          exact Nat.le_trans (Nat.add_le_add_right hseen _) (hidle rfl)

/-- How a duration becomes the milliseconds of a poll: none only for no time, more for more time,
and up to what one poll can wait for the fewest that the duration fits in, except that a fraction
behind whole milliseconds is left out.  So a poll that finds nothing has used up what was left of a
deadline but for less than a millisecond, and all of it if nothing was left out. -/
theorem pollMillis_rounding (clock : Clock ω) (hpoll : KeepsTime clock poll) (d : Duration) :
    (pollMillis d = 0 ↔ d = .zero) ∧
    (∀ longer : Duration, d.nanos ≤ longer.nanos → pollMillis d ≤ pollMillis longer) ∧
    pollMillis d = min (if d.LeavesOut then d.millis else d.ceilMillis) maxPollMillis ∧
    (pollMillis d = min d.ceilMillis maxPollMillis ↔
      ¬(d.LeavesOut ∧ d.millis < maxPollMillis)) ∧
    (d.nanos ≤ maxPollMillis * 1000000 →
      d.nanos < pollMillis d * 1000000 + 1000000 ∧
      (d.nanos ≤ pollMillis d * 1000000 ↔ ¬ d.LeavesOut) ∧
      ∀ (point : Instant) (world : ω), point.since (World.look world).1 = d →
        (waitRound poll ⟨some point⟩ ()).Ensures world fun result after =>
          result = .ok (.done false) → UsedUp point d (clock.now after)) := by
  refine ⟨pollMillis_eq_zero, fun longer => pollMillis_mono, ?_, pollMillis_eq_ceilMillis_iff,
    fun hmax => ?_⟩
  · by_cases h : d.LeavesOut
    · rw [if_pos h, pollMillis_of_leavesOut h]
    · rw [if_neg h, pollMillis_eq_ceilMillis h]
  · obtain ⟨hshort, hall⟩ := nanos_le_pollMillis hmax
    refine ⟨hshort, hall, ?_⟩
    rintro point world rfl
    exact waitRound_ensures clock hpoll point world hmax

end Wait

/-- Two milliseconds are polled for as two. -/
theorem pollMillis_rounding_two :
    KeepsTime Host.hostClock.toClock (HostWorld.poll fun _ => false) ∧
    pollMillis (.ofMillis 2) = 2 ∧ (Duration.ofMillis 2).nanos ≤ 2 * 1000000 := by
  have hpoll := Host.hostClock.poll_keepsTime fun _ => false
  obtain ⟨-, -, hmillis, -, hpolled⟩ := pollMillis_rounding _ hpoll (.ofMillis 2)
  obtain ⟨-, hall, -⟩ := hpolled (by decide)
  have htwo : pollMillis (.ofMillis 2) = 2 := hmillis.trans (by decide)
  exact ⟨hpoll, htwo, htwo ▸ hall.mpr (by decide)⟩

/-- A millisecond and a half is polled for as one, though it fits in no less than two. -/
theorem pollMillis_oneAndHalf :
    pollMillis ⟨1500000⟩ = 1 ∧ (⟨1500000⟩ : Duration).ceilMillis = 2 ∧
      pollMillis ⟨1500000⟩ * 1000000 < 1500000 := by
  decide

end Readiness

end TypedChannel
