import TypedChannel.Proofs.Action
import TypedChannel.Proofs.Clock
import TypedChannel.Readiness
/-!
# TypedChannel.Proofs.Readiness

How long a wait has lasted when it has found nothing.

1. The last poll of a wait is given what is left of the timeout in whole
   milliseconds, and no more than one poll can wait: a rest below a millisecond
   is cut off unless it is all that is left (`wait_ensures`).  So a wait may end
   up to a millisecond early, and ends in time if no more was cut off than the
   timeout has itself (`Lasted`).
2. A timeout whose deadline is too far away to be told is one of no time at all
   (`wait_untold`).
-/

namespace TypedChannel.Readiness

open TypedChannel.Action

variable {ω : Type} [World ω] {t : Duration} {elapsed : Nat} {world : ω}
  {poll : Nat → Action ω IoError PollResult}

/-- Whether a poll that finds nothing lasts for as many milliseconds as it was given. -/
def KeepsTime (clock : Clock ω) (poll : Nat → Action ω IoError PollResult) : Prop :=
  ∀ millis world, (poll millis).Ensures world fun result after =>
    clock.now world ≤ clock.now after ∧
      (result = .ok .idle → clock.now world + millis * 1000000 ≤ clock.now after)

/-- What a wait for `t` lasts at least when it finds nothing: some time until its last poll, and
as long as what is left makes that last. -/
def Lasted (t : Duration) (elapsed : Nat) : Prop :=
  ∃ spent, spent + pollMillis ⟨t.nanos - spent⟩ * 1000000 ≤ elapsed ∧
    (t.millis ≤ maxPollMillis → t.nanos < elapsed + 1000000 ∧
      (spent % 1000000 ≤ t.nanos % 1000000 → t.millis * 1000000 ≤ elapsed))

/-- A poll is given all but the last fraction of a millisecond, and all of less than one. -/
theorem pollMillis_ge {left : Nat} (h : left / 1000000 ≤ maxPollMillis) :
    left / 1000000 ≤ pollMillis ⟨left⟩ ∧ (left < 1000000 → left ≤ pollMillis ⟨left⟩ * 1000000) := by
  unfold maxPollMillis at h
  unfold pollMillis Duration.millis maxPollMillis
  simp only [Bool.and_eq_true, decide_eq_true_eq, bne_iff_ne]
  split <;> omega

theorem lasted_of_polled {spent : Nat}
    (h : spent + pollMillis ⟨t.nanos - spent⟩ * 1000000 ≤ elapsed) : Lasted t elapsed := by
  refine ⟨spent, h, fun hshort => ?_⟩
  have hless : (t.nanos - spent) / 1000000 ≤ maxPollMillis :=
    Nat.le_trans (Nat.div_le_div_right (Nat.sub_le t.nanos spent)) hshort
  obtain ⟨hwhole, hrest⟩ := pollMillis_ge hless
  unfold Duration.millis
  generalize pollMillis ⟨t.nanos - spent⟩ = polled at h hwhole hrest
  refine ⟨by omega, fun hcut => ?_⟩
  by_cases hshortRest : t.nanos - spent < 1000000
  · have hall := hrest hshortRest
    omega
  · omega

/-- What is left at a later look, and from there a poll that finds nothing. -/
theorem lasted_of_idle {start seen began ended : Nat} (hstart : began ≤ start)
    (hseen : start ≤ seen)
    (hidle : seen + pollMillis ⟨t.nanos - (seen - start)⟩ * 1000000 ≤ ended) :
    Lasted t (ended - began) := by
  have hpolled : seen - start + pollMillis ⟨t.nanos - (seen - start)⟩ * 1000000 ≤
      ended - began := by omega
  exact lasted_of_polled hpolled

/-- However often a wait is interrupted, it ends no earlier than this. -/
theorem wait_ensures (clock : Clock ω) (hpoll : KeepsTime clock poll)
    (htold : (World.look world).1.after? t ≠ none) :
    (wait poll (some t)).Ensures world fun result after =>
      result = .ok false → Lasted t (clock.now after - clock.now world) := by
  obtain ⟨hbegan, hstarted⟩ := clock.look world
  refine ensures_step_bind (ensures_iterate (fun _ between =>
    (World.look world).1.nanos ≤ clock.now between) hstarted fun _ between hbetween => ?_)
  show (waitRound poll (Deadline.starting (World.look world).1 (some t)) ()).Ensures between _
  generalize (World.look world).1 = start at htold hbegan hbetween ⊢
  obtain ⟨hearlier, hlater⟩ := clock.look between
  have hseen : start.nanos ≤ (World.look between).1.nanos := Nat.le_trans hbetween hearlier
  have hleft : (Deadline.starting start (some t)).remainingNow between =
      (some ⟨t.nanos - ((World.look between).1.nanos - start.nanos)⟩, (World.look between).2) := by
    rw [← Deadline.remaining_starting htold hseen, Deadline.starting_of_told htold]
    rfl
  refine ensures_step_bind ?_
  rw [hleft]
  refine (hpoll _ _).attempt_bind fun result after hpolled => ?_
  obtain ⟨hforward, hidle⟩ := hpolled
  dsimp only [Option.getD_some] at hforward hidle
  have hstill : start.nanos ≤ clock.now after := by omega
  cases result with
  | error e =>
      dsimp only
      split
      · exact ensures_pure hstill
      · exact ensures_fail (fun h => nomatch h)
  | ok found =>
      cases found with
      | ready => exact ensures_pure fun h => nomatch h
      | invalid => exact ensures_fail fun h => nomatch h
      | idle =>
          refine ensures_pure fun _ => lasted_of_idle hbegan hseen ?_
          have hended := hidle rfl
          omega

/-- With a timeout whose deadline cannot be told every poll is one of no time. -/
theorem wait_untold (huntold : (World.look world).1.after? t = none) (patience : Nat) :
    wait poll (some t) patience world = wait (fun _ => poll 0) (some t) patience world := by
  have hround : waitRound poll ⟨none⟩ = waitRound (fun _ => poll 0) ⟨none⟩ := rfl
  have hstart : Deadline.startNow (some t) world = (⟨none⟩, (World.look world).2) :=
    congrArg (·, (World.look world).2) (Deadline.starting_of_untold huntold)
  show (iterate (waitRound poll (Deadline.startNow (some t) world).1) ()) patience
      (Deadline.startNow (some t) world).2 =
    (iterate (waitRound (fun _ => poll 0) (Deadline.startNow (some t) world).1) ()) patience
      (Deadline.startNow (some t) world).2
  rw [hstart, hround]

end TypedChannel.Readiness
