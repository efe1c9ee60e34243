import Mathlib.Logic.Relation
import TypedChannel.Proofs.Diagnostics.Sinks
import TypedChannel.Scenario.Handles
/-!
# TypedChannel.Proofs.Diagnostics.Families

What handles share, said of the steps alone.

A log lists the steps that were done, the last one first.  From it one can tell,
without the store, which handles there are (`made`), which of them are connected
by cloning (`Akin`), which sink each of them holds (`held`) and which lines went
to a sink (`linesTo`).  What the store says is just that:

* two handles share their error slot if and only if they are akin
  (`slot_eq_iff_akin`), and the slot holds the last word of the family
  (`lastError_eq`);
* the sink of a handle is the one it was given or has from the handle it was
  cloned from (`sink_eq_held`);
* a sink has got the lines of the handles that held it at the time, in order
  (`sinks_eq`).
-/

namespace TypedChannel.Scenario

open Diagnostics

/-! ## Logs -/

namespace HandleStep

/-- The handle that a step names. -/
def target? : HandleStep → Option Nat
  | clone a | setTrace a _ | trace a _ | isTraced a | record a _ | lastError a | clear a
    | describe a => some a
  | create | createTraced _ | recordDirect _ _ | describeSink _ => none

/-- Whether a step makes a handle. -/
def makes : HandleStep → Bool
  | create | createTraced _ | clone _ => true
  | _ => false

/-- The sink that a step brings, as it is from then on. -/
def sink? : HandleStep → Option Sink
  | createTraced sink | setTrace _ sink | describeSink sink => some sink
  | recordDirect sink line => some (sink.record line).2
  | _ => none

/-- What a step puts into the slot of its handle, if that is one of these. -/
def word (among : Nat → Prop) [DecidablePred among] : HandleStep → Option (Option String)
  | record a message => if among a then some (some message) else none
  | clear a => if among a then some none else none
  | _ => none

end HandleStep

variable {log later earlier : List HandleStep} {step : HandleStep} {a b number : Nat}
  {sink : Sink}

/-- How many handles were made. -/
def made (log : List HandleStep) : Nat := log.countP HandleStep.makes

/-- Every step names only handles that were there. -/
def Proper : List HandleStep → Prop
  | [] => True
  | step :: earlier => (∀ a, step.target? = some a → a < made earlier) ∧ Proper earlier

/-- The sinks that were brought, the first one first. -/
def brought : List HandleStep → List Sink
  | [] => []
  | step :: earlier => brought earlier ++ step.sink?.toList

/-- The number of the sink that a handle holds. -/
def held : List HandleStep → Nat → Option Nat
  | [], _ => none
  | .createTraced _ :: earlier, a =>
    if a = made earlier then some (brought earlier).length else held earlier a
  | .clone b :: earlier, a => if a = made earlier then held earlier b else held earlier a
  | .setTrace b _ :: earlier, a => if a = b then some (brought earlier).length else held earlier a
  | _ :: earlier, a => held earlier a

/-- The lines that were traced by handles that held this sink then, the first one first. -/
def linesTo (number : Nat) : List HandleStep → List String
  | [] => []
  | .trace a line :: earlier =>
    if held earlier a = some number then linesTo number earlier ++ [line]
    else linesTo number earlier
  | _ :: earlier => linesTo number earlier

/-- Handle `b` was made as a clone of handle `a`. -/
def Cloned (log : List HandleStep) (a b : Nat) : Prop :=
  ∃ later earlier, log = later ++ .clone a :: earlier ∧ b = made earlier

/-- The same, in the later of two parts of a log. -/
def ClonedSince (earlier later : List HandleStep) (a b : Nat) : Prop :=
  ∃ newer older, later = newer ++ .clone a :: older ∧ b = made (older ++ earlier)

/-- Handles that are connected by cloning. -/
def Akin (log : List HandleStep) : Nat → Nat → Prop := Relation.EqvGen (Cloned log)

/-- The handles and the store after the steps of a log. -/
def Handles.after : List HandleStep → Handles
  | [] => {}
  | step :: earlier => ((after earlier).step step).2

/-! ## Steps -/

namespace Handles

theorem play_append (handles : Handles) (steps more : List HandleStep) :
    (handles.play (steps ++ more)).2 = ((handles.play steps).2.play more).2 := by
  induction steps generalizing handles with
  | nil => rfl
  | cons step steps ih => exact ih (handles.step step).2

theorem play_reverse (log : List HandleStep) :
    (({} : Handles).play log.reverse).2 = after log := by
  induction log with
  | nil => rfl
  | cons step earlier ih =>
      rw [List.reverse_cons, play_append, ih]
      rfl

/-- The handle that a step makes. -/
def product (handles : Handles) : HandleStep → Option Diagnostics.Handle
  | .create => some handles.store.create.1
  | .createTraced sink => some (handles.store.createTraced sink).1
  | .clone a => some (handles.get a)
  | _ => none

/-- The handles after a step: one of them may have a new sink, and one may be new. -/
theorem step_handles (handles : Handles) (step : HandleStep) :
    (handles.step step).2.handles = (match step with
      | .setTrace a _ => handles.handles.set a
          { handles.get a with sink := some handles.store.sinks.length }
      | _ => handles.handles) ++ (handles.product step).toList := by
  cases step <;> simp [step, add, product, Store.setTrace, addSink]

theorem length_after (log : List HandleStep) : (after log).handles.length = made log := by
  induction log with
  | nil => rfl
  | cons step earlier ih =>
      rw [after, step_handles, made, List.countP_cons, ← made, ← ih]
      cases step <;> simp [product, HandleStep.makes]

/-- A handle that is there stays as it is, unless it is given a new sink. -/
theorem get_cons (step : HandleStep) (ha : a < made log) :
    (after (step :: log)).get a = (match step with
      | .setTrace b _ => if a = b then
          { (after log).get a with sink := some (after log).store.sinks.length }
        else (after log).get a
      | _ => (after log).get a) := by
  rw [← length_after] at ha
  simp only [get, List.getD_eq_getElem?_getD]
  rw [after, step_handles, List.getElem?_append_left (by cases step <;> simpa using ha)]
  cases step with
  | setTrace b sink =>
      by_cases hb : a = b
      · subst hb
        simp [ha, get]
      · have hne : b ≠ a := fun h => hb h.symm
        simp [hb, hne]
  | _ => rfl

/-- A handle that is new is what its step has made. -/
theorem get_made {handle : Diagnostics.Handle} (h : (after log).product step = some handle) :
    (after (step :: log)).get (made log) = handle := by
  unfold get
  rw [after, step_handles, h, ← length_after, List.getD_eq_getElem?_getD]
  cases step <;> simp [product] at h ⊢

/-- Its slot it keeps. -/
theorem slot_cons (step : HandleStep) (ha : a < made log) :
    ((after (step :: log)).get a).slot = ((after log).get a).slot := by
  rw [get_cons step ha]
  cases step with
  | setTrace b sink => dsimp only; split <;> rfl
  | _ => rfl

theorem slot_append (later : List HandleStep) (ha : a < made log) :
    ((after (later ++ log)).get a).slot = ((after log).get a).slot := by
  induction later with
  | nil => rfl
  | cons step later ih =>
      have hmade : a < made (later ++ log) := by
        unfold made at ha ⊢
        rw [List.countP_append]
        omega
      rw [List.cons_append, slot_cons step hmade, ih]

theorem step_slots (handles : Handles) (step : HandleStep) :
    (handles.step step).2.store.slots = (match step with
      | .create | .createTraced _ => handles.store.slots ++ [[]]
      | .record a message => handles.store.slots.modify (handles.get a).slot (some message :: ·)
      | .clear a => handles.store.slots.modify (handles.get a).slot (none :: ·)
      | _ => handles.store.slots) := by
  cases step with
  | trace a line => exact Store.trace_slots line (handles.get a) handles.store
  | _ => rfl

theorem step_sinks (handles : Handles) (step : HandleStep) :
    (handles.step step).2.store.sinks = (match step with
      | .trace a line => (Store.trace line (handles.get a) handles.store).2.sinks
      | _ => handles.store.sinks) ++ step.sink?.toList := by
  cases step <;>
    simp [step, add, addSink, HandleStep.sink?, Store.setTrace, Store.create, Store.createTraced,
      Store.recordError, Store.clearError, Store.give]

theorem length_sinks (log : List HandleStep) :
    (after log).store.sinks.length = (brought log).length := by
  induction log with
  | nil => rfl
  | cons step earlier ih =>
      rw [after, step_sinks, brought, List.length_append, List.length_append, ← ih]
      cases step with
      | trace a line =>
          dsimp only
          unfold Store.trace
          split
          · rfl
          · split <;> simp
      | _ => rfl

end Handles

/-! ## Proper logs -/

theorem made_le_append (later earlier : List HandleStep) :
    made earlier ≤ made (later ++ earlier) := by
  unfold made
  rw [List.countP_append]
  omega

theorem Proper.of_append (h : Proper (later ++ earlier)) : Proper earlier := by
  induction later with
  | nil => exact h
  | cons step later ih => exact ih h.2

theorem Proper.lt_made (h : Proper log) (hstep : step ∈ log) (ha : step.target? = some a) :
    a < made log := by
  obtain ⟨later, earlier, rfl⟩ := List.append_of_mem hstep
  have hnamed := (h.of_append).1 a ha
  have hle := made_le_append (later ++ [step]) earlier
  rw [List.append_assoc, List.singleton_append] at hle
  omega

/-- A handle that is there after a step was there before, or the step has made it. -/
theorem lt_made_cons (ha : a < made (step :: log)) :
    a < made log ∨ a = made log ∧ step.makes = true := by
  unfold made at ha ⊢
  rw [List.countP_cons] at ha
  by_cases hmakes : step.makes = true
  · rw [if_pos hmakes] at ha
    have hle : a < log.countP HandleStep.makes ∨ a = log.countP HandleStep.makes := by omega
    exact hle.imp_right fun hnew => ⟨hnew, hmakes⟩
  · rw [if_neg hmakes] at ha
    exact .inl ha

/-! ## Slots -/

/-- The slot of a handle. -/
def slotOf (log : List HandleStep) (a : Nat) : Nat := ((Handles.after log).get a).slot

theorem slotOf_cons (step : HandleStep) (ha : a < made log) :
    slotOf (step :: log) a = slotOf log a := Handles.slot_cons step ha

theorem slotOf_clone (log : List HandleStep) (a : Nat) :
    slotOf (.clone a :: log) (made log) = slotOf log a := by
  unfold slotOf
  rw [Handles.get_made rfl]

/-- A handle of a new family has a new slot. -/
theorem slotOf_made (hstep : step = .create ∨ ∃ sink, step = .createTraced sink) :
    slotOf (step :: log) (made log) = (Handles.after log).store.slots.length := by
  unfold slotOf
  obtain rfl | ⟨sink, rfl⟩ := hstep
  · rw [Handles.get_made rfl]
    rfl
  · rw [Handles.get_made rfl]
    rfl

theorem length_slots_le (log : List HandleStep) (step : HandleStep) :
    (Handles.after log).store.slots.length ≤ (Handles.after (step :: log)).store.slots.length := by
  rw [Handles.after, Handles.step_slots]
  cases step <;> simp

theorem slotOf_lt (h : Proper log) (ha : a < made log) :
    slotOf log a < (Handles.after log).store.slots.length := by
  induction log generalizing a with
  | nil => simp [made] at ha
  | cons step earlier ih =>
      have hle := length_slots_le earlier step
      obtain hold | ⟨rfl, hmakes⟩ := lt_made_cons ha
      · rw [slotOf_cons step hold]
        exact Nat.lt_of_lt_of_le (ih h.2 hold) hle
      · cases step with
        | create | createTraced sink =>
            rw [slotOf_made (by simp), Handles.after, Handles.step_slots]
            simp
        | clone b =>
            rw [slotOf_clone]
            exact Nat.lt_of_lt_of_le (ih h.2 (h.1 b rfl)) hle
        | _ => contradiction

/-! ## Families -/

theorem Akin.cons (step : HandleStep) (h : Akin log a b) : Akin (step :: log) a b := by
  refine Relation.EqvGen.mono (fun a b hclone => ?_) _ _ h
  obtain ⟨later, earlier, rfl, hb⟩ := hclone
  exact ⟨step :: later, earlier, rfl, hb⟩

theorem akin_clone (log : List HandleStep) (a : Nat) : Akin (.clone a :: log) a (made log) :=
  .rel _ _ ⟨[], log, rfl, rfl⟩

theorem slotOf_append (later : List HandleStep) (ha : a < made log) :
    slotOf (later ++ log) a = slotOf log a := Handles.slot_append later ha

/-- A clone has the slot of the handle it was made from. -/
theorem slotOf_of_cloned (h : Proper log) (hclone : Cloned log a b) :
    slotOf log a = slotOf log b := by
  obtain ⟨later, earlier, rfl, rfl⟩ := hclone
  have hthere := (h.of_append).1 a rfl
  have hnew : made earlier < made (.clone a :: earlier) := by
    rw [made, made, List.countP_cons_of_pos rfl]
    exact Nat.lt_succ_self _
  rw [slotOf_append later hnew, slotOf_clone, slotOf_append later (by omega), slotOf_cons _ hthere]

theorem slotOf_of_akin (h : Proper log) (hakin : Akin log a b) : slotOf log a = slotOf log b := by
  induction hakin with
  | rel a b hclone => exact slotOf_of_cloned h hclone
  | refl a => rfl
  | symm a b _ ih => exact ih.symm
  | trans a b c _ _ ih ih' => exact ih.trans ih'

/-- Handles share their slot if and only if they are connected by cloning. -/
theorem slot_eq_iff_akin (h : Proper log) (ha : a < made log) (hb : b < made log) :
    slotOf log a = slotOf log b ↔ Akin log a b := by
  refine ⟨fun hsame => ?_, slotOf_of_akin h⟩
  induction log generalizing a b with
  | nil => simp [made] at ha
  | cons step earlier ih =>
      -- What a new handle shares its slot with is what it was cloned from.
      have hnew : ∀ {c}, c < made earlier → step.makes = true →
          slotOf (step :: earlier) c = slotOf (step :: earlier) (made earlier) →
          Akin (step :: earlier) c (made earlier) := by
        intro c hc hmakes hsame
        have hslot := slotOf_lt h.2 hc
        rw [slotOf_cons step hc] at hsame
        cases step with
        | create | createTraced sink =>
            rw [slotOf_made (by simp)] at hsame
            omega
        | clone d =>
            rw [slotOf_clone] at hsame
            exact ((ih h.2 hc (h.1 d rfl) hsame).cons _).trans _ _ _ (akin_clone earlier d)
        | _ => contradiction
      obtain hold | ⟨rfl, hmakes⟩ := lt_made_cons ha
      · obtain hold' | ⟨rfl, hmakes⟩ := lt_made_cons hb
        · rw [slotOf_cons step hold, slotOf_cons step hold'] at hsame
          exact (ih h.2 hold hold' hsame).cons step
        · exact hnew hold hmakes hsame
      · obtain hold' | ⟨rfl, -⟩ := lt_made_cons hb
        · exact (hnew hold' hmakes hsame.symm).symm _ _
        · exact .refl _

/-! ## Last words -/

theorem HandleStep.word_congr {among among' : Nat → Prop} [DecidablePred among]
    [DecidablePred among'] (hsame : ∀ a, step.target? = some a → (among a ↔ among' a)) :
    step.word among = step.word among' := by
  cases step with
  | record a message | clear a => simp only [word, hsame a rfl]
  | _ => rfl

theorem words_congr (h : Proper log) {among among' : Nat → Prop} [DecidablePred among]
    [DecidablePred among'] (hsame : ∀ a < made log, among a ↔ among' a) :
    log.findSome? (HandleStep.word among) = log.findSome? (HandleStep.word among') := by
  induction log with
  | nil => rfl
  | cons step earlier ih =>
      have hle := made_le_append [step] earlier
      have hstep := HandleStep.word_congr fun a ha => hsame a (Nat.lt_of_lt_of_le (h.1 a ha) hle)
      rw [List.findSome?_cons, List.findSome?_cons, hstep,
        ih h.2 fun a ha => hsame a (Nat.lt_of_lt_of_le ha hle)]

/-- The newest entry of a slot is the last word of the handles that have it. -/
theorem slots_eq (h : Proper log) (slot : Nat) :
    ((Handles.after log).store.slots[slot]?).bind List.head? =
      log.findSome? (HandleStep.word fun a => slotOf log a = slot) := by
  induction log with
  | nil => rfl
  | cons step earlier ih =>
      have hearlier : earlier.findSome? (HandleStep.word fun a => slotOf (step :: earlier) a = slot)
          = ((Handles.after earlier).store.slots[slot]?).bind List.head? := by
        rw [ih h.2]
        refine words_congr h.2 fun a ha => ?_
        rw [slotOf_cons step ha]
      -- Of the steps only two put something into a slot, and only into that of their handle.
      have hgiven : ∀ (a : Nat) (text : Option String), a < made earlier →
          (((Handles.after earlier).store.slots.modify ((Handles.after earlier).get a).slot
            (text :: ·))[slot]?).bind List.head? =
          if slotOf earlier a = slot then some text
          else ((Handles.after earlier).store.slots[slot]?).bind List.head? := by
        intro a text ha
        have hlt := slotOf_lt h.2 ha
        rw [List.getElem?_modify]
        unfold slotOf at hlt ⊢
        by_cases hslot : ((Handles.after earlier).get a).slot = slot
        · subst hslot
          simp [List.getElem?_eq_getElem hlt]
        · simp [hslot]
      rw [List.findSome?_cons, hearlier, Handles.after, Handles.step_slots]
      cases step with
      | create | createTraced sink =>
          show (((Handles.after earlier).store.slots ++ [[]])[slot]?).bind List.head? = _
          by_cases hslot : slot < (Handles.after earlier).store.slots.length
          · rw [List.getElem?_append_left hslot]
            rfl
          · rw [Nat.not_lt] at hslot
            have hnone := List.getElem?_eq_none hslot
            rw [List.getElem?_append_right hslot, hnone]
            cases slot - (Handles.after earlier).store.slots.length <;> rfl
      | record a message | clear a =>
          have ha := h.1 a rfl
          dsimp only
          rw [hgiven a _ ha, HandleStep.word, slotOf_cons _ ha]
          by_cases hslot : slotOf earlier a = slot <;> simp [hslot]
      | _ => rfl

theorem lastError_eq (h : Proper log) (a : Nat) :
    (Handles.after log).store.lastError ((Handles.after log).get a) =
      (log.findSome? (HandleStep.word fun b => slotOf log b = slotOf log a)).join := by
  rw [← slots_eq h]
  rfl

/-- A step by which a family says something: it records an error or clears it. -/
def Speaks (log : List HandleStep) (a : Nat) (step : HandleStep) : Prop :=
  ∃ b, Akin log a b ∧ (step = .clear b ∨ ∃ message, step = .record b message)

section Word

variable {among : Nat → Prop} [DecidablePred among] {message : String}

theorem word_eq_record :
    step.word among = some (some message) ↔ ∃ b, among b ∧ step = .record b message := by
  cases step <;> grind [HandleStep.word]

theorem word_eq_clear : step.word among = some none ↔ ∃ b, among b ∧ step = .clear b := by
  cases step <;> grind [HandleStep.word]

theorem word_eq_none : step.word among = none ↔
    ∀ b, among b → step ≠ .clear b ∧ ∀ message, step ≠ .record b message := by
  cases step <;> grind [HandleStep.word]

end Word

/-- The handles of a slot and those of a family are the same ones. -/
theorem Proper.akin_iff (h : Proper log) (ha : a < made log) (hstep : step ∈ log)
    (hb : step.target? = some b) : slotOf log b = slotOf log a ↔ Akin log a b := by
  rw [eq_comm]
  exact slot_eq_iff_akin h ha (h.lt_made hstep hb)

theorem word_eq_none_iff_not_speaks (h : Proper log) (ha : a < made log) (hstep : step ∈ log) :
    step.word (fun b => slotOf log b = slotOf log a) = none ↔ ¬ Speaks log a step := by
  rw [word_eq_none]
  constructor
  · rintro hnone ⟨b, hakin, hword⟩
    obtain ⟨hclear, hrecord⟩ := hnone b (slotOf_of_akin h hakin).symm
    obtain hword | ⟨message, hword⟩ := hword
    · exact hclear hword
    · exact hrecord message hword
  · intro hsilent b hslot
    constructor
    · rintro rfl
      exact hsilent ⟨b, (h.akin_iff ha hstep rfl).mp hslot, .inl rfl⟩
    · rintro message rfl
      exact hsilent ⟨b, (h.akin_iff ha hstep rfl).mp hslot, .inr ⟨message, rfl⟩⟩

/-- The error of a handle is the last one that was recorded for its family, if nothing was said
after it. -/
theorem lastError_eq_some (h : Proper log) (ha : a < made log) (message : String) :
    (Handles.after log).store.lastError ((Handles.after log).get a) = some message ↔
      ∃ later b earlier, log = later ++ .record b message :: earlier ∧ Akin log a b ∧
        ∀ step ∈ later, ¬ Speaks log a step := by
  rw [lastError_eq h, Option.join_eq_some_iff, List.findSome?_eq_some_iff]
  constructor
  · rintro ⟨later, step, earlier, hlog, hword, hlater⟩
    obtain ⟨b, hslot, rfl⟩ := word_eq_record.mp hword
    have hmem : .record b message ∈ log := by simp [hlog]
    refine ⟨later, b, earlier, hlog, (h.akin_iff ha hmem rfl).mp hslot, fun step hstep => ?_⟩
    rw [← word_eq_none_iff_not_speaks h ha (by simp [hlog, hstep])]
    exact hlater step hstep
  · rintro ⟨later, b, earlier, hlog, hakin, hlater⟩
    refine ⟨later, .record b message, earlier, hlog, ?_, fun step hstep => ?_⟩
    · exact word_eq_record.mpr ⟨b, (slotOf_of_akin h hakin).symm, rfl⟩
    · rw [word_eq_none_iff_not_speaks h ha (by simp [hlog, hstep])]
      exact hlater step hstep

/-- A handle has no error if every one that was recorded for its family was cleared later, on
whichever of its handles. -/
theorem lastError_eq_none (h : Proper log) (ha : a < made log) :
    (Handles.after log).store.lastError ((Handles.after log).get a) = none ↔
      ∀ later b message earlier, log = later ++ .record b message :: earlier → Akin log a b →
        ∃ c, Akin log a c ∧ .clear c ∈ later := by
  constructor
  · intro hnone later b message earlier hlog hakin
    have hword : (HandleStep.record b message).word (fun c => slotOf log c = slotOf log a) =
        some (some message) := word_eq_record.mpr ⟨b, (slotOf_of_akin h hakin).symm, rfl⟩
    have hfind : ∀ f : HandleStep → Option (Option String),
        f (.record b message) = some (some message) →
        log.findSome? f = (later.findSome? f).or (some (some message)) := by
      intro f hf
      rw [hlog, List.findSome?_append, List.findSome?_cons, hf]
    rw [lastError_eq h, hfind _ hword] at hnone
    cases hlater : later.findSome? (HandleStep.word fun c => slotOf log c = slotOf log a) with
    | none => simp [hlater] at hnone
    | some text =>
        have htext : text = none := by simpa [hlater] using hnone
        subst htext
        obtain ⟨step, hstep, hclear⟩ := List.exists_of_findSome?_eq_some hlater
        obtain ⟨c, hslot, rfl⟩ := word_eq_clear.mp hclear
        have hmem : .clear c ∈ log := by simp [hlog, hstep]
        exact ⟨c, (h.akin_iff ha hmem rfl).mp hslot, hstep⟩
  · intro hcleared
    cases hlast : (Handles.after log).store.lastError ((Handles.after log).get a) with
    | none => rfl
    | some message =>
        obtain ⟨later, b, earlier, hlog, hakin, hsilent⟩ :=
          (lastError_eq_some h ha message).mp hlast
        obtain ⟨c, hc, hclear⟩ := hcleared later b message earlier hlog hakin
        exact absurd ⟨c, hc, .inl rfl⟩ (hsilent _ hclear)

/-! ## Sinks -/

theorem brought_length_le (later earlier : List HandleStep) :
    (brought earlier).length ≤ (brought (later ++ earlier)).length := by
  induction later with
  | nil => exact Nat.le_refl _
  | cons step later ih =>
      rw [List.cons_append, brought, List.length_append]
      omega

theorem held_lt (hheld : held log a = some number) : number < (brought log).length := by
  induction log generalizing a with
  | nil => simp [held] at hheld
  | cons step earlier ih =>
      have hle := brought_length_le [step] earlier
      rw [List.singleton_append] at hle
      cases step with
      | createTraced sink | setTrace b sink =>
          rw [held] at hheld
          rw [brought, List.length_append]
          split at hheld
          · cases hheld
            exact Nat.lt_succ_self _
          · have := ih hheld
            omega
      | clone b =>
          rw [held] at hheld
          split at hheld
          · exact Nat.lt_of_lt_of_le (ih hheld) hle
          · exact Nat.lt_of_lt_of_le (ih hheld) hle
      | _ => exact Nat.lt_of_lt_of_le (ih hheld) hle

theorem held_of_le (h : Proper log) (ha : made log ≤ a) : held log a = none := by
  induction log generalizing a with
  | nil => rfl
  | cons step earlier ih =>
      have hle := made_le_append [step] earlier
      rw [List.singleton_append] at hle
      have hrest := @ih a h.2 (by omega)
      cases step with
      | createTraced sink | clone b =>
          have hnew : made earlier < a := by
            rw [made, List.countP_cons_of_pos rfl] at ha
            exact ha
          rw [held, if_neg (by omega), hrest]
      | setTrace b sink =>
          have hb := h.1 b rfl
          rw [held, if_neg (by omega), hrest]
      | _ => exact hrest

/-- A handle holds the sink that it was given last, or that the handle had from which it was
cloned. -/
theorem sink_eq_held (h : Proper log) (ha : a < made log) :
    ((Handles.after log).get a).sink = held log a := by
  induction log generalizing a with
  | nil => simp [made] at ha
  | cons step earlier ih =>
      obtain hold | ⟨rfl, hmakes⟩ := lt_made_cons ha
      · have hne : a ≠ made earlier := by omega
        have hsame := ih h.2 hold
        rw [Handles.get_cons step hold]
        cases step with
        | createTraced sink | clone b => rw [held, if_neg hne, ← hsame]
        | setTrace b sink =>
            by_cases hb : a = b
            · simp only [held, if_pos hb, Handles.length_sinks]
            · simp only [held, if_neg hb, hsame]
        | _ => exact hsame
      · cases step with
        | create =>
            rw [Handles.get_made rfl]
            exact (held_of_le h.2 (Nat.le_refl _)).symm
        | createTraced sink =>
            rw [Handles.get_made rfl, held, if_pos rfl, ← Handles.length_sinks]
            rfl
        | clone b => rw [Handles.get_made rfl, held, if_pos rfl, ih h.2 (h.1 b rfl)]
        | _ => contradiction

/-- Of all handles those that hold the sink that one of them was given are that one and the clones
that come from it afterwards. -/
theorem heirs (hheld : held (later ++ .setTrace a sink :: earlier) b =
      some (brought earlier).length) :
    Relation.ReflTransGen (ClonedSince (.setTrace a sink :: earlier) later) a b := by
  induction later generalizing b with
  | nil =>
      rw [List.nil_append, held] at hheld
      split at hheld
      · subst b
        exact .refl
      · exact absurd (held_lt hheld) (Nat.lt_irrefl _)
  | cons step later ih =>
      have hmono : ∀ {c},
          held (later ++ .setTrace a sink :: earlier) c = some (brought earlier).length →
          Relation.ReflTransGen (ClonedSince (.setTrace a sink :: earlier) (step :: later))
            a c := by
        intro c hc
        refine Relation.ReflTransGen.mono (fun c d hclone => ?_) _ _ (ih hc)
        obtain ⟨newer, older, rfl, hd⟩ := hclone
        exact ⟨step :: newer, older, rfl, hd⟩
      have hmore : (brought earlier).length <
          (brought (later ++ .setTrace a sink :: earlier)).length := by
        have hle := brought_length_le later (.setTrace a sink :: earlier)
        rw [brought, List.length_append] at hle
        exact hle
      rw [List.cons_append] at hheld
      cases step with
      | createTraced other | setTrace c other =>
          rw [held] at hheld
          split at hheld
          · simp only [Option.some.injEq] at hheld
            omega
          · exact hmono hheld
      | clone c =>
          rw [held] at hheld
          split at hheld
          · exact (hmono hheld).tail ⟨[], later, rfl, by assumption⟩
          · exact hmono hheld
      | _ => exact hmono hheld

/-- A sink after these lines. -/
def hear (lines : List String) (sink : Sink) : Sink :=
  lines.foldl (fun sink line => (sink.record line).2) sink

/-- A sink keeps every line in full, unless its writes fail: then it keeps none. -/
theorem hear_eq (lines : List String) (sink : Sink) : hear lines sink =
    if sink.fault = some .write then sink
    else { sink with text := sink.text ++ String.join lines } := by
  induction lines generalizing sink with
  | nil => simp [hear]
  | cons line lines ih =>
      show hear lines (sink.record line).2 = _
      rw [Sink.record_eq]
      by_cases hfault : sink.fault = some .write
      · rw [if_pos hfault, ih, if_pos hfault, if_pos hfault]
      · rw [if_neg hfault, ih, if_neg hfault, if_neg hfault]
        simp [String.append_assoc]

theorem hear_snoc (lines : List String) (line : String) (sink : Sink) :
    hear (lines ++ [line]) sink = ((hear lines sink).record line).2 := by
  simp [hear]

theorem linesTo_eq_nil (hnumber : (brought log).length ≤ number) : linesTo number log = [] := by
  induction log with
  | nil => rfl
  | cons step earlier ih =>
      have hle := brought_length_le [step] earlier
      rw [List.singleton_append] at hle
      have hrest := ih (by omega)
      cases step with
      | trace a line =>
          have hnone : held earlier a ≠ some number := by
            intro hheld
            have := held_lt hheld
            omega
          rw [linesTo, if_neg hnone, hrest]
      | _ => exact hrest

/-- A sink has heard the lines that were traced by the handles that held it then, and no others. -/
theorem sinks_eq (h : Proper log) (number : Nat) :
    (Handles.after log).store.sinks[number]? =
      (brought log)[number]?.map (hear (linesTo number log)) := by
  induction log with
  | nil => rfl
  | cons step earlier ih =>
      have hlength := Handles.length_sinks earlier
      rw [Handles.after, Handles.step_sinks, brought]
      cases step with
      | trace a line =>
          have ha := h.1 a rfl
          have hsink := sink_eq_held h.2 ha
          simp only [HandleStep.sink?, Option.toList_none, List.append_nil]
          rw [Store.trace_sinks, hsink, linesTo, ih h.2]
          by_cases hheld : held earlier a = some number
          · simp only [if_pos hheld, Option.map_map]
            congr 1
            funext sink
            exact (hear_snoc _ line sink).symm
          · rw [if_neg hheld, if_neg hheld]
      | _ =>
          show ((Handles.after earlier).store.sinks ++ _)[number]? =
            ((brought earlier ++ _)[number]?).map (hear (linesTo number earlier))
          by_cases hnumber : number < (brought earlier).length
          · rw [List.getElem?_append_left (hlength ▸ hnumber), List.getElem?_append_left hnumber]
            exact ih h.2
          · rw [Nat.not_lt] at hnumber
            rw [List.getElem?_append_right (hlength ▸ hnumber), List.getElem?_append_right hnumber,
              hlength, linesTo_eq_nil hnumber]
            exact Option.map_id'.symm

/-! ## Every log -/

/-- What the handles and the store show after the steps of a log. -/
structure Sharing (log : List HandleStep) (handles : Handles) : Prop where
  count : handles.handles.length = made log
  /-- A handle has the error that was recorded last for its family, if nothing was said after it. -/
  recorded : ∀ a < made log, ∀ message,
    handles.store.lastError (handles.get a) = some message ↔
      ∃ later b earlier, log = later ++ .record b message :: earlier ∧ Akin log a b ∧
        ∀ step ∈ later, ¬ Speaks log a step
  /-- It has none if each one that was recorded for its family was cleared later. -/
  cleared : ∀ a < made log, handles.store.lastError (handles.get a) = none ↔
    ∀ later b message earlier, log = later ++ .record b message :: earlier → Akin log a b →
      ∃ c, Akin log a c ∧ .clear c ∈ later
  /-- To give a handle a new sink changes no other handle, no slot, and nobody's last error. -/
  apart : ∀ a < made log, ∀ sink,
    (handles.step (.setTrace a sink)).2.store.slots = handles.store.slots ∧
      ∀ b < made log,
        (b ≠ a → (handles.step (.setTrace a sink)).2.get b = handles.get b) ∧
        (handles.step (.setTrace a sink)).2.store.lastError
            ((handles.step (.setTrace a sink)).2.get b) =
          handles.store.lastError (handles.get b)
  /-- Whoever holds that sink later is that handle, or a clone that comes from it since then. -/
  heirs : ∀ later a sink earlier b, log = later ++ .setTrace a sink :: earlier → b < made log →
    (handles.get b).sink = some (brought earlier).length →
      Relation.ReflTransGen (ClonedSince (.setTrace a sink :: earlier) later) a b
  /-- Each handle holds the sink that it was given last, or that it has from where it was cloned. -/
  sink : ∀ a < made log, (handles.get a).sink = held log a
  /-- Each sink has exactly the lines of the handles that held it when they were traced. -/
  heard : handles.store.sinks.length = (brought log).length ∧
    ∀ (number : Nat) (sink : Sink), (brought log)[number]? = some sink →
      handles.store.sinks[number]? = some (if sink.fault = some .write then sink
        else { sink with text := sink.text ++ String.join (linesTo number log) })

/-- Whatever is done with handles, in whatever order, they share what they should. -/
theorem handles_sharing (log : List HandleStep) (h : Proper log) :
    Sharing log (({} : Handles).play log.reverse).2 := by
  rw [Handles.play_reverse]
  refine ⟨Handles.length_after log, fun a ha => lastError_eq_some h ha,
    fun a ha => lastError_eq_none h ha, fun a ha sink => ?_, ?_, fun a ha => sink_eq_held h ha, ?_⟩
  · have hslots := Handles.step_slots (Handles.after log) (.setTrace a sink)
    refine ⟨hslots, fun b hb => ⟨fun hne => ?_, ?_⟩⟩
    · have hsame := Handles.get_cons (.setTrace a sink) hb
      simp only [if_neg hne] at hsame
      exact hsame
    · have hslot := Handles.slot_cons (.setTrace a sink) hb
      unfold Store.lastError
      rw [hslots]
      exact congrArg (fun slot => (((Handles.after log).store.slots[slot]?).bind List.head?).join)
        hslot
  · rintro later a sink earlier b rfl hb hsink
    rw [sink_eq_held h hb] at hsink
    exact heirs hsink
  · refine ⟨Handles.length_sinks log, fun number sink hsink => ?_⟩
    rw [sinks_eq h, hsink, Option.map_some, hear_eq]

/-- A handle with a sink, its clone, and a handle of its own; the clone is given another sink and
cloned in turn. -/
def twoFamilies : List HandleStep :=
  [.trace 3 "c\n", .clear 2, .clone 1, .record 1 "lost", .trace 1 "b\n", .trace 0 "a\n",
    .setTrace 1 (.empty none), .create, .clone 0, .createTraced (.empty none)]

/-- The first handle shows the error of its clone, and each sink has the lines of those that share
it. -/
theorem handles_sharing_twoFamilies :
    Proper twoFamilies ∧ Sharing twoFamilies (({} : Handles).play twoFamilies.reverse).2 ∧
      made twoFamilies = 4 ∧ held twoFamilies 3 = some 1 ∧
      linesTo 0 twoFamilies = ["a\n"] ∧ linesTo 1 twoFamilies = ["b\n", "c\n"] := by
  have hproper : Proper twoFamilies := by
    simp [Proper, twoFamilies, HandleStep.target?, made, HandleStep.makes, List.countP_cons]
  exact ⟨hproper, handles_sharing twoFamilies hproper, by decide, by decide, by decide, by decide⟩

end TypedChannel.Scenario
