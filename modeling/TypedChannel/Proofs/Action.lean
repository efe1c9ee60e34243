import TypedChannel.Action
/-!
# TypedChannel.Proofs.Action

Ways to speak of a run of an action.

1. `Ensures x state post`: however `x` ends from `state`, and with whatever
   patience, the result and the state after it satisfy `post`.  A run that
   gives up ends with nothing, so it satisfies every `post`.
2. `Returns x state result after`: with enough patience `x` does end, with this
   result and this state.
3. `Settles x state post`: with whatever patience `x` does end, and the result
   and the state after it satisfy `post`.
4. `Diverges x state`: with however much patience, `x` does not end.
5. `Obeys R x`: from every state `x` ends in one that `R` relates to it.  For
   an `R` that survives sequencing (`Composes`) this is closed under every
   construct of an action, loops included, so it needs to be checked only of
   the actions that do something.

Each construct has one rule for each of them; the loop rules carry the only
inductions over rounds.
-/

namespace TypedChannel

/-- The error of a result, if it is one. -/
def failure? {ε α : Type} : Except ε α → Option ε
  | .ok _ => none
  | .error e => some e

@[simp] theorem failure?_ok {ε α : Type} (a : α) : failure? (.ok a : Except ε α) = none := rfl

@[simp] theorem failure?_error {ε α : Type} (e : ε) :
    failure? (.error e : Except ε α) = some e := rfl

theorem failure?_eq_some {ε α : Type} {result : Except ε α} {e : ε} :
    failure? result = some e ↔ result = .error e := by
  cases result <;> simp

theorem failure?_eq_none {ε : Type} {result : Except ε Unit} :
    failure? result = none ↔ result = .ok () := by
  cases result <;> simp

namespace Action

variable {s t ε ε' α β γ : Type} {state after : s}

theorem bind_bind (x : Action s ε α) (f : α → Action s ε β) (g : β → Action s ε γ) :
    (x >>= f) >>= g = x >>= fun a => f a >>= g := by
  funext patience state
  show andThen (andThen x f) g patience state = andThen x (fun a => andThen (f a) g) patience state
  unfold andThen
  cases x patience state with
  | none => rfl
  | some p => obtain ⟨_ | _, _⟩ := p <;> rfl

theorem bind_pure (x : Action s ε α) : (x >>= fun a => pure a) = x := by
  funext patience state
  show andThen x answer patience state = x patience state
  unfold andThen
  cases x patience state with
  | none => rfl
  | some p => obtain ⟨_ | _, _⟩ := p <;> rfl

/-! ## One run -/

section Run

variable {x : Action s ε α} {f : α → Action s ε β} {patience : Nat}

theorem run_bind_error {e : ε} (h : x patience state = some (.error e, after)) :
    (x >>= f) patience state = some (.error e, after) := by
  show andThen x f patience state = _
  unfold andThen
  rw [h]

end Run

/-! ## What every run ensures -/

/-- However `x` ends from `state`, the result and the state after it satisfy `post`. -/
def Ensures (x : Action s ε α) (state : s) (post : Except ε α → s → Prop) : Prop :=
  ∀ patience result after, x patience state = some (result, after) → post result after

theorem Ensures.mono {x : Action s ε α} {post weaker : Except ε α → s → Prop}
    (hx : x.Ensures state post) (h : ∀ result after, post result after → weaker result after) :
    x.Ensures state weaker :=
  fun patience result after hrun => h _ _ (hx patience result after hrun)

/-- Every run that ends is one. -/
theorem ensures_run (x : Action s ε α) (state : s) : x.Ensures state fun result after =>
    ∃ patience, x patience state = some (result, after) :=
  fun patience _ _ hrun => ⟨patience, hrun⟩

theorem ensures_true (x : Action s ε α) (state : s) : x.Ensures state fun _ _ => True :=
  fun _ _ _ _ => trivial

theorem ensures_pure {a : α} {post : Except ε α → s → Prop} (h : post (.ok a) state) :
    (pure a : Action s ε α).Ensures state post := by
  intro patience result after hrun
  cases hrun
  exact h

theorem ensures_fail {e : ε} {post : Except ε α → s → Prop} (h : post (.error e) state) :
    (Action.fail e : Action s ε α).Ensures state post := by
  intro patience result after hrun
  cases hrun
  exact h

/-- Sequencing: what `x` ensures is where `f` starts, unless `x` has failed. -/
theorem Ensures.bind {x : Action s ε α} {f : α → Action s ε β} {mid : Except ε α → s → Prop}
    {post : Except ε β → s → Prop} (hx : x.Ensures state mid)
    (hok : ∀ a after, mid (.ok a) after → (f a).Ensures after post)
    (herr : ∀ e after, mid (.error e) after → post (.error e) after) :
    (x >>= f).Ensures state post := by
  intro patience result after hrun
  change andThen x f patience state = _ at hrun
  unfold andThen at hrun
  cases hmid : x patience state with
  | none => rw [hmid] at hrun; contradiction
  | some p =>
      obtain ⟨r, between⟩ := p
      rw [hmid] at hrun
      have hr := hx patience r between hmid
      cases r with
      | ok a => exact hok a between hr patience result after hrun
      | error e => cases hrun; exact herr e after hr

theorem Ensures.attempt {x : Action s ε α} {post : Except ε' (Except ε α) → s → Prop}
    (hx : x.Ensures state fun result after => post (.ok result) after) :
    (Action.attempt x : Action s ε' (Except ε α)).Ensures state post := by
  intro patience result after hrun
  obtain ⟨⟨r, between⟩, hx', heq⟩ := Option.map_eq_some_iff.mp hrun
  cases heq
  exact hx patience r after hx'

/-- Handling a failure: `f` goes on from every end of `x`. -/
theorem Ensures.attempt_bind {x : Action s ε α} {f : Except ε α → Action s ε' β}
    {mid : Except ε α → s → Prop} {post : Except ε' β → s → Prop} (hx : x.Ensures state mid)
    (hf : ∀ result after, mid result after → (f result).Ensures after post) :
    (Action.attempt x >>= f).Ensures state post := by
  intro patience result after hrun
  change andThen (Action.attempt x) f patience state = _ at hrun
  unfold andThen Action.attempt at hrun
  cases hmid : x patience state with
  | none => rw [hmid] at hrun; contradiction
  | some p =>
      obtain ⟨r, between⟩ := p
      rw [hmid] at hrun
      exact hf r between (hx patience r between hmid) patience result after hrun

theorem Ensures.on {part : s → t} {put : t → s → s} {x : Action t ε α}
    {post : Except ε α → s → Prop}
    (hx : x.Ensures (part state) fun result inner => post result (put inner state)) :
    (x.on part put).Ensures state post := by
  intro patience result after hrun
  obtain ⟨⟨r, inner⟩, hx', heq⟩ := Option.map_eq_some_iff.mp hrun
  cases heq
  exact hx patience result inner hx'

theorem Ensures.mapError {f : ε → ε'} {x : Action s ε α} {post : Except ε' α → s → Prop}
    (hx : x.Ensures state fun result after => post (result.mapError f) after) :
    (x.mapError f).Ensures state post := by
  intro patience result after hrun
  obtain ⟨⟨r, between⟩, hx', heq⟩ := Option.map_eq_some_iff.mp hrun
  cases heq
  exact hx patience r after hx'

/-- A failure is undone before it is handed on. -/
theorem Ensures.undoing {undo : s → s} {x : Action s ε α} {post : Except ε α → s → Prop}
    (hx : x.Ensures state fun result after => match result with
      | .ok a => post (.ok a) after
      | .error e => post (.error e) (undo after)) :
    (x.undoing undo).Ensures state post := by
  intro patience result after hrun
  obtain ⟨⟨r, between⟩, hx', heq⟩ := Option.map_eq_some_iff.mp hrun
  have hend := hx patience r between hx'
  cases r with
  | ok a | error e =>
      cases heq
      exact hend

/-! Looking at the state and changing it cannot fail, so what follows starts from there. -/

theorem ensures_see_bind {g : s → α} {f : α → Action s ε β} {post : Except ε β → s → Prop}
    (h : (f (g state)).Ensures state post) : (see g >>= f).Ensures state post := h

theorem ensures_change_bind {g : s → s} {f : Unit → Action s ε β} {post : Except ε β → s → Prop}
    (h : (f ()).Ensures (g state) post) : (change g >>= f).Ensures state post := h

theorem ensures_step_bind {g : s → α × s} {f : α → Action s ε β} {post : Except ε β → s → Prop}
    (h : (f (g state).1).Ensures (g state).2 post) : (step g >>= f).Ensures state post := h

theorem ensures_see {f : s → α} {post : Except ε α → s → Prop} (h : post (.ok (f state)) state) :
    (see f : Action s ε α).Ensures state post := ensures_pure h

theorem ensures_change {f : s → s} {post : Except ε Unit → s → Prop}
    (h : post (.ok ()) (f state)) : (change f : Action s ε Unit).Ensures state post := by
  intro patience result after hrun
  cases hrun
  exact h

theorem ensures_step {f : s → α × s} {post : Except ε α → s → Prop}
    (h : post (.ok (f state).1) (f state).2) : (step f : Action s ε α).Ensures state post := by
  intro patience result after hrun
  cases hrun
  exact h

/-- What every round hands on to the next holds at the start of each of them.  The induction is
on the rounds that are left, while the patience with each of them stays. -/
theorem rounds_ensures {body : β → Action s ε (Round β α)} {post : Except ε α → s → Prop}
    (inv : β → s → Prop)
    (hbody : ∀ b between, inv b between → (body b).Ensures between fun result after =>
      match result with
      | .ok (.again next) => inv next after
      | .ok (.done a) => post (.ok a) after
      | .error e => post (.error e) after)
    {patience limit : Nat} {start : β} {result : Except ε α} (hstart : inv start state)
    (hrun : rounds body patience limit start state = some (result, after)) : post result after := by
  induction limit generalizing start state with
  | zero => simp [rounds] at hrun
  | succ limit ih =>
      rw [rounds] at hrun
      cases hround : body start patience state with
      | none => rw [hround] at hrun; contradiction
      | some p =>
          obtain ⟨r, between⟩ := p
          have hr := hbody start state hstart patience r between hround
          rw [hround] at hrun
          cases r with
          | error e => cases hrun; exact hr
          | ok round =>
              cases round with
              | again next => exact ih hr hrun
              | done a => cases hrun; exact hr

/-- A loop ensures what its last round does, given what the rounds hand on. -/
theorem ensures_iterate {body : β → Action s ε (Round β α)} {start : β}
    {post : Except ε α → s → Prop} (inv : β → s → Prop) (hstart : inv start state)
    (hbody : ∀ b between, inv b between → (body b).Ensures between fun result after =>
      match result with
      | .ok (.again next) => inv next after
      | .ok (.done a) => post (.ok a) after
      | .error e => post (.error e) after) :
    (iterate body start).Ensures state post :=
  fun _ _ _ hrun => rounds_ensures inv hbody hstart hrun

/-! ## Runs that end -/

/-- With enough patience `x` ends from `state` with `result` in the state `after`. -/
def Returns (x : Action s ε α) (state : s) (result : Except ε α) (after : s) : Prop :=
  ∃ enough, ∀ patience, enough ≤ patience → x patience state = some (result, after)

/-- The patience can be counted from the least that is needed. -/
theorem returns_of_run {x : Action s ε α} {result : Except ε α} (enough : Nat)
    (h : ∀ more, x (more + enough) state = some (result, after)) :
    x.Returns state result after := by
  refine ⟨enough, fun patience hle => ?_⟩
  obtain ⟨more, rfl⟩ := Nat.exists_eq_add_of_le' hle
  exact h more

theorem returns_pure (a : α) : (pure a : Action s ε α).Returns state (.ok a) state :=
  ⟨0, fun _ _ => rfl⟩

theorem returns_fail (e : ε) : (Action.fail e : Action s ε α).Returns state (.error e) state :=
  ⟨0, fun _ _ => rfl⟩

theorem returns_see (f : s → α) : (see f : Action s ε α).Returns state (.ok (f state)) state :=
  ⟨0, fun _ _ => rfl⟩

theorem returns_change (f : s → s) :
    (change f : Action s ε Unit).Returns state (.ok ()) (f state) :=
  ⟨0, fun _ _ => rfl⟩

theorem returns_step (f : s → α × s) :
    (step f : Action s ε α).Returns state (.ok (f state).1) (f state).2 :=
  ⟨0, fun _ _ => rfl⟩

theorem Returns.bind {x : Action s ε α} {f : α → Action s ε β} {a : α} {between : s}
    {result : Except ε β} (hx : x.Returns state (.ok a) between)
    (hf : (f a).Returns between result after) : (x >>= f).Returns state result after := by
  obtain ⟨n, hn⟩ := hx
  obtain ⟨m, hm⟩ := hf
  refine ⟨max n m, fun patience hle => ?_⟩
  change andThen x f patience state = _
  unfold andThen
  rw [hn patience (by omega)]
  exact hm patience (by omega)

/-- What has failed is not gone on with. -/
theorem Returns.bind_error {x : Action s ε α} {f : α → Action s ε β} {e : ε}
    (hx : x.Returns state (.error e) after) : (x >>= f).Returns state (.error e) after := by
  obtain ⟨n, hn⟩ := hx
  refine ⟨n, fun patience hle => ?_⟩
  change andThen x f patience state = _
  unfold andThen
  rw [hn patience hle]

theorem Returns.attempt {x : Action s ε α} {result : Except ε α}
    (hx : x.Returns state result after) :
    (Action.attempt x : Action s ε' (Except ε α)).Returns state (.ok result) after := by
  obtain ⟨n, hn⟩ := hx
  refine ⟨n, fun patience hle => ?_⟩
  unfold Action.attempt
  rw [hn patience hle]
  rfl

theorem Returns.on {part : s → t} {put : t → s → s} {x : Action t ε α} {result : Except ε α}
    {inner : t} (hx : x.Returns (part state) result inner) :
    (x.on part put).Returns state result (put inner state) := by
  obtain ⟨n, hn⟩ := hx
  refine ⟨n, fun patience hle => ?_⟩
  unfold Action.on
  rw [hn patience hle]
  rfl

/-- What every run ensures, the run that ends does. -/
theorem Ensures.of_returns {x : Action s ε α} {post : Except ε α → s → Prop} {result : Except ε α}
    (hx : x.Ensures state post) (h : x.Returns state result after) : post result after := by
  obtain ⟨n, hn⟩ := h
  exact hx n _ _ (hn n (Nat.le_refl n))

/-- There is only one way for an action to end. -/
theorem Returns.unique {x : Action s ε α} {result other : Except ε α} {last : s}
    (h : x.Returns state result after) (h' : x.Returns state other last) :
    result = other ∧ after = last := by
  obtain ⟨n, hn⟩ := h
  obtain ⟨m, hm⟩ := h'
  have hrun := hn (max n m) (Nat.le_max_left ..)
  rw [hm (max n m) (Nat.le_max_right ..)] at hrun
  cases hrun
  exact ⟨rfl, rfl⟩

/-- The rounds of a loop that ends with `result`. -/
inductive Loops (body : β → Action s ε (Round β α)) : β → s → Except ε α → s → Prop
  | done {b : β} {state after : s} {a : α} (h : (body b).Returns state (.ok (.done a)) after) :
      Loops body b state (.ok a) after
  | failed {b : β} {state after : s} {e : ε} (h : (body b).Returns state (.error e) after) :
      Loops body b state (.error e) after
  | again {b next : β} {state between after : s} {result : Except ε α}
      (h : (body b).Returns state (.ok (.again next)) between)
      (rest : Loops body next between result after) : Loops body b state result after

theorem Loops.rounds_eq {body : β → Action s ε (Round β α)} {start : β} {result : Except ε α}
    (h : Loops body start state result after) :
    ∃ enough, ∀ patience limit, enough ≤ patience → enough ≤ limit →
      rounds body patience limit start state = some (result, after) := by
  induction h with
  | done h | failed h =>
      obtain ⟨n, hn⟩ := h
      refine ⟨n + 1, fun patience limit hp hl => ?_⟩
      obtain ⟨limit, rfl⟩ : ∃ k, limit = k + 1 := ⟨limit - 1, by omega⟩
      rw [rounds, hn patience (by omega)]
  | again h rest ih =>
      obtain ⟨n, hn⟩ := h
      obtain ⟨m, hm⟩ := ih
      refine ⟨max n m + 1, fun patience limit hp hl => ?_⟩
      obtain ⟨limit, rfl⟩ : ∃ k, limit = k + 1 := ⟨limit - 1, by omega⟩
      rw [rounds, hn patience (by omega)]
      exact hm patience limit (by omega) (by omega)

theorem Loops.returns {body : β → Action s ε (Round β α)} {start : β} {result : Except ε α}
    (h : Loops body start state result after) :
    (iterate body start).Returns state result after := by
  obtain ⟨n, hn⟩ := h.rounds_eq
  exact ⟨n, fun patience hle => hn patience patience hle hle⟩

/-! ## Runs that come to an end -/

/-- With enough patience `x` ends from `state`, and the result and the state after it satisfy
`post`. -/
def Completes (x : Action s ε α) (state : s) (post : Except ε α → s → Prop) : Prop :=
  ∃ result after, x.Returns state result after ∧ post result after

theorem Completes.mono {x : Action s ε α} {post weaker : Except ε α → s → Prop}
    (hx : x.Completes state post) (h : ∀ result after, post result after → weaker result after) :
    x.Completes state weaker := by
  obtain ⟨result, after, hreturns, hpost⟩ := hx
  exact ⟨result, after, hreturns, h _ _ hpost⟩

/-- It does what every run does. -/
theorem Completes.and {x : Action s ε α} {post more : Except ε α → s → Prop}
    (hx : x.Completes state post) (hmore : x.Ensures state more) :
    x.Completes state fun result after => post result after ∧ more result after := by
  obtain ⟨result, after, hreturns, hpost⟩ := hx
  exact ⟨result, after, hreturns, hpost, hmore.of_returns hreturns⟩

theorem completes_pure {a : α} {post : Except ε α → s → Prop} (h : post (.ok a) state) :
    (pure a : Action s ε α).Completes state post := ⟨_, _, returns_pure a, h⟩

theorem completes_fail {e : ε} {post : Except ε α → s → Prop} (h : post (.error e) state) :
    (Action.fail e : Action s ε α).Completes state post := ⟨_, _, returns_fail e, h⟩

theorem completes_see_bind {g : s → α} {f : α → Action s ε β} {post : Except ε β → s → Prop}
    (h : (f (g state)).Completes state post) : (see g >>= f).Completes state post := h

theorem completes_change_bind {g : s → s} {f : Unit → Action s ε β}
    {post : Except ε β → s → Prop} (h : (f ()).Completes (g state) post) :
    (change g >>= f).Completes state post := h

theorem Completes.bind {x : Action s ε α} {f : α → Action s ε β} {mid : Except ε α → s → Prop}
    {post : Except ε β → s → Prop} (hx : x.Completes state mid)
    (hok : ∀ a after, mid (.ok a) after → (f a).Completes after post)
    (herr : ∀ e after, mid (.error e) after → post (.error e) after) :
    (x >>= f).Completes state post := by
  obtain ⟨result, between, hreturns, hmid⟩ := hx
  cases result with
  | ok a =>
      obtain ⟨last, after, hrest, hpost⟩ := hok a between hmid
      exact ⟨last, after, hreturns.bind hrest, hpost⟩
  | error e => exact ⟨.error e, between, hreturns.bind_error, herr e between hmid⟩

theorem Completes.attempt_bind {x : Action s ε α} {f : Except ε α → Action s ε' β}
    {mid : Except ε α → s → Prop} {post : Except ε' β → s → Prop} (hx : x.Completes state mid)
    (hf : ∀ result after, mid result after → (f result).Completes after post) :
    (Action.attempt x >>= f).Completes state post := by
  obtain ⟨result, between, hreturns, hmid⟩ := hx
  obtain ⟨last, after, hrest, hpost⟩ := hf result between hmid
  exact ⟨last, after, hreturns.attempt.bind hrest, hpost⟩

theorem Completes.on {part : s → t} {put : t → s → s} {x : Action t ε α}
    {post : Except ε α → s → Prop}
    (hx : x.Completes (part state) fun result inner => post result (put inner state)) :
    (x.on part put).Completes state post := by
  obtain ⟨result, inner, hreturns, hpost⟩ := hx
  exact ⟨result, _, hreturns.on, hpost⟩

/-- A loop comes to its end if every round does, and hands on less than was handed to it. -/
theorem completes_iterate {μ : Type} [WellFoundedRelation μ]
    {body : β → Action s ε (Round β α)} {post : Except ε α → s → Prop} (inv : β → s → Prop)
    (size : β → s → μ)
    (hbody : ∀ b between, inv b between → (body b).Completes between fun result after =>
      match result with
      | .ok (.again next) => inv next after ∧
          WellFoundedRelation.rel (size next after) (size b between)
      | .ok (.done a) => post (.ok a) after
      | .error e => post (.error e) after)
    {start : β} (hstart : inv start state) : (iterate body start).Completes state post := by
  have hless : WellFounded (WellFoundedRelation.rel : μ → μ → Prop) := WellFoundedRelation.wf
  have hloops : ∀ bound b between, size b between = bound → inv b between →
      ∃ result after, Loops body b between result after ∧ post result after := by
    intro bound
    induction bound using hless.induction with
    | _ bound ih =>
        rintro b state rfl hinv
        obtain ⟨result, between, hround, hend⟩ := hbody b state hinv
        cases result with
        | error e => exact ⟨_, _, .failed hround, hend⟩
        | ok round =>
            cases round with
            | done a => exact ⟨_, _, .done hround, hend⟩
            | again next =>
                obtain ⟨hnext, hshrinks⟩ := hend
                obtain ⟨result, after, hrest, hpost⟩ := ih _ hshrinks next between rfl hnext
                exact ⟨result, after, .again hround hrest, hpost⟩
  obtain ⟨result, after, hrounds, hpost⟩ := hloops _ start state rfl hstart
  exact ⟨result, after, hrounds.returns, hpost⟩

/-! ## Runs that end however little patience there is -/

/-- With whatever patience, `x` ends from `state`, and the result and the state after it satisfy
`post`. -/
def Settles (x : Action s ε α) (state : s) (post : Except ε α → s → Prop) : Prop :=
  ∀ patience, ∃ result after, x patience state = some (result, after) ∧ post result after

theorem Settles.ensures {x : Action s ε α} {post : Except ε α → s → Prop}
    (hx : x.Settles state post) : x.Ensures state post := by
  intro patience result after hrun
  obtain ⟨_, _, hsettled, hpost⟩ := hx patience
  rw [hsettled] at hrun
  cases hrun
  exact hpost

theorem Settles.mono {x : Action s ε α} {post weaker : Except ε α → s → Prop}
    (hx : x.Settles state post) (h : ∀ result after, post result after → weaker result after) :
    x.Settles state weaker := by
  intro patience
  obtain ⟨result, after, hrun, hpost⟩ := hx patience
  exact ⟨result, after, hrun, h _ _ hpost⟩

theorem settles_pure {a : α} {post : Except ε α → s → Prop} (h : post (.ok a) state) :
    (pure a : Action s ε α).Settles state post := fun _ => ⟨_, _, rfl, h⟩

theorem settles_fail {e : ε} {post : Except ε α → s → Prop} (h : post (.error e) state) :
    (Action.fail e : Action s ε α).Settles state post := fun _ => ⟨_, _, rfl, h⟩

theorem settles_see {f : s → α} {post : Except ε α → s → Prop} (h : post (.ok (f state)) state) :
    (see f : Action s ε α).Settles state post := fun _ => ⟨_, _, rfl, h⟩

theorem settles_change {f : s → s} {post : Except ε Unit → s → Prop}
    (h : post (.ok ()) (f state)) : (change f : Action s ε Unit).Settles state post :=
  fun _ => ⟨_, _, rfl, h⟩

theorem settles_see_bind {g : s → α} {f : α → Action s ε β} {post : Except ε β → s → Prop}
    (h : (f (g state)).Settles state post) : (see g >>= f).Settles state post := h

theorem settles_change_bind {g : s → s} {f : Unit → Action s ε β} {post : Except ε β → s → Prop}
    (h : (f ()).Settles (g state) post) : (change g >>= f).Settles state post := h

theorem Settles.bind {x : Action s ε α} {f : α → Action s ε β} {mid : Except ε α → s → Prop}
    {post : Except ε β → s → Prop} (hx : x.Settles state mid)
    (hok : ∀ a after, mid (.ok a) after → (f a).Settles after post)
    (herr : ∀ e after, mid (.error e) after → post (.error e) after) :
    (x >>= f).Settles state post := by
  intro patience
  show ∃ result after, andThen x f patience state = some (result, after) ∧ post result after
  unfold andThen
  obtain ⟨r, between, hrun, hmid⟩ := hx patience
  rw [hrun]
  cases r with
  | ok a => exact hok a between hmid patience
  | error e => exact ⟨_, _, rfl, herr e between hmid⟩

theorem Settles.attempt_bind {x : Action s ε α} {f : Except ε α → Action s ε' β}
    {mid : Except ε α → s → Prop} {post : Except ε' β → s → Prop} (hx : x.Settles state mid)
    (hf : ∀ result after, mid result after → (f result).Settles after post) :
    (Action.attempt x >>= f).Settles state post := by
  intro patience
  show ∃ result after, andThen (Action.attempt x) f patience state = some (result, after) ∧
    post result after
  unfold andThen Action.attempt
  obtain ⟨r, between, hrun, hmid⟩ := hx patience
  rw [hrun]
  exact hf r between hmid patience

theorem Settles.on {part : s → t} {put : t → s → s} {x : Action t ε α}
    {post : Except ε α → s → Prop}
    (hx : x.Settles (part state) fun result inner => post result (put inner state)) :
    (x.on part put).Settles state post := by
  intro patience
  obtain ⟨result, inner, hrun, hpost⟩ := hx patience
  exact ⟨result, _, by unfold Action.on; rw [hrun]; rfl, hpost⟩

theorem Settles.mapError {f : ε → ε'} {x : Action s ε α} {post : Except ε' α → s → Prop}
    (hx : x.Settles state fun result after => post (result.mapError f) after) :
    (x.mapError f).Settles state post := by
  intro patience
  obtain ⟨result, after, hrun, hpost⟩ := hx patience
  exact ⟨_, after, by unfold Action.mapError; rw [hrun]; rfl, hpost⟩

/-! ## Runs that never end -/

/-- However much patience there is beyond some bound, `x` does not end from `state`. -/
def Diverges (x : Action s ε α) (state : s) : Prop :=
  ∃ enough, ∀ patience, enough ≤ patience → x patience state = none

/-- So many rounds of a loop, none of which is its last. -/
inductive Continues (body : β → Action s ε (Round β α)) : Nat → β → s → β → s → Prop
  | start (b : β) (state : s) : Continues body 0 b state b state
  | again {n : Nat} {b next last : β} {state between after : s}
      (h : (body b).Returns state (.ok (.again next)) between)
      (rest : Continues body n next between last after) :
      Continues body (n + 1) b state last after

/-- Rounds before the last ones. -/
theorem Continues.loops {body : β → Action s ε (Round β α)} {n : Nat} {b last : β}
    {between : s} {result : Except ε α} (h : Continues body n b state last between)
    (rest : Loops body last between result after) : Loops body b state result after := by
  induction h with
  | start => exact rest
  | again hround _ ih => exact .again hround (ih rest)

/-- What every round hands on to the next has been handed on by the last of so many. -/
theorem Continues.invariant {body : β → Action s ε (Round β α)} (inv : β → s → Prop)
    (hbody : ∀ b between, inv b between → (body b).Ensures between fun result after =>
      ∀ next, result = .ok (.again next) → inv next after)
    {n : Nat} {b last : β} (hstart : inv b state) (h : Continues body n b state last after) :
    inv last after := by
  induction h with
  | start => exact hstart
  | again hround _ ih => exact ih ((hbody _ _ hstart).of_returns hround _ rfl)

/-- A loop that has no last round, however much patience there is with each of them. -/
def Endless (body : β → Action s ε (Round β α)) (start : β) (state : s) : Prop :=
  ∃ enough, ∀ patience limit, enough ≤ patience → rounds body patience limit start state = none

theorem Endless.diverges {body : β → Action s ε (Round β α)} {start : β}
    (h : Endless body start state) : (iterate body start).Diverges state := by
  obtain ⟨n, hn⟩ := h
  exact ⟨n, fun patience hle => hn patience patience hle⟩

theorem Endless.again {body : β → Action s ε (Round β α)} {b next : β}
    (h : (body b).Returns state (.ok (.again next)) after) (rest : Endless body next after) :
    Endless body b state := by
  obtain ⟨n, hn⟩ := h
  obtain ⟨m, hm⟩ := rest
  refine ⟨max n m, fun patience limit hle => ?_⟩
  cases limit with
  | zero => rfl
  | succ limit =>
      rw [rounds, hn patience (by omega)]
      exact hm patience limit (by omega)

/-- What every round needs of the last one it finds, with the same patience each time. -/
theorem endless_of_invariant {body : β → Action s ε (Round β α)} (inv : β → s → Prop)
    (enough : Nat)
    (hbody : ∀ b between, inv b between → ∃ next after, inv next after ∧
      ∀ patience, enough ≤ patience → body b patience between = some (.ok (.again next), after))
    {start : β} (hstart : inv start state) : Endless body start state := by
  refine ⟨enough, fun patience limit hle => ?_⟩
  induction limit generalizing start state with
  | zero => rfl
  | succ limit ih =>
      obtain ⟨next, after, hafter, hround⟩ := hbody start state hstart
      rw [rounds, hround patience hle]
      exact ih hafter

/-! ## Relations that survive sequencing -/

/-- A relation between the state before an action, its error if it fails, and the state after it,
that sequencing preserves. -/
structure Composes (R : s → Option ε → s → Prop) : Prop where
  refl : ∀ state, R state none state
  trans : ∀ {state between after : s} {failure : Option ε},
    R state none between → R between failure after → R state failure after

/-- From every state `x` ends in one that `R` relates to it. -/
def Obeys (R : s → Option ε → s → Prop) (x : Action s ε α) : Prop :=
  ∀ state, x.Ensures state fun result after => R state (failure? result) after

variable {R : s → Option ε → s → Prop}

theorem obeys_pure (hR : Composes R) (a : α) : (pure a : Action s ε α).Obeys R :=
  fun state => ensures_pure (hR.refl state)

theorem obeys_see (hR : Composes R) (f : s → α) : (see f : Action s ε α).Obeys R :=
  fun state => ensures_see (hR.refl state)

theorem obeys_fail {e : ε} (h : ∀ state, R state (some e) state) :
    (Action.fail e : Action s ε α).Obeys R :=
  fun state => ensures_fail (h state)

/-- Sequencing, where what both do together is something else again. -/
theorem Obeys.followed {first second : s → Option ε → s → Prop} {x : Action s ε α}
    {f : α → Action s ε β} (hx : x.Obeys first) (hf : ∀ a, (f a).Obeys second)
    (hok : ∀ {state between after : s} {failure : Option ε},
      first state none between → second between failure after → R state failure after)
    (herr : ∀ {state after : s} {e : ε}, first state (some e) after → R state (some e) after) :
    (x >>= f).Obeys R := by
  intro state
  refine (hx state).bind ?_ ?_
  · intro a between hmid
    exact (hf a between).mono fun _ _ hend => hok hmid hend
  · intro e after hend
    exact herr hend

theorem Obeys.bind (hR : Composes R) {x : Action s ε α} {f : α → Action s ε β}
    (hx : x.Obeys R) (hf : ∀ a, (f a).Obeys R) : (x >>= f).Obeys R :=
  hx.followed hf hR.trans id

theorem Obeys.mono {weaker : s → Option ε → s → Prop} {x : Action s ε α} (hx : x.Obeys R)
    (h : ∀ {state after : s} {failure : Option ε}, R state failure after →
      weaker state failure after) : x.Obeys weaker :=
  fun state => (hx state).mono fun _ _ => h

/-- Handling a failure, where it does not matter to `R` whether there was one. -/
theorem Obeys.attempt_bind (hR : Composes R)
    (hforget : ∀ {state after : s} {failure : Option ε}, R state failure after → R state none after)
    {x : Action s ε α} {f : Except ε α → Action s ε β} (hx : x.Obeys R)
    (hf : ∀ result, (f result).Obeys R) : (Action.attempt x >>= f).Obeys R := by
  intro state
  refine (hx state).attempt_bind ?_
  intro result between hmid
  exact (hf result between).mono fun _ _ hend => hR.trans (hforget hmid) hend

theorem obeys_iterate (hR : Composes R) {body : β → Action s ε (Round β α)}
    (hbody : ∀ b, (body b).Obeys R) (start : β) : (iterate body start).Obeys R := by
  intro state
  refine ensures_iterate (fun _ between => R state none between) (hR.refl state) ?_
  intro b between hmid
  refine (hbody b between).mono ?_
  intro result after hround
  cases result with
  | error e => exact hR.trans hmid hround
  | ok round =>
      cases round with
      | again next | done a => exact hR.trans hmid hround

/-! ## Failures that do not occur -/

/-- An operation does not fail in a bad way. -/
def Never (bad : ε → Prop) (_ : s) (failure : Option ε) (_ : s) : Prop :=
  ∀ e, failure = some e → ¬ bad e

variable {bad : ε → Prop}

theorem composes_never : Composes (Never bad : s → _ → s → Prop) where
  refl _ _ := nofun
  trans _ h := h

theorem never_change (f : s → s) : (change f).Obeys (Never bad) :=
  fun _ => ensures_change fun _ => nofun

theorem never_step (f : s → α × s) : (step f).Obeys (Never bad) :=
  fun _ => ensures_step fun _ => nofun

theorem never_fail {e : ε} (h : ¬ bad e) : (Action.fail e : Action s ε α).Obeys (Never bad) := by
  refine obeys_fail fun _ other hsame => ?_
  cases hsame
  exact h

/-- A failure that is wrapped in one of another kind. -/
theorem never_mapError (x : Action s ε' α) {wrap : ε' → ε} (h : ∀ e, ¬ bad (wrap e)) :
    (x.mapError wrap).Obeys (Never bad) := by
  intro state
  refine Ensures.mapError fun patience result after _ => ?_
  cases result with
  | ok a => exact fun _ => nofun
  | error e =>
      intro other hsame
      cases hsame
      exact h e

/-- A failure that is handled is none. -/
theorem never_attempt (x : Action s ε' α) :
    (Action.attempt x : Action s ε (Except ε' α)).Obeys (Never bad) :=
  fun state => Ensures.attempt ((ensures_true x state).mono fun _ _ _ _ => nofun)

theorem never_attempt_bind (x : Action s ε' α) {f : Except ε' α → Action s ε β}
    (hf : ∀ result, (f result).Obeys (Never bad)) :
    (Action.attempt x >>= f).Obeys (Never bad) :=
  fun state => (ensures_true x state).attempt_bind fun result after _ => hf result after

theorem never_on {part : s → t} {put : t → s → s} {x : Action t ε α}
    (hx : x.Obeys (Never bad)) : (x.on part put).Obeys (Never bad) :=
  fun state => Ensures.on (hx (part state))

theorem never_undoing {undo : s → s} {x : Action s ε α} (hx : x.Obeys (Never bad)) :
    (x.undoing undo).Obeys (Never bad) := by
  refine fun state => Ensures.undoing ((hx state).mono fun result after h => ?_)
  cases result with
  | ok a | error e => exact h

end Action

end TypedChannel
