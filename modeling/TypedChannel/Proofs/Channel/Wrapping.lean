import TypedChannel.Channel.Basic
import TypedChannel.Cli.Exit
/-!
# TypedChannel.Proofs.Channel.Wrapping

Fatal wrappers, and what they leave as it is.

1. There is one way to take all wrappers off an error (`unwraps_iff`), however
   many there are, and the root that it comes to is no wrapper.  The two
   functions that do it are the same (`intoRoot_eq_root`).
2. Errors with one root are alike in all that anyone decides by: their
   category, whether the channel stays aligned, and the failure that a command
   ends with (`alike_of_root`).  Only their own texts tell the wrappers.
3. A command that fails does not end with the code of success.  Where the
   failure of the operating system is not the error itself but the reason for
   it, the code does not depend on it (`TransportError.withSource`).
-/

namespace TypedChannel

open TypedChannel.Cli

/-! ## Roots -/

namespace ChannelError

variable {e : ChannelError}

/-- An error in `n` more fatal wrappers. -/
def wrapped (e : ChannelError) : Nat → ChannelError
  | 0 => e
  | n + 1 => fatal (e.wrapped n)

theorem root_wrapped (e : ChannelError) (n : Nat) : (e.wrapped n).root = e.root := by
  induction n with
  | zero => rfl
  | succ n ih => exact ih

theorem root_root (e : ChannelError) : e.root.root = e.root := by
  induction e with
  | fatal cause ih => exact ih
  | _ => rfl

theorem leavesAligned_root (e : ChannelError) : e.root.leavesAligned = e.leavesAligned := by
  rw [leavesAligned, leavesAligned, root_root]

/-- If the transport says that the peer has gone, or that time is over, so does the channel. -/
theorem category_of_root {source : TransportError} (h : e.root = .transport source) :
    e.category = source.category := by
  rw [category, h, ownCategory]

theorem isFatal_root (e : ChannelError) : e.root.isFatal = false := by
  induction e with
  | fatal cause ih => exact ih
  | _ => rfl

theorem root_of_isFatal (h : e.isFatal = false) : e.root = e := by
  cases e with
  | fatal cause => contradiction
  | _ => rfl

/-- What takes the wrappers off one by one and leaves everything else alone. -/
structure Unwraps (peel : ChannelError → ChannelError) : Prop where
  fatal : ∀ cause, peel (.fatal cause) = peel cause
  own : ∀ e, e.isFatal = false → peel e = e

theorem unwraps_iff {peel : ChannelError → ChannelError} : Unwraps peel ↔ peel = root := by
  constructor
  · intro h
    funext e
    induction e with
    | fatal cause ih => exact (h.fatal cause).trans ih
    | _ => exact h.own _ rfl
  · rintro rfl
    exact ⟨fun _ => rfl, fun _ => root_of_isFatal⟩

/-- To take the wrappers away is to look past them. -/
theorem intoRoot_eq_root : intoRoot = root := by
  refine unwraps_iff.mp ⟨fun _ => rfl, fun e h => ?_⟩
  cases e with
  | fatal cause => contradiction
  | _ => rfl

end ChannelError

/-! ## Texts -/

/-- A text that neither begins like a wrapper's nor breaks off in its beginning. -/
def Unmarked (s : String) : Prop :=
  ¬ "fatal: ".toList <+: s.toList ∧ ¬ s.toList <+: "fatal: ".toList

instance (s : String) : Decidable (Unmarked s) := inferInstanceAs (Decidable (_ ∧ _))

/-- What follows does not matter. -/
theorem Unmarked.append {s : String} (h : Unmarked s) (t : String) : Unmarked (s ++ t) := by
  obtain ⟨hmark, hbreak⟩ := h
  rw [Unmarked, String.toList_append]
  refine ⟨fun hprefix => ?_, fun hprefix => hbreak ((List.prefix_append _ _).trans hprefix)⟩
  exact (List.prefix_or_prefix_of_prefix hprefix (List.prefix_append _ _)).elim hmark hbreak

theorem TransportError.unmarked_message (e : TransportError) : Unmarked e.message := by
  cases e with
  | closed | noPeer => decide
  | accept | acceptTimeout | io => exact .append (by decide) _
  | timeout => exact .append (.append (by decide) _) _
  | resolve | connect | connectTimeout | bind =>
      exact .append (.append (.append (by decide) _) _) _
  | descriptorLimit =>
      exact .append (.append (.append (.append (.append (by decide) _) _) _) _) _

/-- No error begins like a wrapper but a wrapper. -/
theorem ChannelError.unmarked_message {e : ChannelError} (h : e.isFatal = false) :
    Unmarked e.message := by
  cases e with
  | transport source => exact source.unmarked_message
  | fatal cause => contradiction
  | emptyTerminator => decide
  | codec | invalidLength | invalidUtf8 => exact .append (by decide) _
  | terminatorNotFound => exact .append (.append (by decide) _) _
  | shortRead => exact .append (.append (.append (by decide) _) _) _
  | stringTooLong | terminatorOverflow =>
      exact .append (.append (.append (.append (by decide) _) _) _) _

/-! ## Errors with one root -/

namespace ChannelError

variable {e e' : ChannelError}

/-- Nobody who acts on an error tells the two apart. -/
structure Alike (e e' : ChannelError) : Prop where
  root : e.root = e'.root
  category : e.category = e'.category
  isPeerGone : e.isPeerGone = e'.isPeerGone
  isTimeout : e.isTimeout = e'.isTimeout
  leavesAligned : e.leavesAligned = e'.leavesAligned
  failure : ∀ context, Failure.ofChannel context e = Failure.ofChannel context e'

theorem alike_of_root (h : e.root = e'.root) : Alike e e' := by
  have hcategory : e.category = e'.category := congrArg ownCategory h
  refine ⟨h, hcategory, ?_, ?_, ?_, fun context => ?_⟩
  · rw [isPeerGone, isPeerGone, hcategory]
  · rw [isTimeout, isTimeout, hcategory]
  · rw [ChannelError.leavesAligned, ChannelError.leavesAligned, h]
  · rw [Failure.ofChannel, Failure.ofChannel, intoRoot_eq_root, hcategory, h]

end ChannelError

/-! ## The policy -/

/-- What is fatal already is not wrapped again. -/
theorem ChannelConfig.escalate_escalate {config other : ChannelConfig}
    (hsame : other.errorsFatal = config.errorsFatal) (e : ChannelError)
    (store later : Diagnostics.Store) :
    (other.escalate (config.escalate e store).1 later).1 = (config.escalate e store).1 := by
  unfold escalate
  rw [hsame]
  cases config.errorsFatal with
  | false => rfl
  | true =>
      cases hfatal : e.isFatal with
      | false => rfl
      | true => simp [hfatal]

/-! ## What a failure is reported with -/

namespace TransportError

/-- The same failure with another one of the operating system behind it. -/
def withSource (source : IoError) : TransportError → TransportError
  | resolve host _ => resolve host source
  | connect address _ => connect address source
  | bind address _ => bind address source
  | accept _ => accept source
  | descriptorLimit descriptor limit _ => descriptorLimit descriptor limit source
  | io _ => io source
  | e => e

/-- Whether a failure of the operating system is the error itself. -/
def isSystem : TransportError → Bool
  | io _ | accept _ => true
  | _ => false

theorem category_withSource {e : TransportError} (h : e.isSystem = false) (source : IoError) :
    (e.withSource source).category = e.category := by
  cases e with
  | io _ | accept _ => contradiction
  | _ => rfl

theorem isSystem_withSource (e : TransportError) (source : IoError) :
    (e.withSource source).isSystem = e.isSystem := by
  cases e <;> rfl

end TransportError

/-! ## Failures of a command -/

namespace Cli.Failure

variable {context : String} {e : ChannelError}

/-- The code for every category, as far as no failure of the operating system has its own. -/
def codeOfCategory : ErrorCategory → Nat
  | .peerGone => generalFailure
  | .timeout => timedOut
  | .protocol => dataInvalid
  | .configuration | .resource => transportFailure
  | .io => internalFailure

/-- A failure that tells of `e` tells of its root, or of the failure of the operating system that
the root is. -/
inductive Reports (context : String) (e : ChannelError) : Failure → Prop
  | own : Reports context e
      { code := codeOfCategory e.category, message := context ++ ": " ++ e.root.message }
  | system (source : IoError)
      (is : e.root = .transport (.io source) ∨ e.root = .transport (.accept source)) :
      Reports context e (ofIo context source)

theorem ofChannel_reports (context : String) (e : ChannelError) :
    Reports context e (ofChannel context e) := by
  have hown : Reports context e _ := .own
  rw [ofChannel, ChannelError.intoRoot_eq_root]
  cases hcategory : e.category with
  | io =>
      dsimp only
      split
      · next source hroot => exact .system source (.inl hroot)
      · next source hroot => exact .system source (.inr hroot)
      · rwa [hcategory] at hown
  | _ => rwa [hcategory] at hown

theorem codeOfCategory_ne_success (category : ErrorCategory) :
    codeOfCategory category ≠ success := by
  cases category <;> decide

theorem codeOfIo_ne_success (source : IoError) : codeOfIo source ≠ success := by
  unfold codeOfIo
  split <;> decide

namespace Reports

variable {failure : Failure}

theorem code_ne_success (h : Reports context e failure) : failure.code ≠ success := by
  cases h with
  | own => exact codeOfCategory_ne_success e.category
  | system source is => exact codeOfIo_ne_success source

theorem code_eq {t : TransportError} (h : Reports context e failure)
    (hroot : e.root = .transport t) (hown : t.isSystem = false) :
    failure.code = codeOfCategory t.category := by
  cases h with
  | own => exact congrArg codeOfCategory (ChannelError.category_of_root hroot)
  | system source is =>
      rw [hroot] at is
      obtain ⟨⟨⟩⟩ | ⟨⟨⟩⟩ := is <;> contradiction

theorem begins (h : Reports context e failure) : context.toList <+: failure.message.toList := by
  cases h with
  | own | system =>
      simp only [ofIo, String.toList_append, List.append_assoc]
      exact List.prefix_append _ _

end Reports

end Cli.Failure

/-! ## Together -/

namespace ChannelError

/-- However often an error is wrapped, it is the same error to all that act on it, and what a
command tells of it is told of its root, which is no wrapper and does not begin like one.  The
policy wraps once, no failure ends with the code of success, and what is behind a failure of the
transport does not matter unless it is the failure. -/
theorem alike_wrapped (e : ChannelError) (n : Nat) (context : String) :
    Alike (e.wrapped n) e ∧
    (e.root.isFatal = false ∧ intoRoot = root ∧ ∀ peel, Unwraps peel ↔ peel = root) ∧
    (Failure.Reports context e (Failure.ofChannel context (e.wrapped n)) ∧
      Unmarked e.root.message) ∧
    (∀ config other : ChannelConfig, other.errorsFatal = config.errorsFatal →
      ∀ store later, (other.escalate (config.escalate e store).1 later).1 =
        (config.escalate e store).1) ∧
    (Failure.ofChannel context (e.wrapped n)).code ≠ success ∧
    ∀ (t : TransportError) (source : IoError), e.root = .transport t → t.isSystem = false →
      (transport (t.withSource source)).category = e.category ∧
      (Failure.ofChannel context (transport (t.withSource source))).code =
        (Failure.ofChannel context e).code := by
  have halike := alike_of_root (e.root_wrapped n)
  have hreports := Failure.ofChannel_reports context e
  refine ⟨halike, ⟨e.isFatal_root, intoRoot_eq_root, fun peel => unwraps_iff⟩,
    ⟨?_, unmarked_message e.isFatal_root⟩,
    fun config other hsame => ChannelConfig.escalate_escalate hsame e, ?_, ?_⟩
  · exact (halike.failure context).symm ▸ hreports
  · exact (halike.failure context).symm ▸ hreports.code_ne_success
  · intro t source hroot hown
    have hcategory := TransportError.category_withSource hown source
    refine ⟨hcategory.trans (category_of_root hroot).symm, ?_⟩
    have hother := (Failure.ofChannel_reports context (transport (t.withSource source))).code_eq
      rfl ((t.isSystem_withSource source).trans hown)
    rw [hother, hreports.code_eq hroot hown, hcategory]

/-- A descriptor too many in three wrappers, for two reasons. -/
theorem alike_wrapped_three :
    let tooMany (source : Errno) : ChannelError :=
      transport (.descriptorLimit 7 4 (.ofErrno source))
    Alike ((tooMany .tooManyOpenFiles).wrapped 3) (tooMany .tooManyOpenFiles) ∧
    (Failure.ofChannel "accept failed" (tooMany .brokenPipe)).code =
      (Failure.ofChannel "accept failed" (tooMany .tooManyOpenFiles)).code := by
  intro tooMany
  obtain ⟨halike, -, -, -, -, hsource⟩ :=
    alike_wrapped (tooMany .tooManyOpenFiles) 3 "accept failed"
  exact ⟨halike, (hsource _ (.ofErrno .brokenPipe) rfl rfl).2⟩

end ChannelError

end TypedChannel
