import TypedChannel.Channel.Message
/-!
# TypedChannel.Proofs.Text.OneLine

Texts that stand on one line.

Every text that a traced value is shown by has no line feed: numbers are made of
digits, a point and a sign, and a string is quoted, where a line feed has an
escape of its own.
-/

namespace TypedChannel

/-- A text without a line feed. -/
def OneLine (s : String) : Prop := '\n' ∉ s.toList

instance (s : String) : Decidable (OneLine s) := inferInstanceAs (Decidable ('\n' ∉ s.toList))

namespace OneLine

variable {s t : String}

@[simp] theorem append : OneLine (s ++ t) ↔ OneLine s ∧ OneLine t := by
  simp [OneLine]

@[simp] theorem ofList {cs : List Char} : OneLine (String.ofList cs) ↔ '\n' ∉ cs := by
  simp [OneLine]

theorem join {lines : List String} (h : ∀ s ∈ lines, OneLine s) : OneLine (String.join lines) := by
  rw [OneLine, String.toList_join, List.mem_flatMap]
  rintro ⟨s, hs, hfeed⟩
  exact h s hs hfeed

theorem intercalate (hs : OneLine s) :
    ∀ {lines : List String}, (∀ t ∈ lines, OneLine t) → OneLine (s.intercalate lines)
  | [], _ => by
      rw [String.intercalate_nil]
      decide
  | [t], h => by
      rw [String.intercalate_singleton]
      exact h t List.mem_cons_self
  | t :: u :: lines, h => by
      rw [String.intercalate_cons_cons, append, append]
      have hrest := intercalate hs fun v hv => h v (List.mem_cons_of_mem t hv)
      exact ⟨⟨h t List.mem_cons_self, hs⟩, hrest⟩

/-! ## Numbers -/

theorem digitChar_ne_feed (n : Nat) : Nat.digitChar n ≠ '\n' := by
  grind [Nat.digitChar]

theorem feed_notMem_toDigits (base n : Nat) : '\n' ∉ Nat.toDigits base n := by
  have hcore : ∀ fuel n digits, '\n' ∉ digits →
      '\n' ∉ Nat.toDigitsCore base fuel n digits := by
    intro fuel
    induction fuel with
    | zero => intro n digits hdigits; simpa [Nat.toDigitsCore] using hdigits
    | succ fuel ih =>
        intro n digits hdigits
        have hmore : '\n' ∉ Nat.digitChar (n % base) :: digits := by
          simp [hdigits, (digitChar_ne_feed _).symm]
        rw [Nat.toDigitsCore]
        split
        · exact hmore
        · exact ih _ _ hmore
  exact hcore _ n [] (by simp)

@[simp] theorem nat (n : Nat) : OneLine n.repr := by
  rw [Nat.repr_eq_ofList_toDigits, ofList]
  exact feed_notMem_toDigits 10 n

theorem int (n : Int) : OneLine (toString n) := by
  cases n with
  | ofNat n => exact nat n
  | negSucc n =>
      show OneLine ("-" ++ (n + 1).repr)
      rw [append]
      exact ⟨by decide, nat (n + 1)⟩

theorem positional (d : Decimal) : OneLine d.positional := by
  unfold Decimal.positional
  cases d.exponent with
  | ofNat zeros => simp
  | negSucc n =>
      have hdigits : '\n' ∉ (toString d.digits).toList := nat d.digits
      rw [ofList, List.mem_append, List.mem_cons]
      rintro (hwhole | hpoint | hplaces)
      · exact absurd (List.mem_of_mem_take hwhole) (by simpa using hdigits)
      · contradiction
      · exact absurd (List.mem_of_mem_drop hplaces) (by simpa using hdigits)

theorem float (format : FloatBits) (bits : Nat) : OneLine (format.text bits) := by
  have hsign : OneLine (if format.isNegative bits then "-" else "") := by
    split <;> decide
  unfold FloatBits.text
  cases format.magnitude bits with
  | zero | infinite =>
      simp only [append]
      exact ⟨hsign, by decide⟩
  | finite mantissa exponent narrow =>
      simp only [append]
      exact ⟨hsign, positional _⟩
  | notANumber =>
      show OneLine "NaN"
      decide

theorem primitive {kind : PrimitiveKind} (value : Primitive kind) : OneLine value.text := by
  cases kind with
  | float32 | float64 => exact float _ _
  | _ => exact int _

/-! ## Strings and lists -/

/-- However a character is written between quotes, a line feed is not. -/
theorem quotedChar (c : Char) : OneLine (Text.quotedChar c) := by
  unfold Text.quotedChar
  split
  · decide
  · decide
  · decide
  · decide
  · decide
  · decide
  · rename_i hfeed _
    split
    · rw [append, append]
      exact ⟨⟨by decide, ofList.mpr (feed_notMem_toDigits 16 _)⟩, by decide⟩
    · simpa [OneLine, eq_comm] using hfeed

theorem quoted (s : String) : OneLine (Text.quoted s) := by
  have hchars : OneLine (String.join (s.toList.map Text.quotedChar)) := by
    refine join fun text htext => ?_
    obtain ⟨c, -, rfl⟩ := List.mem_map.mp htext
    exact quotedChar c
  unfold Text.quoted
  rw [append, append]
  exact ⟨⟨by decide, hchars⟩, by decide⟩

theorem nullable (value : Option String) : OneLine (Trace.nullable value) := by
  cases value with
  | none => decide
  | some s => exact quoted s

theorem byteCount (n : Nat) : OneLine (Trace.byteCount n) := by
  show OneLine ("<" ++ n.repr ++ " bytes>")
  rw [append, append]
  exact ⟨⟨by decide, nat n⟩, by decide⟩

theorem listed {values : List String} (h : ∀ s ∈ values, OneLine s) :
    OneLine (Trace.listed values) := by
  unfold Trace.listed
  rw [append, append]
  exact ⟨⟨by decide, intercalate (by decide) h⟩, by decide⟩

end OneLine

end TypedChannel
