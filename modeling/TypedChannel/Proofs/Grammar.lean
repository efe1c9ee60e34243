import TypedChannel.Proofs.Wire
/-!
# TypedChannel.Proofs.Grammar

The formats that announce a length, as a reader finds them in a run of bytes.

1. A `Grammar` says of any bytes what they begin with: a value and what is left
   behind it, something to refuse and what is left behind that, or a front that
   ends too early.
2. Nothing but the wire form of a value is read as that value
   (`Grammar.string_canonical`, `Grammar.stringArray_canonical`), so what was
   read is sent as the bytes that it was read from.
-/

namespace TypedChannel

/-- What a reader finds at the front of the bytes that come. -/
inductive Reading (α : Type) where
  | value (a : α) (left : Bytes)
  /-- Something that the reader does not accept. -/
  | refused (cause : ChannelError) (left : Bytes)
  /-- There are fewer bytes than the value has. -/
  | cut

/-- What every run of bytes begins with. -/
def Grammar (α : Type) : Type := Bytes → Reading α

namespace Grammar

variable {α β : Type} {max : Nat} {text left : Bytes}

/-- Take nothing. -/
def answer (a : α) : Grammar α := fun text => .value a text

/-- Go on behind a value. -/
def andThen (first : Grammar α) (next : α → Grammar β) : Grammar β := fun text =>
  match first text with
  | .value a left => next a left
  | .refused cause left => .refused cause left
  | .cut => .cut

instance : Monad Grammar where
  pure := answer
  bind := andThen

def refuse (cause : ChannelError) : Grammar α := fun text => .refused cause text

/-- The next `n` bytes. -/
def bytes (n : Nat) : Grammar Bytes := fun text =>
  if text.length < n then .cut else .value (text.take n) (text.drop n)

/-- A signed number in four bytes, the most significant one first. -/
def int32 : Grammar (Primitive .int32) := do
  return Codec.ofWire .int32 (← bytes 4)

/-- A value in as many bytes as its kind has, the most significant one first. -/
def primitive (kind : PrimitiveKind) : Grammar (Primitive kind) := do
  return Codec.ofWire kind (← bytes kind.width)

/-- The bytes of a string, or the mark for none. -/
def stringBytes (max : Nat) : Grammar (Option Bytes) := do
  let length := (← int32).toInt
  if length = -1 then
    return none
  else if length < -1 then
    refuse (.invalidLength length)
  else if max < length.toNat then
    refuse (.stringTooLong length.toNat max)
  else
    return some (← bytes length.toNat)

/-- A string, or the mark for none. -/
def string (max : Nat) : Grammar (Option String) := do
  match ← stringBytes max with
  | none => return none
  | some bytes =>
    match Text.Utf8.decode bytes with
    | .ok text => return some text
    | .error fault => refuse (.invalidUtf8 fault)

/-- The same thing `count` times. -/
def times (one : Grammar α) : Nat → Grammar (List α)
  | 0 => return []
  | count + 1 => do
    let a ← one
    return a :: (← times one count)

/-- A count and that many strings. -/
def stringArray (max : Nat) : Grammar (List (Option String)) := do
  let count := (← int32).toInt
  if count < 0 then
    refuse (.invalidLength count)
  else
    times (string max) count.toNat

/-! ## What is read of the wire form -/

/-- Whatever comes before was read first. -/
theorem bind_eq_value {first : Grammar α} {next : α → Grammar β} {b : β}
    (h : (first >>= next) text = .value b left) :
    ∃ a between, first text = .value a between ∧ next a between = .value b left := by
  change andThen first next text = _ at h
  unfold andThen at h
  cases hfirst : first text with
  | value a between =>
      rw [hfirst] at h
      exact ⟨a, between, rfl, h⟩
  | refused cause between | cut =>
      rw [hfirst] at h
      contradiction

theorem bytes_eq_value {n : Nat} {a : Bytes} (h : bytes n text = .value a left) :
    text = a ++ left ∧ a.length = n := by
  unfold bytes at h
  split at h
  · contradiction
  · cases h
    refine ⟨(List.take_append_drop n text).symm, ?_⟩
    rw [List.length_take]
    omega

theorem answer_eq_value {a b : α} (h : (pure a : Grammar α) text = .value b left) :
    a = b ∧ text = left := by
  cases h
  exact ⟨rfl, rfl⟩

/-- Four bytes are the form of the number that they are read as. -/
theorem int32_eq_value {number : Primitive .int32} (h : int32 text = .value number left) :
    text = int32Wire number.toInt ++ left ∧ number.toInt ≤ maxAnnounced := by
  obtain ⟨four, between, hfour, hanswer⟩ := bind_eq_value h
  obtain ⟨rfl, rfl⟩ := answer_eq_value hanswer
  obtain ⟨htext, hlength⟩ := bytes_eq_value hfour
  refine ⟨?_, ?_⟩
  · rw [int32Wire, Primitive.ofInt_toInt_int32, Codec.wire_ofWire hlength]
    exact htext
  · have hbound := (Codec.ofWire .int32 four).bits.toInt_lt
    exact Int.le_of_lt_add_one hbound

theorem stringBytes_canonical {value : Option Bytes}
    (h : stringBytes max text = .value value left) :
    text = stringWire value ++ left ∧ FitsString max value := by
  obtain ⟨number, between, hnumber, hrest⟩ := bind_eq_value h
  obtain ⟨rfl, hannounced⟩ := int32_eq_value hnumber
  dsimp only at hrest
  generalize number.toInt = n at hrest hannounced ⊢
  split at hrest
  · next hnull =>
    obtain ⟨rfl, rfl⟩ := answer_eq_value hrest
    subst hnull
    exact ⟨rfl, fun _ hsome => nomatch hsome⟩
  split at hrest
  · contradiction
  split at hrest
  · contradiction
  · next hnull hnegative hlong =>
    obtain ⟨content, later, hcontent, hanswer⟩ := bind_eq_value hrest
    obtain ⟨rfl, rfl⟩ := answer_eq_value hanswer
    obtain ⟨rfl, hlength⟩ := bytes_eq_value hcontent
    have hcount : (content.length : Int) = n := by omega
    refine ⟨?_, ?_⟩
    · rw [stringWire, hcount, List.append_assoc]
    · rintro _ ⟨⟩
      omega

/-- Only the wire form of a string is read as that string. -/
theorem string_canonical {value : Option String} (h : string max text = .value value left) :
    text = stringWire (value.map Text.Utf8.encode) ++ left ∧
      FitsString max (value.map Text.Utf8.encode) := by
  obtain ⟨bytes, between, hbytes, hrest⟩ := bind_eq_value h
  obtain ⟨rfl, hfits⟩ := stringBytes_canonical hbytes
  cases bytes with
  | none =>
      obtain ⟨rfl, rfl⟩ := answer_eq_value hrest
      exact ⟨rfl, hfits⟩
  | some content =>
      dsimp only at hrest
      cases hdecode : Text.Utf8.decode content with
      | error fault =>
          rw [hdecode] at hrest
          contradiction
      | ok decoded =>
          rw [hdecode] at hrest
          obtain ⟨rfl, rfl⟩ := answer_eq_value hrest
          rw [Option.map_some, Text.Utf8.encode_of_decode hdecode]
          exact ⟨rfl, hfits⟩

/-- If nothing but the form of a value is read as it, nothing but the forms of some values one
behind the other is read as these. -/
theorem times_canonical {one : Grammar α} {form : α → Bytes} {fits : α → Prop}
    (hone : ∀ {text a left}, one text = .value a left → text = form a ++ left ∧ fits a)
    {count : Nat} {values : List α} (h : times one count text = .value values left) :
    text = values.flatMap form ++ left ∧ values.length = count ∧ ∀ a ∈ values, fits a := by
  induction count generalizing text values with
  | zero =>
      obtain ⟨rfl, rfl⟩ := answer_eq_value h
      exact ⟨rfl, rfl, fun _ hnone => nomatch hnone⟩
  | succ count ih =>
      obtain ⟨value, between, hvalue, hrest⟩ := bind_eq_value h
      obtain ⟨others, later, hothers, hanswer⟩ := bind_eq_value hrest
      obtain ⟨rfl, rfl⟩ := answer_eq_value hanswer
      obtain ⟨rfl, hfits⟩ := hone hvalue
      obtain ⟨rfl, rfl, hall⟩ := ih hothers
      refine ⟨?_, List.length_cons, List.forall_mem_cons.mpr ⟨hfits, hall⟩⟩
      rw [List.flatMap_cons, List.append_assoc]

theorem strings_canonical {count : Nat} {values : List (Option String)}
    (h : times (string max) count text = .value values left) :
    text = stringsWire values ++ left ∧ values.length = count ∧
      ∀ value ∈ values, FitsString max (value.map Text.Utf8.encode) :=
  times_canonical string_canonical h

/-- Only the wire form of some strings is read as these strings. -/
theorem stringArray_canonical {values : List (Option String)}
    (h : stringArray max text = .value values left) :
    text = (Message.strings values).wire ++ left ∧ values.length ≤ maxAnnounced ∧
      ∀ value ∈ values, FitsString max (value.map Text.Utf8.encode) := by
  obtain ⟨number, between, hnumber, hrest⟩ := bind_eq_value h
  obtain ⟨rfl, hannounced⟩ := int32_eq_value hnumber
  dsimp only at hrest
  generalize number.toInt = n at hrest hannounced ⊢
  split at hrest
  · contradiction
  · next hnegative =>
    obtain ⟨rfl, hcount, hall⟩ := strings_canonical hrest
    have hsame : (values.length : Int) = n := by omega
    refine ⟨?_, by omega, hall⟩
    rw [Message.wire, hsame, List.append_assoc]

/-! ## Arrays of primitives -/

theorem bytes_append {front : Bytes} {n : Nat} (h : front.length = n) (left : Bytes) :
    bytes n (front ++ left) = .value front left := by
  subst h
  have henough : ¬ (front ++ left).length < front.length := by
    rw [List.length_append]
    omega
  rw [bytes, if_neg henough, List.take_left, List.drop_left]

theorem bind_of_value {first : Grammar α} {next : α → Grammar β} {a : α}
    (h : first text = .value a left) : (first >>= next) text = next a left := by
  show andThen first next text = _
  rw [andThen, h]

theorem bind_of_cut {first : Grammar α} {next : α → Grammar β} (h : first text = .cut) :
    (first >>= next) text = .cut := by
  show andThen first next text = _
  rw [andThen, h]

/-- With fewer bytes than so many values have together the last of them is cut, with as many they
are all read. -/
theorem times_primitive_cases (kind : PrimitiveKind) (count : Nat) (text : Bytes) :
    (text.length < count * kind.width ∧ times (primitive kind) count text = .cut) ∨
    ∃ values left, times (primitive kind) count text = .value values left ∧
      text = values.flatMap Codec.wire ++ left ∧ values.length = count := by
  induction count generalizing text with
  | zero => exact .inr ⟨[], text, rfl, rfl, rfl⟩
  | succ count ih =>
      have hall : (count + 1) * kind.width = kind.width + count * kind.width := by
        rw [Nat.succ_mul, Nat.add_comm]
      by_cases hshort : text.length < kind.width
      · have hcut : primitive kind text = .cut := bind_of_cut (if_pos hshort)
        exact .inl ⟨by omega, bind_of_cut hcut⟩
      · obtain ⟨wire, rest, rfl, hlength⟩ : ∃ wire rest, text = wire ++ rest ∧
            wire.length = kind.width :=
          ⟨_, _, (List.take_append_drop kind.width text).symm, by rw [List.length_take]; omega⟩
        have hone : primitive kind (wire ++ rest) = .value (Codec.ofWire kind wire) rest :=
          bind_of_value (bytes_append hlength rest)
        obtain ⟨hless, hcut⟩ | ⟨values, left, hvalues, rfl, hcount⟩ := ih rest
        · refine .inl ⟨by rw [List.length_append]; omega, ?_⟩
          exact (bind_of_value hone).trans (bind_of_cut hcut)
        · refine .inr ⟨Codec.ofWire kind wire :: values, left, ?_, ?_, ?_⟩
          · exact (bind_of_value hone).trans (bind_of_value hvalues)
          · rw [List.flatMap_cons, Codec.wire_ofWire hlength, List.append_assoc]
          · rw [List.length_cons, hcount]

/-- Only the wire forms of some values are read as these values. -/
theorem times_primitive_canonical {kind : PrimitiveKind} {count : Nat}
    {values : List (Primitive kind)}
    (h : times (primitive kind) count text = .value values left) :
    text = values.flatMap Codec.wire ++ left := by
  obtain ⟨-, hcut⟩ | ⟨_, _, hvalues, hsplit, -⟩ := times_primitive_cases kind count text
  · rw [h] at hcut
    contradiction
  · rw [h] at hvalues
    cases hvalues
    exact hsplit

end Grammar

end TypedChannel
