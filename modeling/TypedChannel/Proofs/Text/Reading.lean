import TypedChannel.Text.Json
/-!
# TypedChannel.Proofs.Text.Reading

Text in double quotes, read back.

A `Quoting` says what may stand between the quotes: which characters stand for
themselves, what a letter behind a backslash means, and what a code point behind
`\u` looks like.  `Quoting.read?` reads such a text from its first character to
its last, and knows nothing of how it was written.

1. Whoever writes every character in a way that the quoting spells it is read
   back (`Quoting.read?_join`).
2. JSON strings and visible text are written so (`read?_string`, `read?_quoted`);
   the digits of a code point are read by `hexNumber?`.
-/

namespace TypedChannel.Text

/-! ## Hexadecimal numbers -/

/-- The value of a hexadecimal digit. -/
def hexDigit? (c : Char) : Option Nat :=
  if '0' ≤ c ∧ c ≤ '9' then some (c.toNat - '0'.toNat)
  else if 'a' ≤ c ∧ c ≤ 'f' then some (c.toNat - 'a'.toNat + 10)
  else if 'A' ≤ c ∧ c ≤ 'F' then some (c.toNat - 'A'.toNat + 10)
  else none

/-- The number that hexadecimal digits stand for. -/
def hexNumber? (digits : List Char) : Option Nat :=
  digits.foldlM (fun n c => (hexDigit? c).map (16 * n + ·)) 0

theorem hexDigit?_digitChar {n : Nat} (h : n < 16) : hexDigit? n.digitChar = some n := by
  have hall : ∀ n < 16, hexDigit? n.digitChar = some n := by decide
  exact hall n h

theorem hexNumber?_concat (digits : List Char) (c : Char) :
    hexNumber? (digits ++ [c]) =
      (hexNumber? digits).bind fun n => (hexDigit? c).map (16 * n + ·) := by
  simp [hexNumber?, List.foldlM_append]

theorem hexNumber?_toDigits (n : Nat) : hexNumber? (Nat.toDigits 16 n) = some n := by
  induction n using Nat.strongRecOn with
  | _ n ih =>
      by_cases hsmall : n < 16
      · simp [Nat.toDigits_of_lt_base hsmall, hexNumber?, hexDigit?_digitChar hsmall]
      · rw [Nat.toDigits_of_base_le (by decide) (by omega), hexNumber?_concat,
          ih (n / 16) (by omega), hexDigit?_digitChar (by omega)]
        simp only [Option.bind_some, Option.map_some, Option.some.injEq]
        omega

theorem hexNumber?_zeros (k : Nat) (digits : List Char) :
    hexNumber? (List.replicate k '0' ++ digits) = hexNumber? digits := by
  induction k with
  | zero => rfl
  | succ k ih => exact ih

/-- Only digits make a number. -/
theorem isSome_of_hexNumber? {digits : List Char} {n : Nat} (h : hexNumber? digits = some n) :
    ∀ c ∈ digits, (hexDigit? c).isSome := by
  unfold hexNumber? at h
  generalize 0 = start at h
  induction digits generalizing start with
  | nil => nofun
  | cons digit digits ih =>
      rw [List.foldlM_cons] at h
      obtain ⟨next, hdigit, hrest⟩ := Option.bind_eq_some_iff.mp h
      obtain ⟨value, hvalue, -⟩ := Option.map_eq_some_iff.mp hdigit
      rintro c (_ | ⟨_, hc⟩)
      · rw [hvalue]
        rfl
      · exact ih next hrest c hc

/-! ## Quoted text -/

/-- What the characters behind a backslash come to. -/
inductive Escape where
  /-- Nothing yet. -/
  | more
  | means (c : Char)
  | invalid
  deriving DecidableEq

/-- How text in double quotes is written. -/
structure Quoting where
  /-- Whether a character other than a quote and a backslash may stand for itself. -/
  plain : Char → Bool
  /-- The letters that make an escape, and what they mean. -/
  letters : List (Char × Char)
  /-- What stands behind a backslash and a `u`. -/
  code : List Char → Escape

namespace Quoting

variable (quoting : Quoting)

/-- What stands behind a backslash. -/
def escape : List Char → Escape
  | [] => .more
  | c :: rest =>
    if c = 'u' then quoting.code rest
    else if rest.isEmpty then ((quoting.letters.lookup c).map .means).getD .invalid
    else .invalid

/-- Read up to the quote that ends a text; within an escape `pending` is what has been read of it
behind the backslash. -/
def readBody : Option (List Char) → List Char → Option (List Char)
  | _, [] => none
  | none, c :: rest =>
    if c = '"' then (if rest.isEmpty then some [] else none)
    else if c = '\\' then readBody (some []) rest
    else if quoting.plain c then (readBody none rest).map (c :: ·)
    else none
  | some pending, c :: rest =>
    match quoting.escape (pending ++ [c]) with
    | .more => readBody (some (pending ++ [c])) rest
    | .means meant => (readBody none rest).map (meant :: ·)
    | .invalid => none

/-- The text that is written in double quotes. -/
def read? (written : String) : Option String :=
  if written.toList.head? = some '"' then
    (quoting.readBody none written.toList.tail).map String.ofList
  else none

/-- The ways in which a character is written. -/
inductive Spells (c : Char) : List Char → Prop
  | plain (hquote : c ≠ '"') (hbackslash : c ≠ '\\') (hplain : quoting.plain c = true) :
      Spells c [c]
  | letter (letter : Char) (hletter : letter ≠ 'u')
      (hmeans : quoting.letters.lookup letter = some c) : Spells c ['\\', letter]
  | code (digits : List Char)
      (hmore : ∀ front, front <+: digits → front ≠ digits → quoting.code front = .more)
      (hmeans : quoting.code digits = .means c) : Spells c ('\\' :: 'u' :: digits)

variable {quoting} {c : Char}

/-- A code point is read digit by digit. -/
theorem readBody_code (seen left text : List Char) (hleft : left ≠ [])
    (hmore : ∀ front, front <+: seen ++ left → front ≠ seen ++ left → quoting.code front = .more)
    (hmeans : quoting.code (seen ++ left) = .means c) :
    quoting.readBody (some ('u' :: seen)) (left ++ text) =
      (quoting.readBody none text).map (c :: ·) := by
  induction left generalizing seen with
  | nil => contradiction
  | cons next left ih =>
      have hescape : quoting.escape ('u' :: seen ++ [next]) = quoting.code (seen ++ [next]) := rfl
      have hall : seen ++ next :: left = seen ++ [next] ++ left := by simp
      rw [List.cons_append, readBody, hescape]
      rw [hall] at hmore hmeans
      cases left with
      | nil =>
          rw [List.append_nil] at hmeans
          rw [hmeans]
          rfl
      | cons other left =>
          rw [hmore (seen ++ [next]) (List.prefix_append _ _) (by simp)]
          exact ih (seen ++ [next]) (by simp) hmore hmeans

theorem readBody_spells {written : List Char} (h : quoting.Spells c written)
    (text : List Char) :
    quoting.readBody none (written ++ text) = (quoting.readBody none text).map (c :: ·) := by
  cases h with
  | plain hquote hbackslash hplain =>
      simp [readBody, hquote, hbackslash, hplain]
  | letter letter hletter hmeans =>
      simp [readBody, escape, hletter, hmeans]
  | code digits hmore hmeans =>
      have hstart : quoting.readBody none ('\\' :: 'u' :: digits ++ text) =
          quoting.readBody (some []) ('u' :: digits ++ text) := by simp [readBody]
      have hescape : quoting.escape ([] ++ ['u']) = quoting.code [] := rfl
      rw [hstart, List.cons_append, readBody, hescape]
      cases digits with
      | nil =>
          rw [hmeans]
          rfl
      | cons digit digits =>
          rw [hmore [] List.nil_prefix (by simp)]
          exact readBody_code [] _ text (by simp) hmore hmeans

theorem readBody_flatMap {write : Char → List Char} (h : ∀ c, quoting.Spells c (write c))
    (cs : List Char) : quoting.readBody none (cs.flatMap write ++ ['"']) = some cs := by
  induction cs with
  | nil => simp [readBody]
  | cons c cs ih =>
      rw [List.flatMap_cons, List.append_assoc, readBody_spells (h c), ih]
      rfl

/-- What is written character by character, each in one of its ways, is read back. -/
theorem read?_join {write : Char → String} (h : ∀ c, quoting.Spells c (write c).toList)
    (s : String) : quoting.read? ("\"" ++ String.join (s.toList.map write) ++ "\"") = some s := by
  have hwritten : ("\"" ++ String.join (s.toList.map write) ++ "\"").toList =
      '"' :: (s.toList.flatMap (fun c => (write c).toList) ++ ['"']) := by
    simp [String.toList_join, List.flatMap_map]
  rw [read?, hwritten]
  simp [readBody_flatMap h]

end Quoting

/-! ## What is written -/

/-- The character with this code point, if there is one. -/
def codePoint (digits : List Char) : Escape :=
  match hexNumber? digits with
  | some n => if n.isValidChar then .means (Char.ofNat n) else .invalid
  | none => .invalid

theorem codePoint_of_hexNumber? {digits : List Char} {c : Char}
    (h : hexNumber? digits = some c.toNat) : codePoint digits = .means c := by
  have hvalid : c.toNat.isValidChar := c.valid
  simp [codePoint, h, hvalid, Char.ofNat_toNat]

/-- JSON strings, without the pairs of escapes that stand for one character. -/
def Quoting.json : Quoting where
  plain c := 0x20 ≤ c.toNat
  letters := [('"', '"'), ('\\', '\\'), ('/', '/'), ('b', '\x08'), ('f', '\x0c'), ('n', '\n'),
    ('r', '\r'), ('t', '\t')]
  code digits := if digits.length < 4 then .more else codePoint digits

/-- Text with every character visible: a code point stands in braces. -/
def Quoting.visible : Quoting where
  plain _ := true
  letters := [('"', '"'), ('\'', '\''), ('\\', '\\'), ('t', '\t'), ('r', '\r'), ('n', '\n'),
    ('0', '\x00')]
  code digits :=
    if digits.isEmpty then .more
    else if digits.head? ≠ some '\x7b' then .invalid
    else if digits.getLast? = some '\x7d' then codePoint digits.tail.dropLast
    else .more

/-- A control character has four digits, two of them zeros at least. -/
theorem spells_control {c : Char} (h : c.toNat < 0x20) : Quoting.json.Spells c
    ('\\' :: 'u' :: (List.replicate (4 - (Nat.toDigits 16 c.toNat).length) '0' ++
      Nat.toDigits 16 c.toNat)) := by
  have hlength : (Nat.toDigits 16 c.toNat).length ≤ 2 :=
    (Nat.length_toDigits_le_iff (by decide) (by decide)).mpr (by omega)
  have hfour : (List.replicate (4 - (Nat.toDigits 16 c.toNat).length) '0' ++
      Nat.toDigits 16 c.toNat).length = 4 := by
    rw [List.length_append, List.length_replicate]
    omega
  refine .code _ (fun front hfront hne => if_pos ?_) ((if_neg (by omega)).trans ?_)
  · have hle := hfront.length_le
    have hshort : front.length ≠ 4 := fun h => hne (hfront.eq_of_length (h.trans hfour.symm))
    omega
  · exact codePoint_of_hexNumber? (by rw [hexNumber?_zeros, hexNumber?_toDigits])

theorem spells_stringChar (c : Char) : Quoting.json.Spells c (Json.stringChar c).toList := by
  unfold Json.stringChar
  split
  · exact .letter '"' (by decide) rfl
  · exact .letter '\\' (by decide) rfl
  · exact .letter 'b' (by decide) rfl
  · exact .letter 't' (by decide) rfl
  · exact .letter 'n' (by decide) rfl
  · exact .letter 'f' (by decide) rfl
  · exact .letter 'r' (by decide) rfl
  · next hquote hbackslash _ _ _ _ _ =>
      split
      · next hcontrol => simpa [hexadecimal] using spells_control hcontrol
      · next hvisible =>
          simpa using .plain (by simpa using hquote) (by simpa using hbackslash)
            (by simpa [Quoting.json] using hvisible)

/-- A string is read back. -/
theorem read?_string (s : String) : Quoting.json.read? (Json.string s) = some s :=
  Quoting.read?_join spells_stringChar s

theorem spells_codePoint (c : Char) : Quoting.visible.Spells c
    ('\\' :: 'u' :: ('\x7b' :: Nat.toDigits 16 c.toNat ++ ['\x7d'])) := by
  have hdigits := hexNumber?_toDigits c.toNat
  refine .code _ (fun front hfront hne => ?_) ?_
  · have hopen : front <+: '\x7b' :: Nat.toDigits 16 c.toNat :=
      (List.prefix_concat_iff.mp hfront).resolve_left hne
    have hlast : front.getLast? ≠ some '\x7d' := by
      intro hclosed
      have hmem := hopen.subset (List.mem_of_getLast? hclosed)
      obtain hbrace | hdigit := List.mem_cons.mp hmem
      · contradiction
      · have hsome := isSome_of_hexNumber? hdigits _ hdigit
        contradiction
    cases front with
    | nil => rfl
    | cons first front =>
        obtain ⟨rfl, -⟩ := List.cons_prefix_cons.mp hopen
        simp [Quoting.visible, hlast]
  · have hclosed : ('\x7b' :: (Nat.toDigits 16 c.toNat ++ ['\x7d'])).getLast? = some '\x7d' := by
      rw [← List.cons_append, List.getLast?_concat]
    simpa [Quoting.visible, hclosed] using codePoint_of_hexNumber? hdigits

theorem spells_quotedChar (c : Char) : Quoting.visible.Spells c (quotedChar c).toList := by
  unfold quotedChar
  split
  · exact .letter '"' (by decide) rfl
  · exact .letter '\\' (by decide) rfl
  · exact .letter 't' (by decide) rfl
  · exact .letter 'r' (by decide) rfl
  · exact .letter 'n' (by decide) rfl
  · exact .letter '0' (by decide) rfl
  · next hquote hbackslash _ _ _ _ =>
      split
      · simpa [hexadecimal] using spells_codePoint c
      · simpa using .plain (by simpa using hquote) (by simpa using hbackslash) rfl

/-- Quoted text is read back. -/
theorem read?_quoted (s : String) : Quoting.visible.read? (quoted s) = some s :=
  Quoting.read?_join spells_quotedChar s

end TypedChannel.Text
