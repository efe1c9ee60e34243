/-!
# TypedChannel.Cli.Grammar

Reading the words of a command line one after another.

1. A word that starts with two dashes names an option, with its value behind
   an equals sign or in the next word; `--` alone makes every word after it a
   plain one. A word that starts with one dash names single-letter flags, or
   is a negative number where the option before it takes one.
2. Any other word is a subcommand, the value that an option waits for, or the
   next positional value.
3. A value is checked when the next argument starts, so of two faults in a
   line the later one may be told first: an unknown argument is told before a
   bad value right in front of it.
-/

namespace TypedChannel.Cli

/-! ## Refusals -/

/-- Why a command line does not lead to a command. -/
inductive UsageError where
  /-- Help was asked for. -/
  | help
  /-- The version was asked for. -/
  | version
  /-- Nothing was given at all. -/
  | nothingGiven
  | missingSubcommand
  | invalidSubcommand
  | unknownArgument
  | missingArgument
  /-- No value, or one that is not among those possible. -/
  | invalidValue
  /-- A value of the wrong form. -/
  | malformedValue
  | repeatedArgument
  /-- A value for a flag. -/
  | surplusValue
  deriving DecidableEq, Repr

/-- The exit code: asking for a text is no failure. -/
def UsageError.code : UsageError → Nat
  | help | version => 0
  | _ => 2

/-- What is told of a refusal. -/
def UsageError.message : UsageError → String
  | help | nothingGiven => "usage: wirechan [OPTIONS] <echo|send|limits|version>"
  | version => ""
  | missingSubcommand => "a subcommand is missing"
  | invalidSubcommand => "there is no such subcommand"
  | unknownArgument => "there is no such argument"
  | missingArgument => "an argument is missing"
  | invalidValue => "a value is missing or not among those possible"
  | malformedValue => "a value has the wrong form"
  | repeatedArgument => "an argument is given twice"
  | surplusValue => "a flag takes no value"

/-! ## Values -/

/-- What a value must look like. -/
inductive Reader where
  | text
  /-- A text with something in it. -/
  | nonEmpty
  | path
  | oneOf (names : List String)
  /-- An integer from `low` to `high`; without `signed` there must be no minus sign. -/
  | integer (low high : Int) (signed : Bool)
  deriving DecidableEq, Repr

/-- The number that decimal digits stand for. -/
def digits? (cs : List Char) : Option Nat :=
  if cs.isEmpty || cs.any (fun c => !c.isDigit) then none
  else some (cs.foldl (fun n c => 10 * n + (c.toNat - '0'.toNat)) 0)

/-- The integer that a text stands for: digits, with a sign or without. -/
def integer? (signed : Bool) (s : String) : Option Int :=
  match s.toList with
  | '+' :: cs => (digits? cs).map Int.ofNat
  | '-' :: cs => if signed then (digits? cs).map fun n => -(n : Int) else none
  | cs => (digits? cs).map Int.ofNat

/-- Why a value is refused, if it is. -/
def Reader.refusal? (reader : Reader) (value : String) : Option UsageError :=
  match reader with
  | .text => none
  | .nonEmpty => if value.isEmpty then some .malformedValue else none
  | .path => if value.isEmpty then some .invalidValue else none
  | .oneOf names => if names.contains value then none else some .invalidValue
  | .integer low high signed =>
    match integer? signed value with
    | none => some .malformedValue
    | some n => if low ≤ n && n ≤ high then none else some .malformedValue

/-! ## Arguments -/

/-- An argument: an option by its name, or a positional value. -/
structure Argument where
  name : String
  reader : Reader := .text
  /-- A flag has no value. -/
  isFlag : Bool := false
  /-- Whether the value may be a negative number. -/
  mayBeNegative : Bool := false
  /-- The environment variable that gives the value when the line does not. -/
  fallback? : Option String := none
  deriving DecidableEq, Repr

/-- What a command understands. -/
structure Grammar where
  options : List Argument
  positionals : List Argument := []
  subcommands : List String := []
  /-- Whether it tells its version. -/
  tellsVersion : Bool := false
  deriving DecidableEq, Repr

/-- Values by the names of their arguments. -/
abbrev Values := List (String × String)

/-- How far a line has been read. -/
structure Progress where
  values : Values := []
  /-- The argument that was named last, with the value it has got if any; it is yet to be checked. -/
  pending : Option (Argument × Option String) := none
  /-- The number of positional values so far. -/
  position : Nat := 0
  /-- Whether every word is a plain one from here on. -/
  trailing : Bool := false
  deriving DecidableEq, Repr

namespace Progress

/-- The option that waits for its value. -/
def awaiting? (progress : Progress) : Option Argument :=
  match progress.pending with
  | some (argument, none) => some argument
  | _ => none

/-- Accept a value for an argument, once. -/
def take (argument : Argument) (value : Option String) (progress : Progress) :
    Except UsageError Progress :=
  match value with
  | none => .error .invalidValue
  | some value =>
    if (progress.values.lookup argument.name).isSome then .error .repeatedArgument
    else
      match if argument.isFlag then none else argument.reader.refusal? value with
      | some refusal => .error refusal
      | none => .ok { progress with values := progress.values ++ [(argument.name, value)] }

/-- Check the value of the argument that was named last. -/
def settle (progress : Progress) : Except UsageError Progress :=
  match progress.pending with
  | none => .ok progress
  | some (argument, value) => { progress with pending := none }.take argument value

end Progress

/-! ## Words -/

/-- What a word leads to. -/
inductive Next where
  | goOn (progress : Progress)
  /-- The rest of the line belongs to a subcommand. -/
  | enter (subcommand : String)

/-- The name and the attached value of a word with two dashes. -/
def longName? (word : String) : Option (String × Option String) :=
  match word.toList with
  | '-' :: '-' :: c :: cs =>
    let name := (c :: cs).takeWhile (· != '=')
    match (c :: cs).drop name.length with
    | [] => some (String.ofList name, none)
    | _ :: value => some (String.ofList name, some (String.ofList value))
  | _ => none

/-- The letters of a word with one dash. -/
def letters? (word : String) : Option (List Char) :=
  match word.toList with
  | '-' :: c :: cs => if c = '-' then none else some (c :: cs)
  | _ => none

/-- Whether letters look like a number without its sign: digits, a point behind the first of them
and before any exponent, and an exponent with something in it. -/
def looksNumeric (cs : List Char) : Bool :=
  let mantissa := cs.takeWhile fun c => c != 'e' && c != 'E'
  let exponent := cs.drop mantissa.length
  let whole := mantissa.takeWhile Char.isDigit
  let wholeOnly := whole.length = mantissa.length
  let withPoint := !whole.isEmpty && (mantissa.drop whole.length).head? == some '.'
    && (mantissa.drop (whole.length + 1)).all Char.isDigit
  let exponentFits := match exponent with
    | [] => true
    | _ :: digits => !mantissa.isEmpty && !digits.isEmpty && digits.all Char.isDigit
  (wholeOnly || withPoint) && exponentFits

namespace Grammar

/-- Take the next positional value. -/
def positional (grammar : Grammar) (progress : Progress) (word : String) :
    Except UsageError Next := do
  match grammar.positionals[progress.position]? with
  | some argument =>
    let progress ← progress.settle
    return .goOn
      { progress with pending := some (argument, some word), position := progress.position + 1 }
  | none =>
    if grammar.subcommands.isEmpty || (progress.trailing && grammar.subcommands.contains word) then
      .error .unknownArgument
    else .error .invalidSubcommand

/-- Take a value that an option waits for, or the next positional one. -/
def plain (grammar : Grammar) (progress : Progress) (word : String) : Except UsageError Next :=
  match progress.awaiting? with
  | some argument => .ok (.goOn { progress with pending := some (argument, some word) })
  | none => grammar.positional progress word

/-- Whether an option of its own kind has this name: asking for help, or for the version. -/
def special? (grammar : Grammar) (name : String) : Option UsageError :=
  if name = "help" then some .help
  else if name = "version" && grammar.tellsVersion then some .version
  else none

/-- Take a named option. -/
def long (grammar : Grammar) (progress : Progress) (name : String) (attached : Option String) :
    Except UsageError Next :=
  match grammar.special? name, grammar.options.find? (·.name == name), attached with
  | some _, _, some _ => .error .surplusValue
  | some special, _, none => do
    let _ ← progress.settle
    .error special
  | none, none, _ => .error .unknownArgument
  | none, some argument, attached =>
    match argument.isFlag, attached with
    | true, some _ => .error .surplusValue
    | true, none => do return .goOn (← (← progress.settle).take argument (some "true"))
    | false, some value => do return .goOn (← (← progress.settle).take argument (some value))
    | false, none => do return .goOn { ← progress.settle with pending := some (argument, none) }

/-- Take single-letter flags; the first of them ends the line one way or another. -/
def short (grammar : Grammar) (progress : Progress) (word : String) (letters : List Char) :
    Except UsageError Next :=
  if progress.awaiting?.any (·.mayBeNegative) && looksNumeric letters then
    grammar.plain progress word
  else
    let special := match letters with
      | 'h' :: _ => grammar.special? "help"
      | 'V' :: _ => grammar.special? "version"
      | _ => none
    match special with
    | none => .error .unknownArgument
    | some special => do
      let _ ← progress.settle
      .error special

/-- Read one word. -/
def step (grammar : Grammar) (progress : Progress) (word : String) : Except UsageError Next :=
  if progress.trailing then grammar.positional progress word
  else if progress.awaiting?.isNone && grammar.subcommands.contains word then .ok (.enter word)
  else if word = "--" then .ok (.goOn { progress with trailing := true })
  else
    match longName? word, letters? word with
    | some (name, attached), _ => grammar.long progress name attached
    | none, some letters => grammar.short progress word letters
    | none, none => grammar.plain progress word

/-- Read words up to a subcommand or to the end. Gives the subcommand with the words after it. -/
def read (grammar : Grammar) :
    Progress → List String → Except UsageError (Progress × Option (String × List String))
  | progress, [] => .ok (progress, none)
  | progress, word :: words =>
    match grammar.step progress word with
    | .error e => .error e
    | .ok (.enter subcommand) => .ok (progress, some (subcommand, words))
    | .ok (.goOn progress) => grammar.read progress words

/-! ## The end of a line -/

/-- Take the values of arguments that the line does not give from the environment. -/
def addVariables (environment : Values) :
    List Argument → Progress → Except UsageError Progress
  | [], progress => .ok progress
  | argument :: arguments, progress =>
    let given := argument.fallback?.bind fun name => environment.lookup name
    match progress.values.lookup argument.name, given with
    | none, some value => do
      addVariables environment arguments (← progress.take argument (some value))
    | _, _ => addVariables environment arguments progress

/-- The values of a line that has been read to its end. -/
def finish (grammar : Grammar) (environment : Values) (progress : Progress) :
    Except UsageError Values := do
  let progress ← addVariables environment grammar.positionals (← progress.settle)
  if grammar.positionals.any fun argument => (progress.values.lookup argument.name).isNone then
    .error .missingArgument
  else
    return progress.values

end Grammar

end TypedChannel.Cli
