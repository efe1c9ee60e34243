/-!
# TypedChannel.Address

Internet addresses, their text, and the grammar that reads it.

1. A version 4 address is four decimal numbers of at most three digits
   without leading zeros, joined by points.
2. A version 6 address is eight groups of at most four hexadecimal digits
   joined by colons. `::` stands for one or more groups of zeros, and the last
   two groups may be written as a version 4 address.
3. In the printed form `::` replaces the first of the longest runs of at least
   two zero groups, and an address that maps a version 4 one ends with that.
4. A socket address is an address and a port; a version 6 one is bracketed, and
   may tell its zone by a number other than 0 behind a percent sign.
-/

namespace TypedChannel

/-- An internet address, as the numbers it is written with. -/
inductive IpAddress where
  /-- The four bytes of a version 4 address. -/
  | v4 (octets : List Nat)
  /-- The eight 16-bit groups of a version 6 address. -/
  | v6 (groups : List Nat)
  deriving DecidableEq, Repr

/-- The two versions of the internet protocol. -/
inductive IpFamily where
  | v4
  | v6
  deriving DecidableEq, Repr

namespace IpAddress

def family : IpAddress → IpFamily
  | v4 _ => .v4
  | v6 _ => .v6

/-- The address that stands for every address of a family. -/
def unspecified : IpFamily → IpAddress
  | .v4 => v4 [0, 0, 0, 0]
  | .v6 => v6 [0, 0, 0, 0, 0, 0, 0, 0]

/-- The address by which a host reaches itself. -/
def loopback : IpFamily → IpAddress
  | .v4 => v4 [127, 0, 0, 1]
  | .v6 => v6 [0, 0, 0, 0, 0, 0, 0, 1]

/-! ## Text -/

/-- Numbers written by `digits` and joined by `separator`. -/
def joined (separator : String) (digits : Nat → String) (numbers : List Nat) : String :=
  separator.intercalate (numbers.map digits)

/-- A group in lower-case hexadecimal. -/
def groupText (n : Nat) : String := String.ofList (Nat.toDigits 16 n)

/-- The start and length of the first longest run of zeros; `start` counts the groups before
`groups`, and `current` is the run that ends there. -/
def longestZeros (start : Nat) (current best : Nat × Nat) : List Nat → Nat × Nat
  | [] => best
  | g :: groups =>
    if g = 0 then
      let current := if current.2 = 0 then (start, 1) else (current.1, current.2 + 1)
      longestZeros (start + 1) current (if best.2 < current.2 then current else best) groups
    else longestZeros (start + 1) (0, 0) best groups

/-- The text of an address. -/
def text : IpAddress → String
  | v4 octets => joined "." toString octets
  | v6 [0, 0, 0, 0, 0, 0xffff, high, low] =>
    "::ffff:" ++ joined "." toString [high / 256, high % 256, low / 256, low % 256]
  | v6 groups =>
    let (start, length) := longestZeros 0 (0, 0) (0, 0) groups
    if 1 < length then
      joined ":" groupText (groups.take start) ++ "::" ++
        joined ":" groupText (groups.drop (start + length))
    else joined ":" groupText groups

/-! ## Grammar -/

/-- The value of a digit in base `base`. -/
def digit? (base : Nat) (c : Char) : Option Nat :=
  let value :=
    if '0' ≤ c && c ≤ '9' then c.toNat - '0'.toNat
    else if 'a' ≤ c && c ≤ 'f' then c.toNat - 'a'.toNat + 10
    else if 'A' ≤ c && c ≤ 'F' then c.toNat - 'A'.toNat + 10
    else base
  if value < base then some value else none

/-- A number below `bound` of at most `maxDigits` digits, and the text after it. -/
def number? (base maxDigits bound : Nat) (leadingZeros : Bool) (cs : List Char) :
    Option (Nat × List Char) :=
  let digits := cs.takeWhile fun c => (digit? base c).isSome
  let value := digits.foldl (fun n c => base * n + (digit? base c).getD 0) 0
  let refused := digits.isEmpty || maxDigits < digits.length || bound ≤ value
    || (!leadingZeros && 1 < digits.length && digits.head? == some '0')
  if refused then none else some (value, cs.drop digits.length)

/-- The text after `separator`, or after nothing before the first of several parts. -/
def separated? (separator : Char) (first : Bool) (cs : List Char) : Option (List Char) :=
  match first, cs with
  | true, _ => some cs
  | false, c :: rest => if c = separator then some rest else none
  | false, [] => none

/-- `count` more bytes of a version 4 address. -/
def octets? (first : Bool) : Nat → List Char → Option (List Nat × List Char)
  | 0, cs => some ([], cs)
  | count + 1, cs => do
    let cs ← separated? '.' first cs
    let (octet, cs) ← number? 10 3 256 false cs
    let (octets, cs) ← octets? false count cs
    some (octet :: octets, cs)

/-- As many groups of a version 6 address as can be read, up to `count`, whether the last two
were written as a version 4 address, and the text after them. -/
def readGroups (first : Bool) : Nat → List Char → List Nat × Bool × List Char
  | 0, cs => ([], false, cs)
  | count + 1, cs =>
    let embedded := if count = 0 then none else (separated? ':' first cs).bind (octets? true 4)
    match embedded with
    | some ([a, b, c, d], rest) => ([256 * a + b, 256 * c + d], true, rest)
    | _ =>
      match (separated? ':' first cs).bind (number? 16 4 65536 true) with
      | none => ([], false, cs)
      | some (group, rest) =>
        let (groups, embedded, rest) := readGroups false count rest
        (group :: groups, embedded, rest)

/-- A version 6 address and the text after it. -/
def readV6? (cs : List Char) : Option (IpAddress × List Char) :=
  let (front, embedded, rest) := readGroups true 8 cs
  if front.length = 8 then some (v6 front, rest)
  else if embedded then none
  else match rest with
    | ':' :: ':' :: rest =>
      let (back, _, rest) := readGroups true (7 - front.length) rest
      some (v6 (front ++ List.replicate (8 - front.length - back.length) 0 ++ back), rest)
    | _ => none

/-- A version 4 address and the text after it. -/
def readV4? (cs : List Char) : Option (IpAddress × List Char) :=
  (octets? true 4 cs).map fun (octets, rest) => (v4 octets, rest)

/-- The address that a text stands for. -/
def parse? (s : String) : Option IpAddress :=
  match (readV4? s.toList).or (readV6? s.toList) with
  | some (address, []) => some address
  | _ => none

end IpAddress

/-! ## Socket addresses -/

/-- An address and a port on it. -/
structure SocketAddress where
  ip : IpAddress
  port : UInt16
  /-- The zone of a version 6 address. -/
  zone : UInt32 := 0
  deriving DecidableEq, Repr

namespace SocketAddress

def family (address : SocketAddress) : IpFamily := address.ip.family

/-- The text of a socket address. -/
def text (address : SocketAddress) : String :=
  match address.ip with
  | .v4 _ => s!"{address.ip.text}:{address.port}"
  | .v6 _ =>
    let zone := if address.zone = 0 then "" else "%" ++ toString address.zone
    s!"[{address.ip.text}{zone}]:{address.port}"

/-- A port at the end of a text, after a colon. -/
def portAfterColon? : List Char → Option UInt16
  | ':' :: cs =>
    match IpAddress.number? 10 cs.length 65536 true cs with
    | some (port, []) => some port.toUInt16
    | _ => none
  | _ => none

/-- A zone at the start of a text, and the text after it; a text that does not start with one
names zone 0. -/
def readZone (cs : List Char) : UInt32 × List Char :=
  match cs with
  | '%' :: rest =>
    match IpAddress.number? 10 rest.length 4294967296 true rest with
    | some (zone, rest) => (zone.toUInt32, rest)
    | none => (0, cs)
  | _ => (0, cs)

/-- The socket address that a text stands for. -/
def parse? (s : String) : Option SocketAddress :=
  match s.toList with
  | '[' :: cs => do
    let (ip, rest) ← IpAddress.readV6? cs
    match readZone rest with
    | (zone, ']' :: rest) => (portAfterColon? rest).map ({ ip, port := ·, zone })
    | _ => none
  | cs => do
    let (ip, rest) ← IpAddress.readV4? cs
    (portAfterColon? rest).map ({ ip, port := · })

end SocketAddress

end TypedChannel
