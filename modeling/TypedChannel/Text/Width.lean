import TypedChannel.Text.CharWidth
import TypedChannel.Text.Emoji
import TypedChannel.Text.Ligature
/-!
# TypedChannel.Text.Width

How many terminal columns a text takes.

1. Most characters take their own columns. Some join what follows them: the
   two then take the columns of one.
2. Pictures join by a joiner between them, a picture joins the modifier that
   follows it, and two letters make a flag. A variation selector makes its base
   a picture of two columns or a text of one.
3. In eight scripts certain letters are written as one. What no reader sees may
   stand between them.

A text is read from its end, so that what follows a character is known when
the character is met.
-/

namespace TypedChannel.Text

/-- A variation selector. -/
inductive Selector where
  /-- Asks for a picture. -/
  | emoji
  | text
  /-- Asks for a quotation mark of two columns. -/
  | broadQuote
  deriving DecidableEq, Repr

/-- What a character finds behind itself that it may join. Where `joined` occurs, it tells whether
a joiner has been met. -/
inductive Tail where
  | other
  | picture
  | modifier
  /-- One letter of a flag. -/
  | flagLetter
  | flagLetters
  /-- A joiner and a picture. -/
  | joinedPicture
  /-- The frame of a key, joined to a picture. -/
  | joinedKey
  /-- One letter of a flag, joined to a picture. -/
  | joinedFlagLetter
  /-- Several letters of flags, joined to a picture; whether they are pairs. -/
  | joinedFlags (paired : Bool)
  /-- Letters and digits that name the region of a flag, joined to a picture. -/
  | joinedRegion (letters digits : Nat)
  | alef
  | lamed (joined : Bool)
  | ya (joined : Bool)
  /-- A vowel sign and a joined `ya`. -/
  | signedYa
  | tifinagh (joined : Bool)
  /-- The Tifinagh joiner and a consonant. -/
  | joinedTifinagh
  | lisuTone
  | orkhonI (joined : Bool)
  /-- A Khmer letter that can be written below another. -/
  | khmerSubscript
  | kiratRaiE
  | kiratRaiAi
  deriving DecidableEq, Repr

namespace Tail

/-- Whether the tail is the end of a ligature of letters, which a variation selector does not
break. -/
def isLigature : Tail → Bool
  | alef | lamed _ | ya _ | signedYa | tifinagh _ | joinedTifinagh | lisuTone | orkhonI _
  | khmerSubscript => true
  | _ => false

/-- The tail that a character is by itself. -/
def ofChar (c : Char) : Tail :=
  let n := c.toNat
  if alefs.contains c then alef
  else if n = 0x5dc then lamed false
  else if n = 0x1a10 then ya false
  else if tifinaghConsonants.contains c then tifinagh false
  else if lisuTones.contains c then lisuTone
  else if n = 0x10c03 then orkhonI false
  else if khmerSubscripts.contains c then khmerSubscript
  else if n = 0x16d67 then kiratRaiE
  else if n = 0x16d68 then kiratRaiAi
  else if isFlagLetter c then flagLetter
  else if isModifier c then modifier
  else if pictures.contains c then picture
  else other

/-- How a joiner joins the tail to what stands before it. -/
def join? : Tail → Option Tail
  | picture | modifier | flagLetters | joinedFlags _ => some joinedPicture
  | lamed _ => some (lamed true)
  | ya _ => some (ya true)
  | tifinagh _ => some (tifinagh true)
  | orkhonI _ => some (orkhonI true)
  | signedYa => some signedYa
  | joinedTifinagh => some joinedTifinagh
  | lisuTone => some lisuTone
  | khmerSubscript => some khmerSubscript
  | _ => none

/-- How a picture, or a part of one, joins the tail: the columns that it adds, and the tail that
the two make. -/
def joinPicture? (tail : Tail) (c : Char) : Option (Int × Tail) :=
  let n := c.toNat
  match tail with
  | modifier => if modifierBases.contains c then some (0, picture) else none
  | flagLetter | flagLetters => if isFlagLetter c then some (1, flagLetters) else none
  | joinedPicture =>
    if n = 0x20e3 then some (0, joinedKey)
    else if isFlagLetter c then some (1, joinedFlagLetter)
    else if isModifier c then some (0, modifier)
    else if n = 0xe007f then some (0, joinedRegion 0 0)
    else if pictures.contains c then some (0, picture)
    else none
  | joinedFlagLetter => if isFlagLetter c then some (-1, joinedFlags true) else none
  | joinedFlags paired =>
    if isFlagLetter c then some (if paired then 3 else -1, joinedFlags !paired) else none
  | joinedRegion letters digits =>
    if 0xe0061 ≤ n && n ≤ 0xe007a && digits = 0 && letters < 6 then
      some (0, joinedRegion (letters + 1) 0)
    else if 0xe0030 ≤ n && n ≤ 0xe0039 && (if digits = 0 then letters < 5 else digits < 3) then
      some (0, joinedRegion letters (digits + 1))
    else if n = 0x1f3f4 && (if digits = 0 then 3 ≤ letters else digits = 3) then
      some (0, picture)
    else none
  | _ => none

/-- How a letter joins the tail: the columns that it adds, and the tail that the two make. -/
def joinLetter? (tail : Tail) (c : Char) : Option (Int × Tail) :=
  let n := c.toNat
  match tail with
  | alef =>
    if lams.contains c then some (0, other)
    else if joinsAcross c then some (0, alef)
    else none
  | lamed true => if n = 0x5d0 then some (0, other) else none
  | ya true => if n = 0x1a17 then some (0, signedYa) else none
  | signedYa => if n = 0x1a15 then some (0, other) else none
  | tifinagh joined =>
    if n = 0x2d7f then some (1, joinedTifinagh)
    else if joined && tifinaghConsonants.contains c then some (0, other)
    else none
  | joinedTifinagh => if tifinaghConsonants.contains c then some (-1, other) else none
  | lisuTone => if lisuFirstTones.contains c then some (0, other) else none
  | orkhonI true => if n = 0x10c32 then some (0, other) else none
  | khmerSubscript => if n = 0x17d2 then some (-1, other) else none
  | kiratRaiE =>
    if n = 0x16d63 || n = 0x16d69 then some (0, other)
    else if n = 0x16d67 then some (0, kiratRaiAi)
    else if n = 0x16d68 then some (1, kiratRaiE)
    else none
  | kiratRaiAi => if n = 0x16d63 then some (0, other) else none
  | _ => none

end Tail

/-- The selector that a character is. -/
def Selector.ofChar? (c : Char) : Option Selector :=
  match c.toNat with
  | 0xfe0f => some .emoji
  | 0xfe0e => some .text
  | 0xfe01 => some .broadQuote
  | _ => none

/-- A tail, and the selector before it. -/
structure Following where
  tail : Tail := .other
  selector : Option Selector := none
  deriving DecidableEq, Repr

namespace Following

/-- What follows, now that a selector has been met. -/
def select (following : Following) (selector : Selector) : Following :=
  let isKept : Bool := match following.tail with
    | .joinedPicture | .joinedKey => selector == .emoji
    | tail => tail.isLigature
  { tail := if isKept then following.tail else .other, selector := some selector }

/-- What follows, when a character is no base of the selector: the selector is gone, and so is all
that is not a ligature. -/
def unselected (following : Following) : Following :=
  { tail := if following.selector.isNone || following.tail.isLigature then following.tail
            else .other }

/-- The columns of a base and its selector, if the character is such a base. -/
def selected? (following : Following) (c : Char) : Option (Int × Following) :=
  match following.selector with
  | some .emoji =>
    if variationBases.contains c then
      let isJoined := following.tail = .joinedPicture || following.tail = .joinedKey
      some (if isJoined then 0 else 2, { tail := .picture })
    else none
  | some .text => if canBeText c then some (1, {}) else none
  | some .broadQuote =>
    if [0x2018, 0x2019, 0x201c, 0x201d].contains c.toNat then some (2, {}) else none
  | none => none

/-- The columns that a character adds to what follows it, and what then follows the next one. -/
def extend (c : Char) (following : Following) : Int × Following :=
  match following.selected? c with
  | some added => added
  | none =>
    match Selector.ofChar? c with
    | some selector =>
      let kept := if following.selector = some .emoji then following.unselected else following
      (0, kept.select selector)
    | none =>
      let tail := following.unselected.tail
      let joiner := if c.toNat = 0x200d then tail.join? else none
      if let some joined := joiner then (0, { tail := joined })
      else if tail.isLigature && tail != .alef && unseenMarks.contains c then (0, { tail })
      else match (tail.joinPicture? c).or (tail.joinLetter? c) with
        | some (columns, tail) => (columns, { tail })
        | none => (charWidth c, { tail := .ofChar c })

end Following

/-- The columns of a text. -/
def width (s : String) : Nat :=
  (s.toList.foldr (fun c (columns, following) =>
      let (added, following) := Following.extend c following
      (columns + added, following)) ((0 : Int), ({} : Following))).1.toNat

end TypedChannel.Text
