import Highlight.Unicode.Cells

/-!
# The width of a text

How many cells of a terminal a text takes.  Mostly this is the sum over its characters, but some
are drawn together with what follows them: a picture with its selector, its skin tone or the
pictures that joiners hold to it, the two halves of a flag, and the letters of some scripts.  So a
text is measured from its end, and each character is placed in front of what is known about
the characters behind it.
-/

namespace Highlight.Text

/-! ### What stands behind a place -/

/-- A letter that can be drawn together with what stands before it. -/
inductive JoiningLetter where
  /-- An Arabic alef, which a lam before it takes in. -/
  | alef
  /-- A Hebrew lamed, to which an alef can be joined. -/
  | lamed
  /-- A Khmer letter, which is written below the one before it on demand. -/
  | subscript
  /-- A Buginese ya, to which a vowel sign can be joined. -/
  | ya
  /-- A Buginese vowel sign joined to a ya. -/
  | vowelOfYa
  /-- A Tifinagh consonant. -/
  | tifinagh
  /-- A Tifinagh consonant behind the mark that joins it to another one. -/
  | markedTifinagh
  /-- The second of two Lisu tone letters. -/
  | tone
  /-- A letter of the Orkhon script, to which another one can be joined. -/
  | orkhonI
deriving DecidableEq, Repr

/-- What stands behind a place, as far as it can be drawn together with what stands before. -/
inductive Follower where
  | plain
  | letter (l : JoiningLetter) (joined : Bool)
  | picture
  | skinTone
  /-- A character that is one half of a flag. -/
  | flagHalf
  | flagHalves
  /-- A joiner and a picture. -/
  | joinedPicture
  /-- The sign of a key, a joiner and a picture. -/
  | joinedKey
  /-- The half of a flag, a joiner and a picture. -/
  | joinedFlagHalf
  /-- More halves of flags, in an even number or not, a joiner and a picture. -/
  | joinedFlagHalves (even : Bool)
  /-- Tags at the end of the name of a region: its last letters, or as many digits behind which
  no letter has come yet. -/
  | regionTags (letters digits : Nat)
deriving DecidableEq, Repr

/-- What a selector asks the character before it to be drawn as. -/
inductive Selector where
  | text
  | picture
deriving DecidableEq, Repr

/-- What is known about the characters behind a place. -/
structure Outlook where
  follower : Follower := .plain
  /-- The selector at the place. -/
  selector : Option Selector := none
deriving DecidableEq, Repr

namespace Follower

def isJoinedPicture : Follower → Bool
  | joinedPicture | joinedKey => true
  | _ => false

/-- The follower behind a selector that asks for nothing. -/
def pastSelector : Follower → Follower
  | letter l joined => letter l joined
  | _ => plain

/-- The follower behind a selector at the place. -/
def behind (f : Follower) : Selector → Follower
  | .picture => if f.isJoinedPicture then f else f.pastSelector
  | .text => f.pastSelector

end Follower

/-! ### Kinds of characters -/

/-- Joins the pictures or letters around it into one. -/
def joiner : Char := '\u200D'

/-- The selector that a character is. -/
def selector? : Char → Option Selector
  | '\uFE0E' => some .text
  | '\uFE0F' => some .picture
  | _ => none

/-- The character is a picture by itself. -/
def isPicture (c : Char) : Bool :=
  Unicode.inRanges Unicode.pictureRanges c.toNat

/-- The character is a picture by itself that is text on demand. -/
def isTextOnDemand (c : Char) : Bool :=
  Unicode.inRanges Unicode.textOnDemandRanges c.toNat

/-- The selector is meant for the character. -/
def isSelectable (c : Char) : Selector → Bool
  | .picture => isTextOnDemand c || Unicode.inRanges Unicode.pictureOnDemandRanges c.toNat
  -- ideographs in squares stay as wide as they are
  | .text => isTextOnDemand c && !Unicode.inRanges [(0x1F200, 0x1F2FF)] c.toNat

/-- The character is one of the five skin tones. -/
def isSkinTone (c : Char) : Bool :=
  Unicode.inRanges [(0x1F3FB, 0x1F3FF)] c.toNat

/-- The character is one half of a flag. -/
def isFlagHalf (c : Char) : Bool :=
  Unicode.inRanges [(0x1F1E6, 0x1F1FF)] c.toNat

def isTifinagh (c : Char) : Bool :=
  Unicode.inRanges Unicode.tifinaghRanges c.toNat

/-- Letters around the character are drawn as if it were not there. -/
def isSeeThrough (c : Char) : Bool :=
  Unicode.inRanges Unicode.seeThroughRanges c.toNat

/-- The character is a mark on the Arabic letter before it. -/
def isArabicMark (c : Char) : Bool :=
  Unicode.cells c == 0 && !Unicode.inRanges Unicode.separatingRanges c.toNat

/-- What a character is to the characters before it. -/
def follower (c : Char) : Follower :=
  if isPicture c then .picture
  else if isSkinTone c then .skinTone
  else if isFlagHalf c then .flagHalf
  else if Unicode.inRanges Unicode.alefRanges c.toNat then .letter .alef false
  else if Unicode.inRanges Unicode.subscriptRanges c.toNat then .letter .subscript false
  else if isTifinagh c then .letter .tifinagh false
  else
    match c with
    | '\u05DC' => .letter .lamed false
    | '\u1A10' => .letter .ya false
    | '\uA4FC' | '\uA4FD' => .letter .tone false
    | c => if c.toNat = 0x10C03 then .letter .orkhonI false else .plain

/-! ### Drawing characters together -/

/-- The cells that a character adds in front of a letter, and what the character together with the
letter is to the characters before it, if the two are drawn together. -/
def joinLetter (c : Char) (l : JoiningLetter) (joined : Bool) : Option (Int × Follower) :=
  match l with
  | .alef =>
    if Unicode.inRanges Unicode.lamRanges c.toNat then some (0, .plain)
    else if isArabicMark c then some (0, .letter .alef joined)
    else none
  | l =>
    if c = joiner then some (0, .letter l true)
    else if isSeeThrough c then some (0, .letter l joined)
    else
      match l, joined, c with
      | .lamed, true, '\u05D0' => some (0, .plain)
      | .subscript, _, '\u17D2' => some (-1, .plain)
      | .ya, true, '\u1A17' => some (0, .letter .vowelOfYa true)
      | .vowelOfYa, _, '\u1A15' => some (0, .plain)
      | .tifinagh, _, '\u2D7F' => some (1, .letter .markedTifinagh true)
      | .tifinagh, true, c => if isTifinagh c then some (0, .plain) else none
      | .markedTifinagh, _, c => if isTifinagh c then some (-1, .plain) else none
      | .tone, _, c =>
        if Unicode.inRanges [(0xA4F8, 0xA4FB)] c.toNat then some (0, .plain) else none
      | .orkhonI, true, c => if c.toNat = 0x10C32 then some (0, .plain) else none
      | _, _, _ => none

/-- The same in front of tags for a region: three to six letters, or three digits, behind the black
flag are one picture. -/
def joinTags (c : Char) (letters digits : Nat) : Option (Int × Follower) :=
  if c.toNat = 0x1F3F4 then
    if 3 ≤ letters ∧ digits = 0 ∨ digits = 3 then some (0, .picture) else none
  else if Unicode.inRanges [(0xE0061, 0xE007A)] c.toNat then
    if letters < 6 ∧ digits = 0 then some (0, .regionTags (letters + 1) 0) else none
  else if Unicode.inRanges [(0xE0030, 0xE0039)] c.toNat then
    if letters ≤ 4 ∧ digits < 3 then some (0, .regionTags letters (digits + 1)) else none
  else none

/-- The same in front of a joiner and a picture. -/
def joinPicture (c : Char) : Option (Int × Follower) :=
  if c = '\u20E3' then some (0, .joinedKey)
  else if isFlagHalf c then some (1, .joinedFlagHalf)
  else if isSkinTone c then some (0, .skinTone)
  else if c.toNat = 0xE007F then some (0, .regionTags 0 0)
  else if isPicture c then some (0, .picture)
  else none

/-- The cells that a character adds in front of its follower, and what the two together are to
the characters before them, if they are drawn together. -/
def join? (c : Char) : Follower → Option (Int × Follower)
  | .plain | .joinedKey => none
  | .letter l joined => joinLetter c l joined
  | .picture => if c = joiner then some (0, .joinedPicture) else none
  | .skinTone =>
    if c = joiner then some (0, .joinedPicture)
    else if Unicode.inRanges Unicode.skinToneBaseRanges c.toNat then some (0, .picture)
    else none
  | .flagHalf => if isFlagHalf c then some (1, .flagHalves) else none
  | .flagHalves =>
    if c = joiner then some (0, .joinedPicture)
    else if isFlagHalf c then some (1, .flagHalves)
    else none
  | .joinedPicture => joinPicture c
  | .joinedFlagHalf => if isFlagHalf c then some (-1, .joinedFlagHalves true) else none
  | .joinedFlagHalves even =>
    if isFlagHalf c then some (if even then 3 else -1, .joinedFlagHalves (!even))
    else if even && c = joiner then some (0, .joinedPicture)
    else none
  | .regionTags letters digits => joinTags c letters digits

/-- The cells that a character adds in front of a follower, and the outlook from before it. -/
def placeBefore (c : Char) (f : Follower) : Int × Outlook :=
  if c ≤ '\u00A0' then (1, {})
  else
    match selector? c with
    | some s => (0, ⟨f.behind s, some s⟩)
    | none =>
      match join? c f with
      | some (n, g) => (n, ⟨g, none⟩)
      | none => (Unicode.cells c, ⟨follower c, none⟩)

/-- The cells that a character adds, and the outlook from before it. -/
def place (c : Char) (o : Outlook) : Int × Outlook :=
  match o.selector with
  | none => placeBefore c o.follower
  | some s =>
    if isSelectable c s then
      match s with
      | .text => (1, {})
      | .picture => (if o.follower.isJoinedPicture then 0 else 2, ⟨.picture, none⟩)
    else placeBefore c o.follower.pastSelector

/-- The cells of a text, and the outlook from its start. -/
def measure (text : List Char) : Int × Outlook :=
  text.foldr (fun c (n, o) => let (k, o) := place c o; (n + k, o)) (0, {})

/-- The cells of a text. -/
def width (text : List Char) : Nat :=
  (measure text).1.toNat

end Highlight.Text
