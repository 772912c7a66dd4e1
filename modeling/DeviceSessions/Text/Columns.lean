import DeviceSessions.Text.Lowercase
import DeviceSessions.Text.ColumnsTable

/-!
# Columns

How many columns a text takes on a terminal: two for wide characters, none for those that join
the character before them, one for the rest, controls included. Some characters take another width
next to others: emoji sequences are as wide as one emoji, and letters that scripts draw as one take
the columns of one. A text is read from its end, so that the character in hand meets what
follows it.
-/

namespace DeviceSessions.Text

/-- What the rest of a text begins with, as far as the character before it may join it. -/
inductive Opening where
  /-- Nothing that joins. -/
  | plain
  /-- A line feed. -/
  | lineFeed
  /-- An emoji, a skin tone, one regional indicator, several of them. -/
  | emoji
  | modifier
  | region
  | regions
  /-- A joiner and an emoji, and a keycap before them. -/
  | joinedEmoji
  | joinedKeycap
  /-- Regional indicators before a joiner and an emoji: the first, and an even or odd number. -/
  | joinedRegion
  | joinedEven
  | joinedOdd
  /-- The end of a tag sequence before a joiner and an emoji, with its letters or digits. -/
  | tagEnd
  | tagLetters (count : Nat)
  | tagDigits (count : Nat)
  /-- A Kirat Rai vowel sign E or AI. -/
  | kiratE
  | kiratAi
  /-- An Arabic letter of the alef group. -/
  | alef
  /-- A Hebrew lamed. -/
  | lamed
  /-- A Buginese ya, and one with a joiner and the vowel I before it. -/
  | ya
  | iYa
  /-- A Tifinagh consonant, and one with the consonant joiner before it. -/
  | tifinagh
  | tifinaghJoiner
  /-- A Lisu tone letter of the second kind. -/
  | lisuTone
  /-- An Old Turkic I. -/
  | orkhonI
  /-- A Khmer letter with a subscript form. -/
  | khmer
  deriving DecidableEq, Repr

namespace Opening

/-- The openings of letters that may join over marks. -/
def isLetter : Opening → Bool
  | alef | lamed | ya | iYa | tifinagh | tifinaghJoiner | lisuTone | orkhonI | khmer => true
  | _ => false

/-- The openings that join over joiners and marks that show nothing. -/
def seesThrough (o : Opening) : Bool := o.isLetter && o != alef

/-- The openings of emoji that a joiner already binds. -/
def isJoinedEmoji : Opening → Bool
  | joinedEmoji | joinedKeycap => true
  | _ => false

end Opening

/-- The form that a variation selector asks of the character before it. -/
inductive Form where
  | emoji
  | text
  | full
  deriving DecidableEq, Repr

/-- What the character in hand has after it. -/
structure Ahead where
  /-- The opening of the rest. -/
  opening : Opening := .plain
  /-- Whether a joiner stands before it. -/
  joined : Bool := false
  /-- The form a selector in front of it asks for. -/
  form : Option Form := none
  deriving DecidableEq, Repr

namespace Ahead

/-- A rest with an opening. -/
def of (o : Opening) : Ahead := { opening := o }

/-- A rest with a selector put in front. Letters still join over it, and so does an emoji form with
a joined emoji; every other opening is cut off. -/
def select (a : Ahead) (f : Form) : Ahead :=
  if a.opening.isLetter || (f = .emoji && a.opening.isJoinedEmoji) then { a with form := some f }
  else { form := some f }

/-- A rest whose selector for the emoji form found no emoji. -/
def unselect (a : Ahead) : Ahead :=
  if a.opening.isLetter then { a with form := none } else {}

end Ahead

/-- Whether `n` is from `first` to `last`. -/
def within (first last n : Nat) : Bool := first ≤ n && n ≤ last

/-- Characters with an emoji form to select. -/
def hasEmojiForm (n : Nat) : Bool := inRanges emojiFormRanges n

/-- Emoji with a narrow text form to select. -/
def hasTextForm (n : Nat) : Bool :=
  hasEmojiForm n && inRanges emojiRanges n && !within 0x1f200 0x1f2ff n

/-- Quotation marks with a form of full width to select. -/
def isCurlyQuote (n : Nat) : Bool := n == 0x2018 || n == 0x2019 || n == 0x201c || n == 0x201d

/-- Combining marks that show nothing. -/
def isHiddenMark (n : Nat) : Bool :=
  n == 0x34f || within 0x17b4 0x17b5 n || within 0x180b 0x180d n || n == 0x180f ||
    within 0xfe00 0xfe0f n || within 0xe0100 0xe01ef n

/-- Characters without columns that Arabic letters join over. -/
def isTransparent (n : Nat) : Bool := inRanges zeroWidthRanges n && !inRanges solidRanges n

/-- Arabic letters of the lam group. -/
def isLam (n : Nat) : Bool :=
  n == 0x644 || within 0x6b5 0x6b8 n || n == 0x76a || n == 0x8a6 || n == 0x8c7

/-- Arabic letters of the alef group. -/
def isAlef (n : Nat) : Bool :=
  within 0x622 0x623 n || n == 0x625 || n == 0x627 || within 0x671 0x673 n || n == 0x675 ||
    within 0x773 0x774 n || within 0x870 0x882 n

/-- Tifinagh consonants. -/
def isTifinagh (n : Nat) : Bool := within 0x2d31 0x2d65 n || n == 0x2d6f

/-- Khmer letters with a subscript form. -/
def isKhmer (n : Nat) : Bool :=
  within 0x1780 0x1782 n || within 0x1784 0x1787 n || within 0x1789 0x178c n ||
    within 0x178e 0x1793 n || within 0x1795 0x1798 n || within 0x179b 0x179d n || n == 0x17a0 ||
    n == 0x17a2 || n == 0x17a7 || within 0x17ab 0x17ac n || n == 0x17af

/-- Regional indicators, two of which are a flag. -/
def isRegion (n : Nat) : Bool := within 0x1f1e6 0x1f1ff n

/-- Skin tones. -/
def isModifier (n : Nat) : Bool := within 0x1f3fb 0x1f3ff n

/-- The opening that a character is for the one before it. -/
def openingOf (n : Nat) : Opening :=
  if n == 0x0a then .lineFeed
  else if n == 0x5dc then .lamed
  else if isAlef n then .alef
  else if isKhmer n then .khmer
  else if n == 0x1a10 then .ya
  else if isTifinagh n then .tifinagh
  else if within 0xa4fc 0xa4fd n then .lisuTone
  else if n == 0x10c03 then .orkhonI
  else if n == 0x16d67 then .kiratE
  else if n == 0x16d68 then .kiratAi
  else if isRegion n then .region
  else if isModifier n then .modifier
  else if inRanges emojiRanges n then .emoji
  else .plain

/-- The columns of a character by itself. -/
def columnsOf (n : Nat) : Nat :=
  if n ≤ 0xa0 then 1
  else if n == 0x17d8 then 3
  else if inRanges zeroWidthRanges n then 0
  else if inRanges wideRanges n then 2
  else 1

/-- The columns a character adds to those of the rest when it joins the rest's opening, and what it
then is for the character before it. A character may take back columns that were counted. -/
def joins? (opening : Opening) (joined : Bool) (n : Nat) : Option (Int × Opening) :=
  match opening with
  | .alef =>
    if isLam n then some (0, .plain)
    else if isTransparent n then some (0, .alef)
    else none
  | .lamed => if joined && n == 0x5d0 then some (0, .plain) else none
  | .khmer => if n == 0x17d2 then some (-1, .plain) else none
  | .ya => if joined && n == 0x1a17 then some (0, .iYa) else none
  | .iYa => if n == 0x1a15 then some (0, .plain) else none
  | .tifinagh =>
    if n == 0x2d7f then some (1, .tifinaghJoiner)
    else if joined && isTifinagh n then some (0, .plain)
    else none
  | .tifinaghJoiner => if isTifinagh n then some (-1, .plain) else none
  | .lisuTone => if within 0xa4f8 0xa4fb n then some (0, .plain) else none
  | .orkhonI => if joined && n == 0x10c32 then some (0, .plain) else none
  | .kiratE =>
    if n == 0x16d63 || n == 0x16d69 then some (0, .plain)
    else if n == 0x16d67 then some (0, .kiratAi)
    else if n == 0x16d68 then some (1, .kiratE)
    else none
  | .kiratAi => if n == 0x16d63 then some (0, .plain) else none
  | .modifier =>
    if inRanges emojiBaseRanges n then some (0, .emoji)
    else if n == 0x200d then some (0, .joinedEmoji)
    else none
  | .region => if isRegion n then some (1, .regions) else none
  | .regions =>
    if isRegion n then some (1, .regions)
    else if n == 0x200d then some (0, .joinedEmoji)
    else none
  | .emoji => if n == 0x200d then some (0, .joinedEmoji) else none
  | .joinedEmoji =>
    if n == 0x20e3 then some (0, .joinedKeycap)
    else if isRegion n then some (1, .joinedRegion)
    else if isModifier n then some (0, .modifier)
    else if n == 0xe007f then some (0, .tagEnd)
    else if inRanges emojiRanges n then some (0, .emoji)
    else none
  | .joinedRegion => if isRegion n then some (-1, .joinedEven) else none
  | .joinedEven =>
    if isRegion n then some (3, .joinedOdd)
    else if n == 0x200d then some (0, .joinedEmoji)
    else none
  | .joinedOdd =>
    if isRegion n then some (-1, .joinedEven)
    else if n == 0x200d then some (0, .joinedEmoji)
    else none
  | .tagEnd =>
    if within 0xe0061 0xe007a n then some (0, .tagLetters 1)
    else if within 0xe0030 0xe0039 n then some (0, .tagDigits 1)
    else none
  | .tagLetters k =>
    if within 0xe0061 0xe007a n && k < 6 then some (0, .tagLetters (k + 1))
    else if within 0xe0030 0xe0039 n && k < 5 then some (0, .tagDigits 1)
    else if n == 0x1f3f4 && 3 ≤ k then some (0, .emoji)
    else none
  | .tagDigits k =>
    if within 0xe0030 0xe0039 n && k < 3 then some (0, .tagDigits (k + 1))
    else if n == 0x1f3f4 && k = 3 then some (0, .emoji)
    else none
  | .plain | .lineFeed | .joinedKeycap => none

/-- The columns a character of code `n` adds in front of a rest without a selector for the emoji
form, and what the character before it has after it. -/
def stepPlain (n : Nat) (a : Ahead) : Int × Ahead :=
  if n ≤ 0xa0 then
    if n == 0x0d && a = .of .lineFeed then (0, {}) else (1, .of (openingOf n))
  else if n == 0xfe0f then (0, a.select .emoji)
  else if n == 0xfe0e then (0, a.select .text)
  else if n == 0xfe01 then (0, a.select .full)
  else if a.form = some .text && hasTextForm n then (1, {})
  else if a.form = some .full && isCurlyQuote n then (2, {})
  else
    let a := { a with form := none }
    if a.opening.seesThrough && n == 0x200d then (0, { a with joined := true })
    else if a.opening.seesThrough && isHiddenMark n then (0, a)
    else match joins? a.opening a.joined n with
      | some (columns, opening) => (columns, .of opening)
      | none => (columnsOf n, .of (openingOf n))

/-- The columns a character of code `n` adds in front of a rest, and what the character before it
has after it. -/
def stepColumns (n : Nat) (a : Ahead) : Int × Ahead :=
  if a.form = some .emoji then
    if hasEmojiForm n then (if a.opening.isJoinedEmoji then 0 else 2, .of .emoji)
    else stepPlain n a.unselect
  else stepPlain n a

/-- The columns of a text without line breaks. -/
def columns (cs : List Char) : Nat :=
  (cs.foldr (fun c (sum, a) => let (add, a) := stepColumns c.toNat a; (sum + add, a))
    ((0 : Int), ({} : Ahead))).1.toNat

end DeviceSessions.Text
