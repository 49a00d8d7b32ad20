import LabelForge.Text.Pictograph
import LabelForge.Text.Width

/-!
# LabelForge.Text.Extent

**How many columns a text takes.** Mostly a text takes what its characters take together. But some
characters are drawn as one with their neighbours: pictures with a selector, a skin tone, a joiner
or the letters of a flag, a line break of two characters, and letters that a script writes as a
ligature.

Design points:

* A text is read from its end to its start, because what a character takes depends on what stands
  behind it; `Next` is what has to be known about that.
* A character may take back a column that the characters behind it were given, so single steps are
  integers.
* Within a ligature, joiners and characters that are ignored take no part.
-/

namespace LabelForge.Text

/-- Letters and signs that can become one with what stands before them. -/
inductive Ligature where
  /-- A Hebrew lamed. -/
  | lamed
  /-- A Khmer letter that can be put below another one. -/
  | subscript
  /-- A Buginese ya. -/
  | ya
  /-- A Buginese ya behind a joiner and the vowel sign i. -/
  | yaWithVowel
  /-- A Tifinagh consonant. -/
  | tifinagh
  /-- A Tifinagh consonant behind the joiner of that script. -/
  | joinedTifinagh
  /-- One of two Lisu tone letters. -/
  | tone
  /-- An Old Turkic letter i. -/
  | turkicVowel
  deriving DecidableEq, Repr

/-- What a text begins with, as far as the character before it is concerned. -/
inductive Beginning where
  /-- Nothing that matters. -/
  | plain
  /-- A line feed. -/
  | lineFeed
  /-- An Arabic alef, also behind signs that are written on the letter before it. -/
  | alef
  /-- A part of a ligature; a joiner may have been read as well. -/
  | ligature (part : Ligature) (joined : Bool)
  /-- A vowel sign e of Kirat Rai. -/
  | kiratVowel
  /-- Two vowel signs of Kirat Rai. -/
  | kiratVowels
  /-- A skin tone. -/
  | skinTone
  /-- A letter of a flag. -/
  | flagLetter
  /-- Two or more letters of flags. -/
  | flagLetters
  /-- A picture. -/
  | picture
  /-- A joiner and a picture. -/
  | joinedPicture
  /-- A frame of a key, a joiner and a picture. -/
  | keyedPicture
  /-- A letter of a flag, a joiner and a picture. -/
  | joinedFlagLetter
  /-- An even number of letters of flags, a joiner and a picture. -/
  | evenFlagLetters
  /-- An odd number of letters of flags, at least three, a joiner and a picture. -/
  | oddFlagLetters
  /-- Letters of the name of a region, its end, a joiner and a picture. -/
  | regionLetters (count : Nat)
  /-- Digits of the name of a region, its end, a joiner and a picture. -/
  | regionDigits (count : Nat)
  deriving DecidableEq, Repr

/-- What a text begins with, and the selector before it. -/
structure Next where
  beginning : Beginning
  selector : Option Nat
  deriving DecidableEq, Repr

namespace Next

/-- A text without a selector. -/
def of (b : Beginning) : Next := ⟨b, none⟩

/-- Whether a selector before the text leaves it part of a ligature. -/
def isKept : Beginning → Bool
  | .alef | .ligature _ _ => true
  | _ => false

/-- Whether the text is a picture to which another one can be joined. -/
def isJoinable : Beginning → Bool
  | .joinedPicture | .keyedPicture => true
  | _ => false

/-- A selector before a text. -/
def select (selector : Nat) (b : Beginning) : Next :=
  if isKept b || (selector == pictureSelector && isJoinable b) then ⟨b, some selector⟩
  else ⟨.plain, some selector⟩

/-- What is left of a text when the selector before it has nothing to work on. -/
def unselected (next : Next) : Beginning :=
  if next.selector.isNone || isKept next.beginning then next.beginning else .plain

end Next

/-- Ranges of characters that take no column but part the letters on their two sides. -/
def partingRanges : Array (Nat × Nat) := #[
  (0x605, 0x605), (0x890, 0x891), (0x8E2, 0x8E2), (0x9BE, 0x9BE), (0x9D7, 0x9D7), (0xB3E, 0xB3E),
  (0xB57, 0xB57), (0xBBE, 0xBBE), (0xBD7, 0xBD7), (0xCC0, 0xCC0), (0xCC2, 0xCC2), (0xCC7, 0xCC8),
  (0xCCA, 0xCCB), (0xCD5, 0xCD6), (0xD3E, 0xD3E), (0xD4E, 0xD4E), (0xD57, 0xD57), (0xDCF, 0xDCF),
  (0xDDF, 0xDDF), (0x1160, 0x11FF), (0x1715, 0x1715), (0x1734, 0x1734), (0x180E, 0x180E),
  (0x1B35, 0x1B35), (0x1B3B, 0x1B3B), (0x1B3D, 0x1B3D), (0x1B43, 0x1B44), (0x1BAA, 0x1BAA),
  (0x1BF2, 0x1BF3), (0x200C, 0x200D), (0x2065, 0x2069), (0x302E, 0x302F), (0x3164, 0x3164),
  (0xA8FA, 0xA8FA), (0xA953, 0xA953), (0xA9C0, 0xA9C0), (0xD7B0, 0xD7C6), (0xD7CB, 0xD7FB),
  (0xFF9E, 0xFFA0), (0xFFF0, 0xFFF8), (0x111C0, 0x111C0), (0x111C2, 0x111C3), (0x11235, 0x11235),
  (0x1133E, 0x1133E), (0x1134D, 0x1134D), (0x11357, 0x11357), (0x113B8, 0x113B8),
  (0x113C2, 0x113C2), (0x113C5, 0x113C5), (0x113C7, 0x113C9), (0x113CF, 0x113CF),
  (0x113D1, 0x113D1), (0x114B0, 0x114B0), (0x114BD, 0x114BD), (0x115AF, 0x115AF),
  (0x116B6, 0x116B6), (0x11930, 0x11930), (0x1193D, 0x1193D), (0x1193F, 0x1193F),
  (0x11941, 0x11941), (0x11A84, 0x11A89), (0x11D46, 0x11D46), (0x11F02, 0x11F02),
  (0x11F41, 0x11F41), (0x16FF0, 0x16FF1), (0x1D165, 0x1D166), (0x1D16D, 0x1D172),
  (0xE0000, 0xE0000), (0xE0002, 0xE001F), (0xE0080, 0xE00FF), (0xE01F0, 0xE0FFF)]

/-- Whether a character is drawn on the letter before it, which may be joined to the one behind. -/
def isTransparent (n : Nat) : Bool :=
  isInvisible n && !inRanges partingRanges n

/-- Whether a character is a lam, which becomes one with an alef. -/
def isLam (n : Nat) : Bool :=
  [0x644, 0x6B5, 0x6B6, 0x6B7, 0x6B8, 0x76A, 0x8A6, 0x8C7].contains n

/-- Whether a character is an alef. -/
def isAlef (n : Nat) : Bool :=
  inRanges #[(0x622, 0x623), (0x625, 0x625), (0x627, 0x627), (0x671, 0x673), (0x675, 0x675),
    (0x773, 0x774), (0x870, 0x882)] n

/-- Whether a character is a Khmer letter that can be put below another one. -/
def isKhmerSubscript (n : Nat) : Bool :=
  inRanges #[(0x1780, 0x1782), (0x1784, 0x1787), (0x1789, 0x178C), (0x178E, 0x1793),
    (0x1795, 0x1798), (0x179B, 0x179D), (0x17A0, 0x17A0), (0x17A2, 0x17A2), (0x17A7, 0x17A7),
    (0x17AB, 0x17AC), (0x17AF, 0x17AF)] n

/-- Whether a character is a Tifinagh consonant. -/
def isTifinaghConsonant (n : Nat) : Bool :=
  (0x2D31 ≤ n && n ≤ 0x2D65) || n == 0x2D6F

/-- Whether a character is ignored between the parts of a ligature. -/
def isIgnored (n : Nat) : Bool :=
  inRanges #[(0x34F, 0x34F), (0x17B4, 0x17B5), (0x180B, 0x180D), (0x180F, 0x180F),
    (0xFE00, 0xFE0F), (0xE0100, 0xE01EF)] n

/-- What a character takes before a part of a ligature, if it goes with that part. -/
def beforeLigature (n : Nat) (joined : Bool) : Ligature → Option (Int × Beginning)
  | .lamed => if joined && n == 0x5D0 then some (0, .plain) else none
  | .subscript => if n == 0x17D2 then some (-1, .plain) else none
  | .ya => if joined && n == 0x1A17 then some (0, .ligature .yaWithVowel joined) else none
  | .yaWithVowel => if n == 0x1A15 then some (0, .plain) else none
  | .tifinagh =>
    if n == 0x2D7F then some (1, .ligature .joinedTifinagh joined)
    else if joined && isTifinaghConsonant n then some (0, .plain)
    else none
  | .joinedTifinagh => if isTifinaghConsonant n then some (-1, .plain) else none
  | .tone => if 0xA4F8 ≤ n && n ≤ 0xA4FB then some (0, .plain) else none
  | .turkicVowel => if joined && n == 0x10C32 then some (0, .plain) else none

/-- What a character takes before the letters of the name of a region; six of them are no name. -/
def beforeRegion (n count : Nat) : Option (Int × Beginning) :=
  if n == 0x1F3F4 && 3 ≤ count then some (0, .picture)
  else if 0xE0061 ≤ n && n ≤ 0xE007A && count < 6 then some (0, .regionLetters (count + 1))
  else if 0xE0030 ≤ n && n ≤ 0xE0039 && count < 5 then some (0, .regionDigits 1)
  else none

/-- What a character takes before a text, and what both begin with, if the character goes with the
text. -/
def beforeBeginning (n : Nat) : Beginning → Option (Int × Beginning)
  | .plain | .lineFeed => none
  | .alef =>
    if isLam n then some (0, .plain)
    else if isTransparent n then some (0, .alef)
    else none
  | .ligature part joined =>
    if n == zeroWidthJoiner then some (0, .ligature part true)
    else if isIgnored n then some (0, .ligature part joined)
    else beforeLigature n joined part
  | .kiratVowel =>
    if n == 0x16D63 || n == 0x16D69 then some (0, .plain)
    else if n == 0x16D67 then some (0, .kiratVowels)
    else if n == 0x16D68 then some (1, .kiratVowel)
    else none
  | .kiratVowels => if n == 0x16D63 then some (0, .plain) else none
  | .skinTone =>
    if inRanges tonedRanges n then some (0, .picture) else beforePicture
  | .flagLetter => if isFlagLetter n then some (1, .flagLetters) else none
  | .flagLetters => if isFlagLetter n then some (1, .flagLetters) else beforePicture
  | .picture => beforePicture
  | .joinedPicture =>
    if n == 0x20E3 then some (0, .keyedPicture)
    else if isFlagLetter n then some (1, .joinedFlagLetter)
    else if isSkinTone n then some (0, .skinTone)
    else if n == 0xE007F then some (0, .regionLetters 0)
    else if inRanges pictureRanges n then some (0, .picture)
    else none
  | .keyedPicture => none
  | .joinedFlagLetter => if isFlagLetter n then some (-1, .evenFlagLetters) else none
  | .evenFlagLetters => if isFlagLetter n then some (3, .oddFlagLetters) else beforePicture
  | .oddFlagLetters => if isFlagLetter n then some (-1, .evenFlagLetters) else beforePicture
  | .regionLetters count => beforeRegion n count
  | .regionDigits count =>
    if n == 0x1F3F4 && count == 3 then some (0, .picture)
    else if 0xE0030 ≤ n && n ≤ 0xE0039 && count < 3 then some (0, .regionDigits (count + 1))
    else none
where
  /-- A joiner before a picture. -/
  beforePicture : Option (Int × Beginning) :=
    if n == zeroWidthJoiner then some (0, .joinedPicture) else none

/-- What a text begins with whose first character goes with nothing behind it. -/
def beginningOf (n : Nat) : Beginning :=
  if inRanges pictureRanges n then .picture
  else if isSkinTone n then .skinTone
  else if isFlagLetter n then .flagLetter
  else if isAlef n then .alef
  else if n == 0x5DC then .ligature .lamed false
  else if isKhmerSubscript n then .ligature .subscript false
  else if n == 0x1A10 then .ligature .ya false
  else if isTifinaghConsonant n then .ligature .tifinagh false
  else if n == 0xA4FC || n == 0xA4FD then .ligature .tone false
  else if n == 0x10C03 then .ligature .turkicVowel false
  else if n == 0x16D67 then .kiratVowel
  else if n == 0x16D68 then .kiratVowels
  else .plain

/-- What a character takes before a text that no selector stands before, and what both begin
with. -/
def beforePlain (c : Char) (b : Beginning) : Int × Next :=
  let n := c.toNat
  if n ≤ 0xA0 then
    if c == '\n' then (1, .of .lineFeed)
    else if c == '\r' && b == .lineFeed then (0, .of .plain)
    else (1, .of .plain)
  else if n == pictureSelector || n == plainSelector then (0, .select n b)
  else match beforeBeginning n b with
    | some (width, b) => (width, .of b)
    | none => (charWidth c, .of (beginningOf n))

/-- What a character takes before a text, and what both begin with. -/
def before (c : Char) (next : Next) : Int × Next :=
  let n := c.toNat
  if next.selector == some pictureSelector && inRanges selectableRanges n then
    (if Next.isJoinable next.beginning then 0 else 2, .of .picture)
  else if next.selector == some plainSelector && inRanges narrowedRanges n then (1, .of .plain)
  else beforePlain c next.unselected

/-- How many columns a text takes. -/
def extent (cs : List Char) : Nat :=
  let (width, _) := cs.foldr (fun c (sum, next) =>
    let (width, next) := before c next
    (width + sum, next)) ((0 : Int), Next.of .plain)
  width.toNat

end LabelForge.Text
