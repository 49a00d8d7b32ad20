/-!
# LabelForge.Text.Blank

**Blank characters and trimming.** A character is blank when it has the Unicode property
White_Space; a zero-width space or a byte order mark is not blank. Every "empty label",
"empty id" or "missing cell" decision of the library is taken on the trimmed text.

Design points:

* Trimming is written on lists of characters, where it is two `dropWhile`s; the versions
  on `String` are wrappers around it.
* Only the ends are trimmed: blanks between two other characters stay.
-/

namespace LabelForge.Text

/-- The characters with the Unicode property White_Space. -/
def isBlank (c : Char) : Bool :=
  let n := c.toNat
  (9 ≤ n && n ≤ 13) || n == 0x20 || n == 0x85 || n == 0xA0 || n == 0x1680 ||
    (0x2000 ≤ n && n ≤ 0x200A) || n == 0x2028 || n == 0x2029 || n == 0x202F ||
    n == 0x205F || n == 0x3000

/-- Drops the leading blanks. -/
def trimStartChars (cs : List Char) : List Char :=
  cs.dropWhile isBlank

/-- Drops the trailing blanks. -/
def trimEndChars (cs : List Char) : List Char :=
  (cs.reverse.dropWhile isBlank).reverse

/-- Drops the blanks at both ends. -/
def trimChars (cs : List Char) : List Char :=
  trimEndChars (trimStartChars cs)

/-- A text without its leading and trailing blanks. -/
def trim (s : String) : String :=
  .ofList (trimChars s.toList)

/-- A text without its leading blanks. -/
def trimStart (s : String) : String :=
  .ofList (trimStartChars s.toList)

/-- A text without its trailing blanks. -/
def trimEnd (s : String) : String :=
  .ofList (trimEndChars s.toList)

/-- A text of which nothing is left after trimming. -/
def isBlankText (s : String) : Bool :=
  s.toList.all isBlank

@[simp] theorem trimStartChars_nil : trimStartChars [] = [] := rfl

@[simp] theorem trimChars_nil : trimChars [] = [] := rfl

end LabelForge.Text
