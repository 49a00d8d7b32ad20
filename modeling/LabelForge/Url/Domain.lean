import LabelForge.Url.Label
import LabelForge.Url.Punycode

/-!
# LabelForge.Url.Domain

**Names of hosts.** A name may be written with the characters of any script. It is brought into one
form that is the same for all spellings of the name and has ASCII characters only.

Design points:

* All dots and dot-like characters part labels. A label may be empty, and there is no limit to the
  length of a name, but there is one to that of a label with other characters than ASCII.
* A label that is given in its ASCII form already has to stand for other characters, and these have
  to be what the label would have become otherwise.
-/

namespace LabelForge.Url

/-- What the ASCII form of a label with other characters begins with. -/
def asciiMark : List Char := "xn--".toList

/-- The longest label that is brought into its ASCII form. -/
def longestLabel : Nat := 1000

/-- The longest ASCII form of a label that is read. -/
def longestForm : Nat := 2000

/-- Whether an ASCII character must not be in the name of a host. -/
def isBarredInName (c : Char) : Bool :=
  c.toNat ≤ 0x20 || c.toNat == 0x7F || "#%/:<>?@[\\]^|".contains c

/-- Splits characters at the dots. -/
def splitDots : List Char → List (List Char)
  | [] => [[]]
  | c :: cs =>
    if c == '.' then [] :: splitDots cs
    else match splitDots cs with
      | [] => [[c]]
      | label :: rest => (c :: label) :: rest

/-- Whether all characters are ASCII. -/
def isAscii (cs : List Char) : Bool :=
  cs.all fun c => c.toNat < 0x80

/-- A label as it is shown, with its ASCII form. -/
structure Label where
  shown : List Char
  form : List Char

/-- A label that is given in its ASCII form. -/
def Label.ofForm? (form : List Char) : Option Label := do
  let numbers := form.drop asciiMark.length
  if longestForm < numbers.length then none
  let shown ← Punycode.decode numbers
  if isAscii shown || !shown.all (isAllowed ·.toNat) || composed shown != shown then none
  return ⟨shown, form⟩

/-- A label that is given as it is shown. -/
def Label.ofShown? (shown : List Char) : Option Label :=
  if isAscii shown then some ⟨shown, shown⟩
  else if longestLabel < shown.length then none
  else some ⟨shown, asciiMark ++ Punycode.encode shown⟩

/-- A label of a name in which all characters have been mapped. -/
def Label.ofMapped? (cs : List Char) : Option Label := do
  let label ← if asciiMark.isPrefixOf cs then Label.ofForm? cs else Label.ofShown? cs
  if isShowable label.shown then return label else none

/-- The ASCII form of a name; `none` if no host can have it. -/
def domainForm? (name : List Char) : Option (List Char) := do
  let mapped := composed (← mapChars name)
  if mapped.any isBarredInName then none
  let labels ← (splitDots mapped).mapM Label.ofMapped?
  if labels.any (isLeftward ·.shown) && !labels.all (directionsFit ·.shown) then none
  return ['.'].intercalate (labels.map Label.form)

end LabelForge.Url
