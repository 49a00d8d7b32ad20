/-!
# LabelForge.Text.Utf8

**Bytes to text.** A strict reading of bytes as UTF-8 fails on the first fault. The lenient
reading used for captured output never fails: it puts the replacement character in the place of
every *maximal* faulty sequence, that is of the longest run of bytes that begins some encoded
character but does not finish it, or of a single byte that begins none.

Design points:

* The lenient reader is a machine that takes one byte at a time, so how the bytes arrived in
  pieces cannot matter.
* Its state says which bytes may come next; a byte outside that range closes the pending
  sequence with one replacement character and is then read as a first byte itself.
-/

namespace LabelForge.Text

/-- The bytes of a file or of a stream. -/
abbrev Bytes := List UInt8

/-- The UTF-8 bytes of a text. -/
def bytesOf (s : String) : Bytes :=
  s.toUTF8.data.toList

/-- The text with the given UTF-8 bytes, if they are valid. -/
def textOf? (bytes : Bytes) : Option String :=
  String.fromUTF8? ⟨bytes.toArray⟩

/-- A text is read back from its bytes. -/
@[simp] theorem textOf?_bytesOf (s : String) : textOf? (bytesOf s) = some s := by
  have bytes : (⟨(bytesOf s).toArray⟩ : ByteArray) = s.toByteArray := rfl
  rw [textOf?, bytes, String.fromUTF8?, dif_pos s.isValidUTF8]
  rfl

/-- The character put in the place of a faulty sequence. -/
def replacement : Char := '\ufffd'

/-- What a lenient reader has seen of the current character. -/
inductive Utf8State where
  /-- Between two characters. -/
  | start
  /-- Inside a character: `need` bytes are missing, the next of them lies between `lo` and
  `hi`, and `code` holds the bits read so far. -/
  | inside (need : Nat) (lo hi : UInt8) (code : Nat)
  deriving DecidableEq, Repr

namespace Utf8State

/-- Reads the first byte of a character. -/
def first (b : UInt8) : List Char × Utf8State :=
  if b < 0x80 then ([Char.ofNat b.toNat], .start)
  else if 0xC2 ≤ b && b ≤ 0xDF then ([], .inside 1 0x80 0xBF (b.toNat - 0xC0))
  else if b == 0xE0 then ([], .inside 2 0xA0 0xBF 0)
  else if b == 0xED then ([], .inside 2 0x80 0x9F 0xD)
  else if 0xE1 ≤ b && b ≤ 0xEF then ([], .inside 2 0x80 0xBF (b.toNat - 0xE0))
  else if b == 0xF0 then ([], .inside 3 0x90 0xBF 0)
  else if 0xF1 ≤ b && b ≤ 0xF3 then ([], .inside 3 0x80 0xBF (b.toNat - 0xF0))
  else if b == 0xF4 then ([], .inside 3 0x80 0x8F 4)
  else ([replacement], .start)

/-- Reads one byte. -/
def step (st : Utf8State) (b : UInt8) : List Char × Utf8State :=
  match st with
  | .start => first b
  | .inside need lo hi code =>
    if lo ≤ b && b ≤ hi then
      let code := code * 64 + (b.toNat - 0x80)
      if need ≤ 1 then ([Char.ofNat code], .start)
      else ([], .inside (need - 1) 0x80 0xBF code)
    else
      let (cs, st) := first b
      (replacement :: cs, st)

/-- What is left to write at the end of the bytes. -/
def finish : Utf8State → List Char
  | .start => []
  | .inside .. => [replacement]

end Utf8State

/-- Lenient reading that continues from a state. -/
def lenientFrom (st : Utf8State) : Bytes → List Char
  | [] => st.finish
  | b :: rest =>
    let (cs, st) := st.step b
    cs ++ lenientFrom st rest

/-- Lenient reading of bytes as UTF-8. -/
def lenient (bytes : Bytes) : List Char :=
  lenientFrom .start bytes

/-- The text of a lenient reading. -/
def lenientText (bytes : Bytes) : String :=
  .ofList (lenient bytes)

@[simp] theorem lenientFrom_nil (st : Utf8State) : lenientFrom st [] = st.finish := rfl

@[simp] theorem lenientFrom_cons (st : Utf8State) (b : UInt8) (rest : Bytes) :
    lenientFrom st (b :: rest) = (st.step b).1 ++ lenientFrom (st.step b).2 rest := rfl

@[simp] theorem lenient_nil : lenient [] = [] := rfl

end LabelForge.Text
