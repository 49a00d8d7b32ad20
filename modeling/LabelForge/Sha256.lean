import LabelForge.Text.Utf8

/-!
# LabelForge.Sha256

**The SHA-256 digest.** The message is padded to a whole number of 64-byte blocks, each block is
expanded to 64 words, and the words are mixed into a state of eight words; the digest is the
final state.

Design points:

* The state is a structure of eight words and a round is a function on it, so a block is one
  fold over words and round constants.
* Words are read and written with their most significant byte first.
-/

namespace LabelForge.Sha256

open LabelForge.Text (Bytes)

/-- The eight words of the state. -/
structure State where
  a : UInt32
  b : UInt32
  c : UInt32
  d : UInt32
  e : UInt32
  f : UInt32
  g : UInt32
  h : UInt32
  deriving DecidableEq, Repr

/-- The state before the first block. -/
def initial : State :=
  ⟨0x6a09e667, 0xbb67ae85, 0x3c6ef372, 0xa54ff53a, 0x510e527f, 0x9b05688c, 0x1f83d9ab, 0x5be0cd19⟩

/-- The constants of the 64 rounds. -/
def roundConstants : List UInt32 := [
  0x428a2f98, 0x71374491, 0xb5c0fbcf, 0xe9b5dba5, 0x3956c25b, 0x59f111f1, 0x923f82a4, 0xab1c5ed5,
  0xd807aa98, 0x12835b01, 0x243185be, 0x550c7dc3, 0x72be5d74, 0x80deb1fe, 0x9bdc06a7, 0xc19bf174,
  0xe49b69c1, 0xefbe4786, 0x0fc19dc6, 0x240ca1cc, 0x2de92c6f, 0x4a7484aa, 0x5cb0a9dc, 0x76f988da,
  0x983e5152, 0xa831c66d, 0xb00327c8, 0xbf597fc7, 0xc6e00bf3, 0xd5a79147, 0x06ca6351, 0x14292967,
  0x27b70a85, 0x2e1b2138, 0x4d2c6dfc, 0x53380d13, 0x650a7354, 0x766a0abb, 0x81c2c92e, 0x92722c85,
  0xa2bfe8a1, 0xa81a664b, 0xc24b8b70, 0xc76c51a3, 0xd192e819, 0xd6990624, 0xf40e3585, 0x106aa070,
  0x19a4c116, 0x1e376c08, 0x2748774c, 0x34b0bcb5, 0x391c0cb3, 0x4ed8aa4a, 0x5b9cca4f, 0x682e6ff3,
  0x748f82ee, 0x78a5636f, 0x84c87814, 0x8cc70208, 0x90befffa, 0xa4506ceb, 0xbef9a3f7, 0xc67178f2]

/-- Rotation to the right. -/
def rotate (x : UInt32) (n : UInt32) : UInt32 :=
  (x >>> n) ||| (x <<< (32 - n))

/-- One round. -/
def State.round (s : State) (constant word : UInt32) : State :=
  let mix1 := rotate s.e 6 ^^^ rotate s.e 11 ^^^ rotate s.e 25
  let choice := (s.e &&& s.f) ^^^ (~~~s.e &&& s.g)
  let t1 := s.h + mix1 + choice + constant + word
  let mix0 := rotate s.a 2 ^^^ rotate s.a 13 ^^^ rotate s.a 22
  let majority := (s.a &&& s.b) ^^^ (s.a &&& s.c) ^^^ (s.b &&& s.c)
  let t2 := mix0 + majority
  ⟨t1 + t2, s.a, s.b, s.c, s.d + t1, s.e, s.f, s.g⟩

/-- Word by word sum of two states. -/
def State.add (s t : State) : State :=
  ⟨s.a + t.a, s.b + t.b, s.c + t.c, s.d + t.d, s.e + t.e, s.f + t.f, s.g + t.g, s.h + t.h⟩

/-- The next word of the expansion, from the words so far. -/
def nextWord (words : Array UInt32) : UInt32 :=
  let i := words.size
  let w2 := words.getD (i - 2) 0
  let w15 := words.getD (i - 15) 0
  let s0 := rotate w15 7 ^^^ rotate w15 18 ^^^ (w15 >>> 3)
  let s1 := rotate w2 17 ^^^ rotate w2 19 ^^^ (w2 >>> 10)
  words.getD (i - 16) 0 + s0 + words.getD (i - 7) 0 + s1

/-- Expands the sixteen words of a block to 64. -/
def expand (block : List UInt32) : Array UInt32 :=
  (List.range 48).foldl (fun words _ => words.push (nextWord words)) block.toArray

/-- Mixes a block into the state. -/
def State.block (s : State) (block : List UInt32) : State :=
  s.add ((roundConstants.zip (expand block).toList).foldl (fun s p => s.round p.1 p.2) s)

/-- Four bytes as a word. -/
def wordOf (a b c d : UInt8) : UInt32 :=
  (a.toUInt32 <<< 24) ||| (b.toUInt32 <<< 16) ||| (c.toUInt32 <<< 8) ||| d.toUInt32

/-- Bytes as words; an incomplete word at the end is left out. -/
def wordsOf : Bytes → List UInt32
  | a :: b :: c :: d :: rest => wordOf a b c d :: wordsOf rest
  | _ => []

/-- The bytes of a number, most significant first. -/
def bigEndian (n : Nat) : Nat → Bytes
  | 0 => []
  | count + 1 => UInt8.ofNat (n / 256 ^ count) :: bigEndian n count

/-- A message with its padding: a one bit, zeros, and the length in bits. -/
def padded (message : Bytes) : Bytes :=
  let zeros := (119 - message.length % 64) % 64
  message ++ 0x80 :: List.replicate zeros 0 ++ bigEndian (message.length * 8) 8

/-- Mixes in a number of blocks. -/
def run : Nat → List UInt32 → State → State
  | 0, _, s => s
  | blocks + 1, words, s => run blocks (words.drop 16) (s.block (words.take 16))

/-- The digest of a message as eight words. -/
def digest (message : Bytes) : State :=
  let bytes := padded message
  run (bytes.length / 64) (wordsOf bytes) initial

/-- Eight hexadecimal digits of a word. -/
def hexWord (w : UInt32) : List Char :=
  let ds := Nat.toDigits 16 w.toNat
  List.replicate (8 - ds.length) '0' ++ ds

/-- The digest of a message as 64 lower-case hexadecimal digits. -/
def hex (message : Bytes) : String :=
  let s := digest message
  .ofList ([s.a, s.b, s.c, s.d, s.e, s.f, s.g, s.h].flatMap hexWord)

/-- The digest of the UTF-8 bytes of a text. -/
def hexOfText (s : String) : String :=
  hex (Text.bytesOf s)

/-! ### The shape of a digest -/

/-- Whether a character is a lower-case hexadecimal digit. -/
def isHexDigit (c : Char) : Bool :=
  c.isDigit || ('a' ≤ c && c ≤ 'f')

/-- A text of 64 lower-case hexadecimal digits. -/
structure IsHex (s : String) : Prop where
  length : s.toList.length = 64
  digits : ∀ c ∈ s.toList, isHexDigit c = true

theorem isHexDigit_of_mem_toDigits {n : Nat} {c : Char} (h : c ∈ Nat.toDigits 16 n) :
    isHexDigit c = true := by
  have all : ∀ d < 16, isHexDigit (Nat.digitChar d) = true := by decide
  induction n using Nat.strongRecOn with
  | ind n ih =>
    by_cases small : n < 16
    · rw [Nat.toDigits_of_lt_base small, List.mem_singleton] at h
      exact h ▸ all n small
    · rw [Nat.toDigits_of_base_le (by decide) (by omega)] at h
      rcases List.mem_append.mp h with h | h
      · exact ih (n / 16) (by omega) h
      · rw [List.mem_singleton.mp h]
        exact all _ (Nat.mod_lt n (by decide))

theorem length_hexWord (w : UInt32) : (hexWord w).length = 8 := by
  have short : (Nat.toDigits 16 w.toNat).length ≤ 8 :=
    (Nat.length_toDigits_le_iff (by decide) (by decide)).mpr w.toNat_lt
  rw [hexWord, List.length_append, List.length_replicate]
  omega

theorem isHexDigit_of_mem_hexWord {w : UInt32} {c : Char} (h : c ∈ hexWord w) :
    isHexDigit c = true := by
  rcases List.mem_append.mp h with zero | digit
  · rw [List.eq_of_mem_replicate zero]
    decide
  · exact isHexDigit_of_mem_toDigits digit

/-- A digest is written with 64 digits. -/
theorem isHex_hex (message : Bytes) : IsHex (hex message) where
  length := by simp [hex, length_hexWord]
  digits := by
    intro c mem
    rw [hex, String.toList_ofList, List.mem_flatMap] at mem
    obtain ⟨w, -, mem⟩ := mem
    exact isHexDigit_of_mem_hexWord mem

end LabelForge.Sha256
