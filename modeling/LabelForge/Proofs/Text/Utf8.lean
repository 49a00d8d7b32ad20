import LabelForge.Text.Utf8

/-!
# LabelForge.Proofs.Text.Utf8

**Texts as bytes.** The bytes of a text are those of its characters, one character after the other,
and determine the text. A character of ASCII is one byte, and its byte occurs nowhere else. What the
lenient reader makes of the bytes of a text is that text.
-/

namespace LabelForge.Text

theorem bytesOf_injective {a b : String} (h : bytesOf a = bytesOf b) : a = b := by
  have read := textOf?_bytesOf a
  rw [h, textOf?_bytesOf] at read
  exact (Option.some.inj read).symm

/-! ### Character by character -/

/-- The bytes of characters. -/
def encode (cs : List Char) : Bytes :=
  cs.flatMap String.utf8EncodeChar

theorem bytesOf_eq_encode (s : String) : bytesOf s = encode s.toList := by
  obtain ⟨cs, rfl⟩ : ∃ cs, s = .ofList cs := ⟨s.toList, String.ofList_toList.symm⟩
  have bytes : (String.ofList cs).toByteArray = cs.utf8Encode := String.toByteArray_ofList
  rw [bytesOf, String.toUTF8, bytes, List.utf8Encode, String.toList_ofList, List.data_toByteArray]
  rfl

@[simp] theorem encode_nil : encode [] = [] := rfl

@[simp] theorem encode_cons (c : Char) (cs : List Char) :
    encode (c :: cs) = String.utf8EncodeChar c ++ encode cs := List.flatMap_cons

@[simp] theorem encode_append (a b : List Char) : encode (a ++ b) = encode a ++ encode b :=
  List.flatMap_append

/-- A character of ASCII is one byte. -/
theorem encodeChar_ascii {c : Char} (h : c.toNat < 128) :
    String.utf8EncodeChar c = [UInt8.ofNat c.toNat] := by
  have small : c.val.toNat ≤ 127 := Nat.le_of_lt_succ h
  rw [String.utf8EncodeChar.eq_1, if_pos small]
  rfl

/-- No byte of another character is that of a character of ASCII. -/
theorem le_of_mem_encodeChar {c : Char} (h : 128 ≤ c.toNat) {b : UInt8}
    (mem : b ∈ String.utf8EncodeChar c) : 128 ≤ b.toNat := by
  have large : ¬ c.val.toNat ≤ 127 := Nat.not_le.2 h
  rw [String.utf8EncodeChar.eq_1, if_neg large] at mem
  split at mem
  · simp only [List.mem_cons, List.not_mem_nil, or_false] at mem
    rcases mem with rfl | rfl <;> simp <;> omega
  · split at mem
    · simp only [List.mem_cons, List.not_mem_nil, or_false] at mem
      rcases mem with rfl | rfl | rfl <;> simp <;> omega
    · simp only [List.mem_cons, List.not_mem_nil, or_false] at mem
      rcases mem with rfl | rfl | rfl | rfl <;> simp <;> omega

/-- The byte of a character of ASCII occurs where that character does. -/
theorem mem_encode_ascii {a : Char} (ascii : a.toNat < 128) {cs : List Char} :
    UInt8.ofNat a.toNat ∈ encode cs ↔ a ∈ cs := by
  rw [encode, List.mem_flatMap]
  constructor
  · rintro ⟨c, mem, found⟩
    by_cases small : c.toNat < 128
    · rw [encodeChar_ascii small, List.mem_singleton] at found
      have same := congrArg UInt8.toNat found
      simp only [UInt8.toNat_ofNat'] at same
      have : a = c := by
        apply Char.toNat_inj.1
        omega
      exact this ▸ mem
    · have := le_of_mem_encodeChar (Nat.not_lt.1 small) found
      simp only [UInt8.toNat_ofNat'] at this
      omega
  · intro mem
    exact ⟨a, mem, by rw [encodeChar_ascii ascii]; exact List.mem_singleton_self _⟩

/-! ### Reading the bytes of a text -/

namespace Utf8State

theorem first_of_one {n : Nat} (h : n < 128) :
    first (UInt8.ofNat n) = ([Char.ofNat n], .start) := by
  have value : (UInt8.ofNat n).toNat = n := by
    rw [UInt8.toNat_ofNat', Nat.mod_eq_of_lt (by omega)]
  have small : UInt8.ofNat n < 0x80 := by
    rw [UInt8.lt_iff_toNat_lt, value]
    exact h
  rw [first, if_pos small, value]

theorem first_of_two {n : Nat} (high : n < 32) (low : 2 ≤ n) :
    first (UInt8.ofNat (n + 192)) = ([], .inside 1 0x80 0xBF n) := by
  decide +revert

theorem first_of_three {n : Nat} (high : n < 16) :
    first (UInt8.ofNat (n + 224)) =
      ([], .inside 2 (if n = 0 then 0xA0 else 0x80) (if n = 13 then 0x9F else 0xBF) n) := by
  decide +revert

theorem first_of_four {n : Nat} (high : n < 5) :
    first (UInt8.ofNat (n + 240)) =
      ([], .inside 3 (if n = 0 then 0x90 else 0x80) (if n = 4 then 0x8F else 0xBF) n) := by
  decide +revert

end Utf8State

open Utf8State

/-- A byte in the range that is asked for is taken into the character. -/
theorem lenientFrom_next {need code n : Nat} {lo hi : UInt8} (bound : n < 64)
    (low : lo.toNat ≤ n + 128) (high : n + 128 ≤ hi.toNat) (rest : Bytes) :
    lenientFrom (.inside need lo hi code) (UInt8.ofNat (n + 128) :: rest) =
      if need ≤ 1 then Char.ofNat (code * 64 + n) :: lenientFrom .start rest
      else lenientFrom (.inside (need - 1) 0x80 0xBF (code * 64 + n)) rest := by
  have value : (UInt8.ofNat (n + 128)).toNat = n + 128 := by
    rw [UInt8.toNat_ofNat', Nat.mod_eq_of_lt (by omega)]
  have fits :
      (decide (lo ≤ UInt8.ofNat (n + 128)) && decide (UInt8.ofNat (n + 128) ≤ hi)) = true := by
    simp only [UInt8.le_iff_toNat_le, value, low, high, decide_true, Bool.and_self]
  rw [lenientFrom_cons, step, if_pos fits, value, Nat.add_sub_cancel]
  split <;> rfl

/-- A byte that follows another one is taken into the character. -/
theorem lenientFrom_tail {need code n : Nat} (bound : n < 64) (rest : Bytes) :
    lenientFrom (.inside need 0x80 0xBF code) (UInt8.ofNat (n + 128) :: rest) =
      if need ≤ 1 then Char.ofNat (code * 64 + n) :: lenientFrom .start rest
      else lenientFrom (.inside (need - 1) 0x80 0xBF (code * 64 + n)) rest := by
  have low : UInt8.toNat 0x80 ≤ n + 128 := Nat.le_add_left 128 n
  have high : n + 128 ≤ UInt8.toNat 0xBF := Nat.add_le_add_right (Nat.le_of_lt_succ bound) 128
  exact lenientFrom_next bound low high rest

theorem lenientFrom_start_cons (b : UInt8) (rest : Bytes) :
    lenientFrom .start (b :: rest) = (first b).1 ++ lenientFrom (first b).2 rest := rfl

/-- The bytes of a character are read as that character. -/
theorem lenientFrom_encodeChar (c : Char) (rest : Bytes) :
    lenientFrom .start (String.utf8EncodeChar c ++ rest) = c :: lenientFrom .start rest := by
  obtain ⟨v, code, valid⟩ : ∃ v, c.val.toNat = v ∧ v.isValidChar := ⟨_, rfl, c.valid⟩
  have same : Char.ofNat v = c := code ▸ Char.ofNat_toNat c
  -- how the bits of the number are spread over the bytes depends on how many there are
  rw [String.utf8EncodeChar.eq_1, code]
  split
  · rename_i one
    rw [List.singleton_append, lenientFrom_start_cons, first_of_one (Nat.lt_succ_of_le one), same]
    rfl
  · split
    · have whole : v / 64 % 32 * 64 + v % 64 = v := by omega
      rw [List.cons_append, List.cons_append, lenientFrom_start_cons,
        first_of_two (by omega) (by omega), List.nil_append, lenientFrom_tail (by omega),
        if_pos (by decide), whole, same]
      rfl
    · split
      · have whole : (v / 4096 % 16 * 64 + v / 64 % 64) * 64 + v % 64 = v := by omega
        rw [List.cons_append, List.cons_append, List.cons_append, lenientFrom_start_cons,
          first_of_three (by omega), List.nil_append,
          lenientFrom_next (by omega) (by split <;> simp; omega)
            (by rcases valid with _ | _ <;> split <;> simp <;> omega),
          if_neg (by decide), lenientFrom_tail (by omega), if_pos (by decide), whole, same]
        rfl
      · have whole :
            ((v / 262144 % 8 * 64 + v / 4096 % 64) * 64 + v / 64 % 64) * 64 + v % 64 = v := by
          rcases valid with _ | _ <;> omega
        rw [List.cons_append, List.cons_append, List.cons_append, List.cons_append,
          lenientFrom_start_cons, first_of_four (by rcases valid with _ | _ <;> omega),
          List.nil_append,
          lenientFrom_next (by omega) (by split <;> simp; omega)
            (by rcases valid with _ | _ <;> split <;> simp <;> omega),
          if_neg (by decide), lenientFrom_tail (by omega), if_neg (by decide),
          lenientFrom_tail (by omega), if_pos (by decide), whole, same]
        rfl

/-- Characters are read as they are, whatever follows. -/
theorem lenient_encode_append (cs : List Char) (rest : Bytes) :
    lenient (encode cs ++ rest) = cs ++ lenient rest := by
  induction cs with
  | nil => rfl
  | cons c cs ih =>
      rw [encode_cons, List.append_assoc, lenient, lenientFrom_encodeChar, ← lenient, ih]
      rfl

theorem lenient_encode (cs : List Char) : lenient (encode cs) = cs := by
  have read := lenient_encode_append cs []
  rwa [List.append_nil, lenient_nil, List.append_nil] at read

/-- Lenient reading gives a text back from its bytes. -/
@[simp] theorem lenientText_bytesOf (s : String) : lenientText (bytesOf s) = s := by
  rw [lenientText, bytesOf_eq_encode, lenient_encode, String.ofList_toList]

end LabelForge.Text
