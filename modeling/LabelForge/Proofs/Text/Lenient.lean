import LabelForge.Proofs.Text.Utf8
import Mathlib.Tactic.SplitIfs

/-!
# LabelForge.Proofs.Text.Lenient

**Lenient reading of bytes that are no text.** A byte of ASCII ends whatever was begun before it, so
the readings of what stands before it and behind it are put together (`lenient_append_ascii`), and
line feeds come from line feeds only. Elsewhere bytes may not be cut: of a character that is cut,
the first part is read as one faulty sequence, and each byte of the second part as another one.

The state of a reader between two bytes is all that matters. Which states it comes to (`Reached`) is
the only invariant, and it is one of single bytes.
-/

namespace LabelForge.Text

namespace Utf8State

/-! ### One byte -/

/-- The states that a reader comes to. No byte of ASCII fits there, and what is read to its end from
there is no character of ASCII: two bits of its number, or a large next byte, are above these. -/
def Reached : Utf8State → Prop
  | .start => True
  | .inside need lo _ code => 0x80 ≤ lo ∧ (2 ≤ code ∨ 2 ≤ need ∧ (1 ≤ code ∨ 0x90 ≤ lo))

theorem reached_start : Reached .start := trivial

theorem reached_first (b : UInt8) : (first b).2.Reached := by
  unfold first
  split_ifs <;> simp only [Reached, Bool.and_eq_true, decide_eq_true_eq, UInt8.le_iff_toNat_le,
    UInt8.reduceToNat] at * <;> omega

theorem reached_step {st : Utf8State} (reached : st.Reached) (b : UInt8) :
    (st.step b).2.Reached := by
  cases st with
  | start => exact reached_first b
  | inside need lo hi code =>
      obtain ⟨low, code⟩ := reached
      simp only [step]
      split_ifs with fits last
      · trivial
      · simp only [Reached, Bool.and_eq_true, decide_eq_true_eq, UInt8.le_iff_toNat_le,
          UInt8.reduceToNat] at *
        omega
      · exact reached_first b

theorem first_ascii {b : UInt8} (ascii : b < 0x80) : first b = ([Char.ofNat b.toNat], .start) :=
  if_pos ascii

/-- A byte of ASCII ends what was begun before it. -/
theorem step_ascii {st : Utf8State} (reached : st.Reached) {b : UInt8} (ascii : b < 0x80) :
    st.step b = (st.finish ++ [Char.ofNat b.toNat], .start) := by
  cases st with
  | start => exact first_ascii ascii
  | inside need lo hi code =>
      have low : ¬ lo ≤ b := UInt8.not_le.2 (UInt8.lt_of_lt_of_le ascii reached.1)
      simp [step, low, first_ascii ascii, finish]

/-- A byte that begins no character is faulty between two characters. -/
theorem first_later {b : UInt8} (low : 0x80 ≤ b) (high : b < 0xC2) :
    first b = ([replacement], .start) := by
  unfold first
  split_ifs <;> simp_all only [Bool.and_eq_true, decide_eq_true_eq, beq_iff_eq,
    UInt8.le_iff_toNat_le, UInt8.lt_iff_toNat_lt, UInt8.reduceToNat] <;> omega

/-- A reader between two characters has just written something. -/
theorem step_ne_nil {st : Utf8State} {b : UInt8} (ended : (st.step b).2 = .start) :
    (st.step b).1 ≠ [] := by
  have begun : (first b).2 = .start → (first b).1 ≠ [] := by
    unfold first
    split_ifs <;> simp
  cases st with
  | start => exact begun ended
  | inside need lo hi code =>
      simp only [step] at ended ⊢
      split_ifs <;> simp_all

/-! ### Line feeds -/

/-- No other number stands for a line feed. -/
theorem eq_of_ofNat_lineFeed {n : Nat} (same : Char.ofNat n = '\n') : n = 10 := by
  by_cases valid : n.isValidChar
  · rw [Char.ofNat, dif_pos valid] at same
    exact congrArg Char.toNat same
  · rw [Char.ofNat, dif_neg valid] at same
    exact absurd same (by decide)

theorem lineFeed_not_mem_finish (st : Utf8State) : '\n' ∉ st.finish := by
  cases st with
  | start => exact List.not_mem_nil
  | inside => exact List.not_mem_cons_of_ne_of_not_mem (by decide) List.not_mem_nil

theorem eq_of_lineFeed_first {b : UInt8} (mem : '\n' ∈ (first b).1) : b = 0x0A := by
  unfold first at mem
  split_ifs at mem <;> simp only [List.not_mem_nil, List.mem_singleton] at mem
  · exact UInt8.toNat_inj.1 (eq_of_ofNat_lineFeed mem.symm)
  · exact absurd mem (by decide)

theorem eq_of_lineFeed_step {st : Utf8State} (reached : st.Reached) {b : UInt8}
    (mem : '\n' ∈ (st.step b).1) : b = 0x0A := by
  cases st with
  | start => exact eq_of_lineFeed_first mem
  | inside need lo hi code =>
      obtain ⟨low, code⟩ := reached
      simp only [step] at mem
      split_ifs at mem with fits last
      · have number := eq_of_ofNat_lineFeed (List.mem_singleton.1 mem).symm
        simp only [Bool.and_eq_true, decide_eq_true_eq, UInt8.le_iff_toNat_le,
          UInt8.reduceToNat] at *
        omega
      · cases mem
      · rcases List.mem_cons.1 mem with mem | mem
        · exact absurd mem (by decide)
        · exact eq_of_lineFeed_first mem

end Utf8State

open Utf8State

@[simp] theorem toList_lenientText (bytes : Bytes) : (lenientText bytes).toList = lenient bytes :=
  String.toList_ofList

/-! ### Bytes behind others -/

/-- A reader writes what the bytes before make it write, and goes on from the state that it has come
to. -/
theorem lenientFrom_append {st : Utf8State} (reached : st.Reached) (bytes : Bytes) :
    ∃ cs st', Reached st' ∧
      ∀ rest, lenientFrom st (bytes ++ rest) = cs ++ lenientFrom st' rest := by
  induction bytes generalizing st with
  | nil => exact ⟨[], st, reached, fun _ => rfl⟩
  | cons b bytes ih =>
      obtain ⟨cs, st', reached, more⟩ := ih (reached_step reached b)
      refine ⟨(st.step b).1 ++ cs, st', reached, fun rest => ?_⟩
      rw [List.cons_append, lenientFrom_cons, more, List.append_assoc]

/-- The same from the start, with the reading of the bytes before. -/
theorem lenient_append (bytes : Bytes) : ∃ cs st, Reached st ∧ lenient bytes = cs ++ st.finish ∧
    ∀ rest, lenient (bytes ++ rest) = cs ++ lenientFrom st rest := by
  obtain ⟨cs, st, reached, more⟩ := lenientFrom_append reached_start bytes
  refine ⟨cs, st, reached, ?_, more⟩
  rw [lenient, ← List.append_nil bytes, more, lenientFrom_nil]

/-- At a byte of ASCII bytes may be cut. -/
theorem lenient_append_ascii (bytes : Bytes) {b : UInt8} (ascii : b < 0x80) (rest : Bytes) :
    lenient (bytes ++ b :: rest) = lenient bytes ++ Char.ofNat b.toNat :: lenient rest := by
  obtain ⟨cs, st, reached, whole, more⟩ := lenient_append bytes
  rw [more, whole, lenientFrom_cons, step_ascii reached ascii, List.append_assoc, List.append_assoc]
  rfl

theorem lenient_append_lineFeed (bytes rest : Bytes) :
    lenient (bytes ++ 0x0A :: rest) = lenient bytes ++ '\n' :: lenient rest :=
  lenient_append_ascii bytes (by decide) rest

/-- A line feed is read where there is one. -/
theorem lineFeed_of_mem_lenientFrom {st : Utf8State} (reached : st.Reached) {bytes : Bytes}
    (mem : '\n' ∈ lenientFrom st bytes) : 0x0A ∈ bytes := by
  induction bytes generalizing st with
  | nil => exact absurd mem (lineFeed_not_mem_finish st)
  | cons b bytes ih =>
      rw [lenientFrom_cons, List.mem_append] at mem
      rcases mem with mem | mem
      · rw [eq_of_lineFeed_step reached mem]
        exact List.mem_cons_self
      · exact List.mem_cons_of_mem _ (ih (reached_step reached b) mem)

/-! ### Characters that are cut -/

theorem lenientFrom_ne_nil {st : Utf8State} {bytes : Bytes} (more : st ≠ .start ∨ bytes ≠ []) :
    lenientFrom st bytes ≠ [] := by
  induction bytes generalizing st with
  | nil =>
      cases st with
      | start => simp at more
      | inside => exact List.cons_ne_nil _ _
  | cons b bytes ih =>
      rw [lenientFrom_cons]
      by_cases ended : (st.step b).2 = .start
      · exact List.append_ne_nil_of_left_ne_nil (step_ne_nil ended) _
      · exact List.append_ne_nil_of_right_ne_nil _ (ih (.inl ended))

/-- A character that is broken off is read as one faulty sequence. -/
theorem lenient_take_encodeChar {c : Char} {k : Nat} (begun : 0 < k)
    (part : k < (String.utf8EncodeChar c).length) :
    lenient ((String.utf8EncodeChar c).take k) = [replacement] := by
  obtain ⟨cs, st, -, read, more⟩ := lenient_append ((String.utf8EncodeChar c).take k)
  have whole : cs ++ lenientFrom st ((String.utf8EncodeChar c).drop k) = [c] := by
    rw [← more, List.take_append_drop, lenient, ← List.append_nil (String.utf8EncodeChar c),
      lenientFrom_encodeChar, lenientFrom_nil, finish]
  have left : (String.utf8EncodeChar c).drop k ≠ [] := by
    rw [Ne, List.drop_eq_nil_iff]
    exact Nat.not_le.2 part
  -- the character is written when its last byte is read, and nothing before
  have silent : cs = [] := by
    rcases List.append_eq_singleton_iff.1 whole with ⟨silent, -⟩ | ⟨-, late⟩
    · exact silent
    · exact absurd late (lenientFrom_ne_nil (.inr left))
  rw [silent, List.nil_append] at read
  cases st with
  | inside => exact read
  | start =>
      have some : (String.utf8EncodeChar c).take k ≠ [] := by
        rw [← List.length_pos_iff, List.length_take]
        omega
      exact absurd read (lenientFrom_ne_nil (.inr some))

/-- No later byte of a character begins one. -/
theorem later_of_mem_drop {c : Char} {k : Nat} (begun : 0 < k) {b : UInt8}
    (mem : b ∈ (String.utf8EncodeChar c).drop k) : 0x80 ≤ b ∧ b < 0xC2 := by
  have mem : b ∈ (String.utf8EncodeChar c).drop 1 := List.drop_subset_drop_left _ begun mem
  rw [String.utf8EncodeChar.eq_1] at mem
  simp only [UInt8.le_iff_toNat_le, UInt8.lt_iff_toNat_lt, UInt8.reduceToNat]
  split_ifs at mem <;>
    simp only [List.drop_succ_cons, List.drop_zero, List.mem_cons, List.not_mem_nil, or_false]
      at mem
  · subst mem
    simp
    omega
  · rcases mem with rfl | rfl <;> simp <;> omega
  · rcases mem with rfl | rfl | rfl <;> simp <;> omega

/-- Each of the bytes that are left of a character is a faulty sequence of its own. -/
theorem lenient_drop_encodeChar {c : Char} {k : Nat} (begun : 0 < k) (rest : Bytes) :
    lenient ((String.utf8EncodeChar c).drop k ++ rest) =
      .replicate ((String.utf8EncodeChar c).length - k) replacement ++ lenient rest := by
  have laters : ∀ bytes : Bytes, (∀ b ∈ bytes, 0x80 ≤ b ∧ b < 0xC2) →
      lenient (bytes ++ rest) = .replicate bytes.length replacement ++ lenient rest := by
    intro bytes later
    induction bytes with
    | nil => rfl
    | cons b bytes ih =>
        obtain ⟨⟨low, high⟩, later⟩ := List.forall_mem_cons.1 later
        rw [List.cons_append, lenient, lenientFrom_start_cons, first_later low high, ← lenient,
          ih later]
        rfl
  rw [laters _ fun b mem => later_of_mem_drop begun mem, List.length_drop]

/-! ### Texts that are cut -/

/-- A character of a text that a position among the bytes of the text lies inside of. -/
structure Straddled (s : String) (position : Nat) where
  before : List Char
  char : Char
  after : List Char
  /-- How many of its bytes stand before the position. -/
  begun : Nat
  text : s.toList = before ++ char :: after
  place : (encode before).length + begun = position
  begun_pos : 0 < begun
  begun_lt : begun < (String.utf8EncodeChar char).length

namespace Straddled

variable {s : String} {position : Nat} (c : Straddled s position)

theorem bytesOf_eq : bytesOf s = encode c.before ++
    (String.utf8EncodeChar c.char ++ encode c.after) := by
  rw [bytesOf_eq_encode, c.text, encode_append, encode_cons]

/-- What is read of a text that is cut there: the first part of the character is a faulty sequence,
and so is each byte of the second part. -/
def halves : List Char :=
  c.before ++ .replicate ((String.utf8EncodeChar c.char).length - c.begun + 1) replacement ++
    c.after

theorem take_bytesOf : (bytesOf s).take position =
    encode c.before ++ (String.utf8EncodeChar c.char).take c.begun := by
  rw [c.bytesOf_eq]
  obtain ⟨before, char, after, begun, -, rfl, -, part⟩ := c
  rw [List.take_length_add_append, List.take_append_of_le_length (Nat.le_of_lt part)]

theorem drop_bytesOf : (bytesOf s).drop position =
    (String.utf8EncodeChar c.char).drop c.begun ++ encode c.after := by
  rw [c.bytesOf_eq]
  obtain ⟨before, char, after, begun, -, rfl, -, part⟩ := c
  rw [List.drop_length_add_append, List.drop_append_of_le_length (Nat.le_of_lt part)]

theorem lenient_halves :
    lenient ((bytesOf s).take position) ++ lenient ((bytesOf s).drop position) = c.halves := by
  rw [take_bytesOf c, drop_bytesOf c, lenient_encode_append,
    lenient_take_encodeChar c.begun_pos c.begun_lt, lenient_drop_encodeChar c.begun_pos,
    lenient_encode, halves, List.replicate_succ]
  simp only [List.append_assoc, List.cons_append, List.nil_append]

/-- There are more characters than before. -/
theorem halves_ne : c.halves ≠ s.toList := by
  intro same
  have part := c.begun_lt
  have size := congrArg List.length same
  rw [c.text, halves] at size
  simp only [List.length_append, List.length_replicate, List.length_cons] at size
  omega

end Straddled

/-- A position lies between two characters or inside one, by induction on the characters. -/
theorem between_or_straddled (s : String) (position : Nat) :
    (∃ a b, s.toList = a ++ b ∧ (bytesOf s).take position = encode a ∧
      (bytesOf s).drop position = encode b) ∨ Nonempty (Straddled s position) := by
  obtain ⟨cs, rfl⟩ : ∃ cs, s = .ofList cs := ⟨s.toList, String.ofList_toList.symm⟩
  rw [bytesOf_eq_encode, String.toList_ofList]
  induction cs generalizing position with
  | nil => exact .inl ⟨[], [], rfl, List.take_nil, List.drop_nil⟩
  | cons c cs ih =>
      rcases Nat.lt_or_ge position (String.utf8EncodeChar c).length with inside | behind
      · rcases position.eq_zero_or_pos with rfl | begun
        · exact .inl ⟨[], c :: cs, rfl, rfl, rfl⟩
        · exact .inr ⟨[], c, cs, position, String.toList_ofList, Nat.zero_add _, begun, inside⟩
      · obtain ⟨n, rfl⟩ := Nat.exists_eq_add_of_le behind
        rcases ih n with ⟨a, b, text, first, second⟩ | ⟨before, d, after, k, text, place, pos, part⟩
        · refine .inl ⟨c :: a, b, congrArg (c :: ·) text, ?_, ?_⟩
          · rw [encode_cons, List.take_length_add_append, first, encode_cons]
          · rw [encode_cons, List.drop_length_add_append, second]
        · rw [String.toList_ofList] at text
          refine .inr ⟨c :: before, d, after, k, ?_, ?_, pos, part⟩
          · rw [String.toList_ofList, text, List.cons_append]
          · rw [encode_cons, List.length_append, Nat.add_assoc, place]

/-- A text that is cut is read as it is unless a character of it is cut. -/
theorem lenient_halves_iff (s : String) (position : Nat) :
    lenient ((bytesOf s).take position) ++ lenient ((bytesOf s).drop position) = s.toList ↔
      ¬ Nonempty (Straddled s position) := by
  constructor
  · rintro same ⟨c⟩
    exact c.halves_ne (c.lenient_halves.symm.trans same)
  · intro whole
    rcases between_or_straddled s position with ⟨a, b, text, first, second⟩ | cut
    · rw [first, second, lenient_encode, lenient_encode, text]
    · exact absurd cut whole

end LabelForge.Text
