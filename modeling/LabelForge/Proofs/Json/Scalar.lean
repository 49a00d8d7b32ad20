import LabelForge.Json.Printer
import LabelForge.Json.Reader
import LabelForge.Proofs.Text.Digits

/-!
# LabelForge.Proofs.Json.Scalar

**Texts of strings and numbers.** `SpellsChars` relates the characters of a string to all its texts,
raw or escaped, and `SpellsNumber` a number to the texts that it is read from. The reader takes each
of them for what it stands for and stops behind it. What is printed is among these texts.

Design points:

* What follows a number must not go on with it; `Ends` says so.
* An escape that is half of a pair stands for no character, so a text in which one stands alone is
  no text of a string.
-/

namespace LabelForge.Json

open LabelForge.Number

/-! ### Strings -/

/-- Whether characters, between two quotes, are a text of others. -/
inductive SpellsChars : List Char → List Char → Prop where
  | done : SpellsChars [] []
  /-- A character stands for itself. -/
  | raw {c : Char} {cs ds : List Char} (control : ¬c.toNat < 0x20) (quote : c ≠ '"')
      (backslash : c ≠ '\\') (tail : SpellsChars cs ds) : SpellsChars (c :: cs) (c :: ds)
  /-- A character is named by a letter. -/
  | short {e c : Char} {cs ds : List Char} (meaning : shortEscape? e = some c)
      (tail : SpellsChars cs ds) : SpellsChars ('\\' :: e :: cs) (c :: ds)
  /-- A character is given by its number. -/
  | code {a b c d : Char} {n : Nat} {cs ds : List Char} (value : hex4? a b c d = some n)
      (low : isLowSurrogate n = false) (high : isHighSurrogate n = false)
      (tail : SpellsChars cs ds) :
    SpellsChars ('\\' :: 'u' :: a :: b :: c :: d :: cs) (Char.ofNat n :: ds)
  /-- A character is given by the two halves of its number. -/
  | pair {a b c d a' b' c' d' : Char} {n m : Nat} {cs ds : List Char}
      (first : hex4? a b c d = some n) (second : hex4? a' b' c' d' = some m)
      (high : isHighSurrogate n = true) (low : isLowSurrogate m = true)
      (tail : SpellsChars cs ds) :
    SpellsChars
      ('\\' :: 'u' :: a :: b :: c :: d :: '\\' :: 'u' :: a' :: b' :: c' :: d' :: cs)
      (Char.ofNat (0x10000 + (n - 0xD800) * 0x400 + (m - 0xDC00)) :: ds)

theorem hex4?_control {n : Nat} (h : n < 0x20) :
    hex4? '0' '0' (Nat.digitChar (n / 16)) (Nat.digitChar (n % 16)) = some n := by
  have all : ∀ n < 0x20,
      hex4? '0' '0' (Nat.digitChar (n / 16)) (Nat.digitChar (n % 16)) = some n := by decide
  exact all n h

/-- A character above the controls that is no quote and no backslash stands for itself. -/
theorem readString_raw {c : Char} (control : ¬c.toNat < 0x20) (quote : c ≠ '"')
    (backslash : c ≠ '\\') (acc : List Char) (lone : Bool) (tail : List Char) :
    readString acc lone (c :: tail) = readString (c :: acc) lone tail := by
  rw [readString.eq_def]
  split
  case h_6 c' rest _ _ _ _ h =>
    obtain ⟨rfl, rfl⟩ := List.cons.inj h
    exact if_neg control
  all_goals simp_all

theorem readString_short {e c : Char} (meaning : shortEscape? e = some c) (acc : List Char)
    (lone : Bool) (tail : List Char) :
    readString acc lone ('\\' :: e :: tail) = readString (c :: acc) lone tail := by
  rw [readString]
  · simp only [meaning]
  · rintro rfl
    cases meaning

/-- Characters are read from each of their texts. -/
theorem SpellsChars.read {cs ds : List Char} (h : SpellsChars cs ds) (acc rest : List Char)
    (lone : Bool) :
    readString acc lone (cs ++ rest) = readString (ds.reverse ++ acc) lone rest := by
  induction h generalizing acc with
  | done => rfl
  | raw control quote backslash _ ih =>
      rw [List.cons_append, readString_raw control quote backslash, ih, List.reverse_cons,
        List.append_assoc, List.singleton_append]
  | short meaning _ ih =>
      rw [List.cons_append, List.cons_append, readString_short meaning, ih, List.reverse_cons,
        List.append_assoc, List.singleton_append]
  | code value low high _ ih =>
      simp only [List.cons_append, readString, value, low, high, Bool.false_eq_true, if_false, ih,
        List.reverse_cons, List.append_assoc, List.nil_append]
  | @pair _ _ _ _ _ _ _ _ n _ _ _ first second high low _ ih =>
      have other : isLowSurrogate n = false := by
        simp only [isHighSurrogate, isLowSurrogate, Bool.and_eq_true, decide_eq_true_eq,
          Bool.and_eq_false_iff, decide_eq_false_iff_not] at high ⊢
        omega
      simp only [List.cons_append, readString, first, second, other, high, low, Bool.false_eq_true,
        if_false, if_true, ih, List.reverse_cons, List.append_assoc, List.nil_append]

/-- The escape of a character is a text of it. -/
theorem SpellsChars.escapeChar (c : Char) {cs ds : List Char} (tail : SpellsChars cs ds) :
    SpellsChars (Json.escapeChar c ++ cs) (c :: ds) := by
  unfold Json.escapeChar
  split
  case h_8 quote backslash _ _ _ _ _ =>
    split
    case isTrue control =>
      have low : isLowSurrogate c.toNat = false := by simp [isLowSurrogate]; omega
      have high : isHighSurrogate c.toNat = false := by simp [isHighSurrogate]; omega
      have spelled := SpellsChars.code (hex4?_control control) low high tail
      rwa [Char.ofNat_toNat] at spelled
    case isFalse control => exact .raw control quote backslash tail
  all_goals exact .short rfl tail

theorem spellsChars_escaped (cs : List Char) : SpellsChars (cs.flatMap escapeChar) cs := by
  induction cs with
  | nil => exact .done
  | cons c cs ih => exact .escapeChar c ih

/-- Whether characters are a text of a string, with its quotes. -/
inductive SpellsText : List Char → String → Prop where
  | quoted {cs : List Char} {s : String} (h : SpellsChars cs s.toList) :
    SpellsText ('"' :: (cs ++ ['"'])) s

/-- A string is read from behind its opening quote, with what stands behind the closing one
left. -/
theorem SpellsChars.read_closed {cs : List Char} {s : String} (h : SpellsChars cs s.toList)
    (rest : List Char) : readString [] false (cs ++ '"' :: rest) = .closed (some s) rest := by
  rw [h.read, List.append_nil, readString, List.reverse_reverse, String.ofList_toList]
  rfl

theorem stringChars_append (s : String) (rest : List Char) :
    stringChars s ++ rest = '"' :: (s.toList.flatMap escapeChar ++ '"' :: rest) := by
  rw [stringChars, List.cons_append, List.cons_append, List.append_assoc, List.singleton_append]

theorem spellsText_stringChars (s : String) : SpellsText (stringChars s) s :=
  .quoted (spellsChars_escaped s.toList)

/-- A printed string is read back from behind its opening quote. -/
theorem readString_stringChars (s : String) (rest : List Char) :
    readString [] false (s.toList.flatMap escapeChar ++ '"' :: rest) = .closed (some s) rest :=
  (spellsChars_escaped s.toList).read_closed rest

/-! ### Numbers -/

/-- Digits, at least one. -/
def Figures (ds : List Char) : Prop :=
  ds ≠ [] ∧ ∀ c ∈ ds, c.isDigit = true

/-- Whether characters are a text of an exponent: whether it counts down, and its size. -/
inductive SpellsExponent : List Char → Bool → Nat → Prop where
  | bare {mark : Char} {ds : List Char} (letter : mark = 'e' ∨ mark = 'E') (figures : Figures ds) :
    SpellsExponent (mark :: ds) false (digitsValue ds)
  | up {mark : Char} {ds : List Char} (letter : mark = 'e' ∨ mark = 'E') (figures : Figures ds) :
    SpellsExponent (mark :: '+' :: ds) false (digitsValue ds)
  | down {mark : Char} {ds : List Char} (letter : mark = 'e' ∨ mark = 'E') (figures : Figures ds) :
    SpellsExponent (mark :: '-' :: ds) true (digitsValue ds)

/-- Whether characters go on with a number behind its digits in front of the point, and the number
that it becomes. -/
inductive SpellsTail (negative : Bool) (whole : List Char) : List Char → Numeral → Prop where
  | integer : SpellsTail negative whole [] (integerNumeral negative whole)
  | fraction {ds : List Char} (figures : Figures ds) :
    SpellsTail negative whole ('.' :: ds) (realNumeral negative whole ds 0)
  | exponent {es : List Char} {down : Bool} {e : Nat} (h : SpellsExponent es down e) :
    SpellsTail negative whole es (exponentNumeral negative whole [] down e)
  | both {ds es : List Char} {down : Bool} {e : Nat} (figures : Figures ds)
      (h : SpellsExponent es down e) :
    SpellsTail negative whole ('.' :: (ds ++ es)) (exponentNumeral negative whole ds down e)

/-- Digits in front of a point, with no needless zero in front of them. -/
structure Leading (whole : List Char) : Prop where
  lead : whole = ['0'] ∨ ∃ c cs, whole = c :: cs ∧ c ≠ '0'
  digits : ∀ c ∈ whole, c.isDigit = true

/-- Whether characters are a text of a number. -/
inductive SpellsNumber : List Char → Numeral → Prop where
  | positive {whole tail : List Char} {n : Numeral} (leading : Leading whole)
      (h : SpellsTail false whole tail n) : SpellsNumber (whole ++ tail) n
  | negative {whole tail : List Char} {n : Numeral} (leading : Leading whole)
      (h : SpellsTail true whole tail n) : SpellsNumber ('-' :: (whole ++ tail)) n

/-- What may follow a number: nothing that would go on with it. -/
def Ends (rest : List Char) : Prop :=
  ∀ c ∈ rest.head?, c.isDigit = false ∧ c ≠ '.' ∧ c ≠ 'e' ∧ c ≠ 'E'

section Reading

variable {rest : List Char} {negative : Bool} {whole : List Char} {n : Numeral}

theorem Ends.readAfterWhole (ends : Ends rest) (negative : Bool) (whole : List Char) :
    readAfterWhole negative whole rest = (.number (integerNumeral negative whole), some rest) := by
  unfold Json.readAfterWhole
  split
  · exact absurd rfl (ends _ rfl).2.1
  · exact absurd rfl (ends _ rfl).2.2.1
  · exact absurd rfl (ends _ rfl).2.2.2
  · rfl

/-- Nothing that ends a number goes on with its digits. -/
theorem Ends.stops (ends : Ends rest) : ∀ c ∈ rest.head?, c.isDigit = false :=
  fun c mem => (ends c mem).1

theorem Figures.span {ds : List Char} (figures : Figures ds)
    (stop : ∀ c ∈ rest.head?, c.isDigit = false) :
    (ds ++ rest).takeWhile Char.isDigit = ds ∧ (ds ++ rest).dropWhile Char.isDigit = rest ∧
      ds.isEmpty = false := by
  obtain ⟨front, behind⟩ := span_append figures.2 stop
  exact ⟨front, behind, List.isEmpty_eq_false_iff.2 figures.1⟩

/-- An exponent is read from behind its letter. -/
theorem SpellsExponent.read {es : List Char} {down : Bool} {e : Nat} (h : SpellsExponent es down e)
    (negative : Bool) (whole fraction : List Char) (ends : Ends rest) :
    ∃ mark tail, es = mark :: tail ∧ (mark = 'e' ∨ mark = 'E') ∧
      readExponent negative whole fraction (tail ++ rest) =
        (.number (exponentNumeral negative whole fraction down e), some rest) := by
  cases h with
  | @bare mark ds letter figures =>
      refine ⟨mark, ds, rfl, letter, ?_⟩
      obtain ⟨front, behind, some⟩ := figures.span ends.stops
      obtain ⟨d, ds, rfl⟩ := List.exists_cons_of_ne_nil figures.1
      have digit : d.isDigit = true := figures.2 d (List.mem_cons_self ..)
      unfold readExponent
      split
      rename_i down cs same
      split at same
      · rename_i plus
        rw [(List.cons.inj plus).1] at digit
        cases digit
      · rename_i minus
        rw [(List.cons.inj minus).1] at digit
        cases digit
      · cases same
        simp only [front, behind, some, Bool.false_eq_true, if_false]
  | up letter figures =>
      obtain ⟨front, behind, some⟩ := figures.span ends.stops
      refine ⟨_, _, rfl, letter, ?_⟩
      simp [readExponent, front, behind, some]
  | down letter figures =>
      obtain ⟨front, behind, some⟩ := figures.span ends.stops
      refine ⟨_, _, rfl, letter, ?_⟩
      simp [readExponent, front, behind, some]

/-- No digit begins what stands behind the digits in front of the point. -/
theorem SpellsTail.stops {ts : List Char} (h : SpellsTail negative whole ts n) (ends : Ends rest) :
    ∀ c ∈ (ts ++ rest).head?, c.isDigit = false := by
  have letters {es : List Char} {down : Bool} {e : Nat} (h : SpellsExponent es down e) :
      ∀ c ∈ (es ++ rest).head?, c.isDigit = false := by
    cases h <;> rename_i letter _ <;> rintro _ ⟨⟩ <;> rcases letter with rfl | rfl <;> rfl
  cases h with
  | integer => exact ends.stops
  | exponent h => exact letters h
  | _ =>
      rintro _ ⟨⟩
      rfl

/-- What follows the digits in front of the point is read up to its end. -/
theorem SpellsTail.read {ts : List Char} (h : SpellsTail negative whole ts n) (ends : Ends rest) :
    readAfterWhole negative whole (ts ++ rest) = (.number n, some rest) := by
  cases h with
  | integer => exact ends.readAfterWhole negative whole
  | @fraction ds figures =>
      obtain ⟨front, behind, some⟩ := figures.span ends.stops
      simp only [List.cons_append, Json.readAfterWhole, front, behind, some, Bool.false_eq_true,
        if_false]
      split
      · exact absurd rfl (ends _ rfl).2.2.1
      · exact absurd rfl (ends _ rfl).2.2.2
      · rfl
  | exponent h =>
      obtain ⟨mark, tail, rfl, rfl | rfl, read⟩ := h.read negative whole [] ends
      · exact read
      · exact read
  | @both ds es down e figures h =>
      have exponent : SpellsTail negative whole es _ := .exponent h
      obtain ⟨front, behind, some⟩ := figures.span (exponent.stops ends)
      obtain ⟨mark, tail, rfl, letter, read⟩ := h.read negative whole ds ends
      rw [List.cons_append, List.append_assoc]
      simp only [Json.readAfterWhole, front, behind, some, Bool.false_eq_true, if_false]
      rcases letter with rfl | rfl
      · exact read
      · exact read

/-- Digits without a needless zero in front of them are read up to their end. -/
theorem Leading.read {tail : List Char} (leading : Leading whole)
    (stop : ∀ c ∈ tail.head?, c.isDigit = false) (negative : Bool) :
    readNumber negative (whole ++ tail) = readAfterWhole negative whole tail := by
  obtain ⟨front, behind⟩ := span_append leading.digits stop
  unfold readNumber
  simp only [front, behind]
  rcases leading.lead with rfl | ⟨c, cs, rfl, ne⟩
  · rfl
  · split
    · rename_i nil
      cases nil
    · rename_i zero
      exact absurd (List.cons.inj zero).1 ne
    · rfl

theorem Leading.begins (leading : Leading whole) :
    ∃ c cs, whole = c :: cs ∧ c.isDigit = true := by
  obtain ⟨c, cs, rfl⟩ : ∃ c cs, whole = c :: cs := by
    rcases leading.lead with zero | ⟨c, cs, cons, -⟩
    · exact ⟨_, _, zero⟩
    · exact ⟨c, cs, cons⟩
  exact ⟨c, cs, rfl, leading.digits c (List.mem_cons_self ..)⟩

theorem leading_natDigits (m : Nat) : Leading (natDigits m) :=
  ⟨(natDigits_eq_cons m).imp_left And.right, fun _ => isDigit_of_mem_natDigits⟩

end Reading

theorem isSpace_digit {c : Char} (digit : c.isDigit = true) : isSpace c = false := by
  cases blank : isSpace c with
  | false => rfl
  | true =>
      simp only [isSpace, Bool.or_eq_true, beq_iff_eq] at blank
      rcases blank with ((rfl | rfl) | rfl) | rfl <;> cases digit

/-- A value that begins with a digit is a number. -/
theorem readValue_digit {c : Char} (digit : c.isDigit = true) (fuel : Nat) (cs : List Char) :
    readValue (fuel + 1) (c :: cs) = readNumber false (c :: cs) := by
  rw [readValue, skipSpace, List.dropWhile_cons_of_neg (by simp [isSpace_digit digit])]
  split
  case h_9 h =>
    obtain ⟨rfl, rfl⟩ := List.cons.inj h
    exact if_pos digit
  all_goals
    rename_i h
    cases h <;> cases digit

theorem readValue_minus (fuel : Nat) (cs : List Char) :
    readValue (fuel + 1) ('-' :: cs) = readNumber true cs := by
  rw [readValue, skipSpace, List.dropWhile_cons_of_neg (by decide)]
  rfl

section Number

variable {cs rest : List Char} {n : Numeral}

theorem SpellsNumber.begins (h : SpellsNumber cs n) :
    ∃ c tail, cs = c :: tail ∧ (c = '-' ∨ c.isDigit = true) := by
  cases h with
  | positive leading _ =>
      obtain ⟨c, tail, rfl, digit⟩ := leading.begins
      exact ⟨c, _, rfl, .inr digit⟩
  | negative _ _ => exact ⟨'-', _, rfl, .inl rfl⟩

/-- A number is read from each of its texts. -/
theorem SpellsNumber.read (h : SpellsNumber cs n) (fuel : Nat) (ends : Ends rest) :
    readValue (fuel + 1) (cs ++ rest) = (.number n, some rest) := by
  cases h with
  | @positive whole tail _ leading h =>
      obtain ⟨c, ds, cons, digit⟩ := leading.begins
      have value := readValue_digit digit fuel (ds ++ (tail ++ rest))
      rw [← List.cons_append, ← cons] at value
      rw [List.append_assoc, value, leading.read (h.stops ends), h.read ends]
  | @negative whole tail _ leading h =>
      rw [List.cons_append, readValue_minus, List.append_assoc, leading.read (h.stops ends),
        h.read ends]

end Number

/-- A number that is read back from its text. -/
def Numeral.Legible (n : Numeral) : Prop :=
  SpellsNumber n.chars n

/-- The integers of 64 bits, signed or not, are read back. -/
theorem Numeral.Legible.int {i : Int} (low : -(2 ^ 63) ≤ i) (high : i < 2 ^ 64) :
    (Numeral.int i).Legible := by
  have small : ¬i.natAbs > maxInteger := by unfold maxInteger; omega
  have chars : (Numeral.int i).chars =
      if i < 0 then '-' :: natDigits i.natAbs else natDigits i.natAbs :=
    String.toList_ofList
  have leading := leading_natDigits i.natAbs
  rw [Legible, chars]
  by_cases negative : i < 0
  · have nonzero : (i.natAbs == 0 || decide (i.natAbs > 2 ^ 63)) = false := by simp; omega
    have value : integerNumeral true (natDigits i.natAbs) = .int i := by
      simp only [integerNumeral, digitsValue_natDigits, if_neg small, Bool.not_true,
        Bool.false_eq_true, if_false, nonzero]
      congr 1
      omega
    have spelled := SpellsNumber.negative leading .integer
    rw [value, List.append_nil] at spelled
    rwa [if_pos negative]
  · have value : integerNumeral false (natDigits i.natAbs) = .int i := by
      simp only [integerNumeral, digitsValue_natDigits, if_neg small, Bool.not_false, if_true]
      congr 1
      omega
    have spelled := SpellsNumber.positive leading .integer
    rw [value, List.append_nil] at spelled
    rwa [if_neg negative]

end LabelForge.Json
