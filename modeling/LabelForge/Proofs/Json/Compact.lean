import LabelForge.Proofs.Json.Spelling
import LabelForge.Proofs.Number.Layout

/-!
# LabelForge.Proofs.Json.Compact

**No two documents have the same compact text.** A compact text is taken apart in only one way: its
first character tells the kind of the value, and the value ends in front of a comma or a closing
bracket, or with its own. Two texts that begin a common text are therefore texts of one document.

Design points:

* The reader is no help here, because it rounds: there are doubles that it reads as their
  neighbour. Numbers are told apart by their texts, of which no double shares one with another and
  none with an integer.
-/

namespace LabelForge.Json

open Number

/-! ### Numbers -/

/-- A number that no other number is written as. -/
def Numeral.Exact : Numeral → Prop
  | .int _ => True
  | .real x => x.Representable
  | .overflow => False

/-- Characters of which the texts of numbers consist. -/
def isNumberChar (c : Char) : Bool :=
  c.isDigit || c == '-' || c == '+' || c == '.' || c == 'e'

theorem isNumberChar_digit {c : Char} (digit : c.isDigit = true) : isNumberChar c = true := by
  simp [isNumberChar, digit]

theorem intText_toList (i : Int) :
    (intText i).toList = Double.signText (decide (i < 0)) (natDigits i.natAbs) := by
  rw [intText, String.toList_ofList]
  by_cases down : i < 0 <;> simp [Double.signText, down]

theorem natDigits_digit (n : Nat) : ∀ c ∈ (natDigits n).head?, c.isDigit = true :=
  fun _ mem => isDigit_of_mem_natDigits (List.mem_of_mem_head? mem)

theorem intText_injective {i j : Int} (same : (intText i).toList = (intText j).toList) : i = j := by
  rw [intText_toList, intText_toList] at same
  obtain ⟨sign, digits⟩ :=
    Double.signText_injective (natDigits_digit _) (natDigits_digit _) same
  have size := natDigits_injective digits
  have negative : i < 0 ↔ j < 0 := by simpa using sign
  omega

/-- A text of a number begins with a sign or a digit. -/
theorem Numeral.Exact.begins {n : Numeral} (h : n.Exact) :
    ∃ c cs, n.chars = c :: cs ∧ (c = '-' ∨ c.isDigit = true) := by
  have signed {negative : Bool} {body : List Char} (some : body ≠ [])
      (digit : ∀ c ∈ body.head?, c.isDigit = true) :
      ∃ c cs, Double.signText negative body = c :: cs ∧ (c = '-' ∨ c.isDigit = true) := by
    obtain ⟨c, cs, rfl⟩ := List.exists_cons_of_ne_nil some
    cases negative with
    | true => exact ⟨'-', _, rfl, .inl rfl⟩
    | false => exact ⟨c, cs, rfl, .inr (digit c rfl)⟩
  cases n with
  | int i =>
      show ∃ c cs, (intText i).toList = c :: cs ∧ _
      rw [intText_toList]
      exact signed Nat.toDigits_ne_nil (natDigits_digit _)
  | real x =>
      cases x with
      | finite negative units =>
          have proper := Double.unitsLayout_proper units
          obtain ⟨c, cs, cons, -⟩ := proper.begins
          show ∃ c cs, (Double.finite negative units).documentText.toList = c :: cs ∧ _
          rw [Double.documentText_finite]
          exact signed (cons ▸ List.cons_ne_nil c cs) proper.digit
      | _ => exact h.elim
  | overflow => exact h.elim

theorem isNumberChar_layout {l : Layout} (proper : l.Proper) :
    ∀ c ∈ l.chars, isNumberChar c = true := by
  obtain ⟨whole, fraction, exponent⟩ := l
  have digits := proper.digits
  simp only [List.forall_mem_append] at digits
  simp only [Layout.chars, List.forall_mem_append]
  refine ⟨fun c mem => isNumberChar_digit (digits.1 c mem), ?_, ?_⟩
  · cases fraction with
    | nil => exact fun c mem => by cases mem
    | cons d ds =>
        simp only [Layout.fractionChars, List.forall_mem_cons (a := '.')]
        exact ⟨by decide, fun c mem => isNumberChar_digit (digits.2 c mem)⟩
  · cases exponent with
    | none => exact fun c mem => by cases mem
    | some e =>
        simp only [Layout.exponentChars, List.forall_mem_cons]
        refine ⟨by decide, ?_, fun c mem => isNumberChar_digit (isDigit_of_mem_natDigits mem)⟩
        split <;> decide

/-- A text of a number consists of characters of numbers. -/
theorem Numeral.Exact.isNumberChar {n : Numeral} (h : n.Exact) :
    ∀ c ∈ n.chars, isNumberChar c = true := by
  have signed {negative : Bool} {body : List Char} (all : ∀ c ∈ body, Json.isNumberChar c = true) :
      ∀ c ∈ Double.signText negative body, Json.isNumberChar c = true := by
    cases negative with
    | false => exact all
    | true => exact List.forall_mem_cons.mpr ⟨by decide, all⟩
  cases n with
  | int i =>
      show ∀ c ∈ (intText i).toList, _
      rw [intText_toList]
      exact signed fun c mem => isNumberChar_digit (isDigit_of_mem_natDigits mem)
  | real x =>
      cases x with
      | finite negative units =>
          show ∀ c ∈ (Double.finite negative units).documentText.toList, _
          rw [Double.documentText_finite]
          exact signed (isNumberChar_layout (Double.unitsLayout_proper units))
      | _ => exact h.elim
  | overflow => exact h.elim

/-- The text of a double has a point or an exponent, which no integer has. -/
theorem int_chars_ne_real (i : Int) (negative : Bool) (units : Nat) :
    (Numeral.int i).chars ≠ (Numeral.real (.finite negative units)).chars := by
  intro same
  have proper := Double.unitsLayout_proper units
  replace same : (intText i).toList = (Double.finite negative units).documentText.toList := same
  rw [intText_toList, Double.documentText_finite] at same
  obtain ⟨-, bodies⟩ := Double.signText_injective (natDigits_digit _) proper.digit same
  have digits : ∀ c ∈ (Double.unitsLayout units).chars, c.isDigit = true :=
    bodies ▸ fun _ => isDigit_of_mem_natDigits
  simp only [Layout.chars, List.forall_mem_append] at digits
  rcases proper.marked with point | exponent
  · rw [Layout.fractionChars_cons point] at digits
    exact absurd (digits.2.1 '.' (List.mem_cons_self ..)) (by decide)
  · obtain ⟨e, some⟩ := Option.ne_none_iff_exists'.mp exponent
    rw [some] at digits
    exact absurd (digits.2.2 'e' (List.mem_cons_self ..)) (by decide)

/-- No two numbers have the same text. -/
theorem Numeral.Exact.chars_injective {m n : Numeral} (h : m.Exact) (h' : n.Exact)
    (same : m.chars = n.chars) : m = n := by
  cases m with
  | int i =>
      cases n with
      | int j => rw [intText_injective same]
      | real y =>
          cases y with
          | finite negative units => exact (int_chars_ne_real i negative units same).elim
          | _ => exact h'.elim
      | overflow => exact h'.elim
  | real x =>
      cases n with
      | int j =>
          cases x with
          | finite negative units => exact (int_chars_ne_real j negative units same.symm).elim
          | _ => exact h.elim
      | real y => rw [Double.documentText_injective h h' (String.toList_inj.mp same)]
      | overflow => exact h'.elim
  | overflow => exact h.elim

/-! ### Documents -/

/-- A document without faults whose numbers are told apart by their texts. -/
abbrev Exact (j : Json) : Prop := j.Complete Numeral.Exact

/-- The kind of a value, by a character with which its text may begin. -/
def mark : Json → Char
  | .null => 'n'
  | .bool _ => 't'
  | .number _ => '-'
  | .text _ => '"'
  | .array _ => '['
  | .object _ => '\x7b'
  | .broken _ => ' '

/-- The kind of the value that a character begins. -/
def markOf (c : Char) : Char :=
  if c.isDigit then '-' else if c == 'f' then 't' else c

variable {j j' : Json} {rest rest' : List Char}

/-- The first character of a value tells its kind. -/
theorem Exact.begins (h : j.Exact) : ∃ c cs, compactChars j = c :: cs ∧ markOf c = j.mark := by
  cases j with
  | null => exact ⟨'n', _, rfl, rfl⟩
  | bool b => cases b <;> exact ⟨_, _, rfl, rfl⟩
  | number n =>
      obtain ⟨c, cs, chars, sign | digit⟩ := Numeral.Exact.begins h
      · exact ⟨c, cs, chars, sign ▸ rfl⟩
      · exact ⟨c, cs, chars, if_pos digit⟩
  | text s => exact ⟨'"', _, rfl, rfl⟩
  | array items => exact ⟨'[', _, rfl, rfl⟩
  | object members => exact ⟨'\x7b', _, rfl, rfl⟩
  | broken stop => exact h.elim

/-- Values that begin a common text are of the same kind. -/
theorem Exact.mark_eq (h : j.Exact) (h' : j'.Exact)
    (same : compactChars j ++ rest = compactChars j' ++ rest') : j.mark = j'.mark := by
  obtain ⟨c, cs, chars, kind⟩ := h.begins
  obtain ⟨c', cs', chars', kind'⟩ := h'.begins
  rw [chars, chars', List.cons_append, List.cons_append] at same
  rw [← kind, ← kind', (List.cons.inj same).1]

/-- No value begins with a comma or a closing bracket. -/
theorem Exact.begins_ne (h : j.Exact) {c : Char} (closing : c = ',' ∨ c = ']' ∨ c = '\x7d')
    (tail : List Char) : c :: tail ≠ compactChars j ++ rest := by
  intro same
  obtain ⟨d, ds, chars, kind⟩ := h.begins
  rw [chars, List.cons_append] at same
  rw [← (List.cons.inj same).1] at kind
  have other : markOf c ≠ j.mark := by
    rcases closing with rfl | rfl | rfl <;> cases j <;> simp [mark, markOf]
  exact other kind

/-- What may stand behind a value in a compact text. -/
def Closes (rest : List Char) : Prop :=
  ∀ c ∈ rest.head?, c = ',' ∨ c = ']' ∨ c = '\x7d'

theorem Closes.stops (h : Closes rest) : ∀ c ∈ rest.head?, isNumberChar c = false := by
  intro c mem
  rcases h c mem with rfl | rfl | rfl <;> decide

/-- What stands behind an item or a member. -/
theorem closes_items (items : Items) : Closes (compactItems items false ++ ']' :: rest) := by
  cases items <;> (rintro _ ⟨⟩; decide)

theorem closes_members (members : Members) :
    Closes (compactMembers members false ++ '\x7d' :: rest) := by
  cases members <;> (rintro _ ⟨⟩; decide)

/-- An item is no closing bracket. -/
theorem Exact.item_open (h : j.Exact) (tail : Items) (first : Bool) :
    ']' :: rest ≠ compactItems (.cons j tail) first ++ rest' := by
  intro same
  cases first with
  | false => cases (List.cons.inj same).1
  | true =>
      simp only [compactItems, if_true, List.nil_append, List.append_assoc] at same
      exact h.begins_ne (.inr (.inl rfl)) _ same

/-- A member is no closing brace. -/
theorem member_open (key : Option String) (j : Json) (tail : Members) (first : Bool) :
    '\x7d' :: rest ≠ compactMembers (.cons key j tail) first ++ rest' := by
  intro same
  cases first <;> cases (List.cons.inj same).1

/-- A string that is printed ends with its own quote. -/
theorem stringChars_unique {s t : String} (same : stringChars s ++ rest = stringChars t ++ rest') :
    s = t ∧ rest = rest' := by
  rw [stringChars_append, stringChars_append] at same
  have scan := readString_stringChars s rest
  rw [(List.cons.inj same).2, readString_stringChars] at scan
  simp only [StringScan.closed.injEq, Option.some.injEq] at scan
  exact ⟨scan.1.symm, scan.2.symm⟩

mutual

/-- Values that begin a common text are equal, and so is what stands behind them. The induction is
on the first of them; the second one is of the same kind. -/
theorem Exact.unique (j j' : Json) {rest rest' : List Char} (h : j.Exact) (h' : j'.Exact)
    (closes : Closes rest) (closes' : Closes rest')
    (same : compactChars j ++ rest = compactChars j' ++ rest') : j = j' ∧ rest = rest' := by
  have kind := h.mark_eq h' same
  cases j with
  | null =>
      cases j' with
      | null => exact ⟨rfl, List.append_cancel_left same⟩
      | _ => cases kind
  | bool b =>
      cases j' with
      | bool b' =>
          cases b <;> cases b'
          · exact ⟨rfl, List.append_cancel_left same⟩
          · cases (List.cons.inj same).1
          · cases (List.cons.inj same).1
          · exact ⟨rfl, List.append_cancel_left same⟩
      | _ => cases kind
  | number n =>
      cases j' with
      | number n' =>
          obtain ⟨chars, tails⟩ := span_unique (Numeral.Exact.isNumberChar h)
            (Numeral.Exact.isNumberChar h') closes.stops closes'.stops same
          exact ⟨congrArg Json.number (Numeral.Exact.chars_injective h h' chars), tails⟩
      | _ => cases kind
  | text s =>
      cases j' with
      | text s' =>
          obtain ⟨t, rfl⟩ := Option.isSome_iff_exists.mp h
          obtain ⟨t', rfl⟩ := Option.isSome_iff_exists.mp h'
          obtain ⟨rfl, tails⟩ := stringChars_unique same
          exact ⟨rfl, tails⟩
      | _ => cases kind
  | array items =>
      cases j' with
      | array items' =>
          simp only [compactChars, List.cons_append, List.append_assoc, List.cons.injEq,
            true_and] at same
          obtain ⟨rfl, tails⟩ := Items.unique true items items' h h' same
          exact ⟨rfl, tails⟩
      | _ => cases kind
  | object members =>
      cases j' with
      | object members' =>
          simp only [compactChars, List.cons_append, List.append_assoc, List.cons.injEq,
            true_and] at same
          obtain ⟨rfl, tails⟩ := Members.unique true members members' h h' same
          exact ⟨rfl, tails⟩
      | _ => cases kind
  | broken stop => exact h.elim

/-- Items with the closing bracket behind them end with it. -/
theorem Items.unique (first : Bool) (items items' : Items) {rest rest' : List Char}
    (h : items.Complete Numeral.Exact) (h' : items'.Complete Numeral.Exact)
    (same : compactItems items first ++ ']' :: rest = compactItems items' first ++ ']' :: rest') :
    items = items' ∧ rest = rest' := by
  cases items with
  | stopped stop => exact h.elim
  | done =>
      cases items' with
      | stopped stop => exact h'.elim
      | done => exact ⟨rfl, (List.cons.inj same).2⟩
      | cons j' tail' => exact (Exact.item_open h'.1 tail' first same).elim
  | cons j tail =>
      cases items' with
      | stopped stop => exact h'.elim
      | done => exact (Exact.item_open h.1 tail first same.symm).elim
      | cons j' tail' =>
          replace same : compactChars j ++ (compactItems tail false ++ ']' :: rest) =
              compactChars j' ++ (compactItems tail' false ++ ']' :: rest') := by
            simpa [compactItems] using same
          obtain ⟨rfl, tails⟩ :=
            Exact.unique j j' h.1 h'.1 (closes_items tail) (closes_items tail') same
          obtain ⟨rfl, behind⟩ := Items.unique false tail tail' h.2 h'.2 tails
          exact ⟨rfl, behind⟩

/-- Members with the closing brace behind them end with it. -/
theorem Members.unique (first : Bool) (members members' : Members) {rest rest' : List Char}
    (h : members.Complete Numeral.Exact) (h' : members'.Complete Numeral.Exact)
    (same : compactMembers members first ++ '\x7d' :: rest =
      compactMembers members' first ++ '\x7d' :: rest') :
    members = members' ∧ rest = rest' := by
  cases members with
  | stopped stop => exact h.elim
  | done =>
      cases members' with
      | stopped stop => exact h'.elim
      | done => exact ⟨rfl, (List.cons.inj same).2⟩
      | cons key' j' tail' => exact (member_open key' j' tail' first same).elim
  | cons key j tail =>
      cases members' with
      | stopped stop => exact h'.elim
      | done => exact (member_open key j tail first same.symm).elim
      | cons key' j' tail' =>
          obtain ⟨key, rfl⟩ := Option.isSome_iff_exists.mp h.1
          obtain ⟨key', rfl⟩ := Option.isSome_iff_exists.mp h'.1
          replace same :
              stringChars key ++ ':' :: (compactChars j ++
                (compactMembers tail false ++ '\x7d' :: rest)) =
              stringChars key' ++ ':' :: (compactChars j' ++
                (compactMembers tail' false ++ '\x7d' :: rest')) := by
            simpa [compactMembers, keyChars] using same
          obtain ⟨rfl, values⟩ := stringChars_unique same
          obtain ⟨rfl, tails⟩ := Exact.unique j j' h.2.1 h'.2.1 (closes_members tail)
            (closes_members tail') (List.cons.inj values).2
          obtain ⟨rfl, behind⟩ := Members.unique false tail tail' h.2.2 h'.2.2 tails
          exact ⟨rfl, behind⟩

end

/-- No two documents have the same compact text. -/
theorem Exact.compact_injective (h : j.Exact) (h' : j'.Exact) (same : j.compact = j'.compact) :
    j = j' := by
  have chars : compactChars j = compactChars j' := String.ofList_inj.mp same
  have closes : Closes [] := by rintro _ ⟨⟩
  exact (Exact.unique j j' h h' closes closes (congrArg (· ++ []) chars)).1

end LabelForge.Json
