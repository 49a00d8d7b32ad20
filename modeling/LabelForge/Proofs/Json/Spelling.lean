import LabelForge.Proofs.Json.Scalar

/-!
# LabelForge.Proofs.Json.Spelling

**A document is read from each of its texts.** `Spells` relates a document to its texts: its tokens
in order, with any blanks between them. The reader takes every such text for its document; both
layouts of the printer are such texts of every document whose numbers are legible.
-/

namespace LabelForge.Json

/-- Characters that may stand between two tokens. -/
def Blank (ws : List Char) : Prop := ∀ c ∈ ws, isSpace c = true

theorem blank_nil : Blank [] :=
  nofun

theorem skipSpace_blank {ws : List Char} (h : Blank ws) (cs : List Char) :
    skipSpace (ws ++ cs) = skipSpace cs :=
  List.dropWhile_append_of_pos h

theorem skipSpace_solid {c : Char} (h : isSpace c = false) (cs : List Char) :
    skipSpace (c :: cs) = c :: cs :=
  List.dropWhile_cons_of_neg (by simp [h])

theorem readValue_blank {ws : List Char} (h : Blank ws) (fuel : Nat) (cs : List Char) :
    readValue fuel (ws ++ cs) = readValue fuel cs := by
  cases fuel with
  | zero => rfl
  | succ fuel => rw [readValue, readValue, skipSpace_blank h]

/-! ### Texts of a document -/

mutual

/-- Whether characters are a text of a document. -/
inductive Spells : List Char → Json → Prop where
  | null : Spells "null".toList .null
  | bool (b : Bool) : Spells (if b then "true" else "false").toList (.bool b)
  | number {cs : List Char} {n : Numeral} (h : SpellsNumber cs n) : Spells cs (.number n)
  | text {cs : List Char} {s : String} (h : SpellsText cs s) : Spells cs (.text (some s))
  | array {cs : List Char} {items : Items} (h : SpellsItems true cs items) :
    Spells ('[' :: cs) (.array items)
  | object {cs : List Char} {members : Members} (h : SpellsMembers true cs members) :
    Spells ('\x7b' :: cs) (.object members)

/-- Whether characters are a text of items with the closing bracket; the flag is set in front of
the first item. -/
inductive SpellsItems : Bool → List Char → Items → Prop where
  | done {ws : List Char} (first : Bool) (blank : Blank ws) : SpellsItems first (ws ++ [']']) .done
  | first {ws cs ds : List Char} {j : Json} {items : Items} (blank : Blank ws) (h : Spells cs j)
      (tail : SpellsItems false ds items) : SpellsItems true (ws ++ (cs ++ ds)) (.cons j items)
  | next {ws ws' cs ds : List Char} {j : Json} {items : Items} (space : Blank ws)
      (blank : Blank ws') (h : Spells cs j) (tail : SpellsItems false ds items) :
    SpellsItems false (ws ++ ',' :: (ws' ++ (cs ++ ds))) (.cons j items)

/-- Whether characters are a text of members with the closing brace. -/
inductive SpellsMembers : Bool → List Char → Members → Prop where
  | done {ws : List Char} (first : Bool) (blank : Blank ws) :
    SpellsMembers first (ws ++ ['\x7d']) .done
  | first {ws ks gap gap' cs ds : List Char} {key : String} {j : Json} {members : Members}
      (blank : Blank ws) (name : SpellsText ks key) (before : Blank gap) (behind : Blank gap')
      (h : Spells cs j) (tail : SpellsMembers false ds members) :
    SpellsMembers true (ws ++ (ks ++ (gap ++ ':' :: (gap' ++ (cs ++ ds)))))
      (.cons (some key) j members)
  | next {ws ws' ks gap gap' cs ds : List Char} {key : String} {j : Json} {members : Members}
      (space : Blank ws) (blank : Blank ws') (name : SpellsText ks key) (before : Blank gap)
      (behind : Blank gap') (h : Spells cs j) (tail : SpellsMembers false ds members) :
    SpellsMembers false (ws ++ ',' :: (ws' ++ (ks ++ (gap ++ ':' :: (gap' ++ (cs ++ ds))))))
      (.cons (some key) j members)

end

variable {cs rest : List Char} {j : Json} {items : Items} {members : Members} {first : Bool}

/-- A text of a value begins with a character that is no blank and closes no array. -/
theorem Spells.begins (h : Spells cs j) :
    ∃ c tail, cs = c :: tail ∧ isSpace c = false ∧ c ≠ ']' := by
  cases h with
  | null => exact ⟨'n', _, rfl, by decide, by decide⟩
  | bool b => cases b <;> exact ⟨_, _, rfl, by decide, by decide⟩
  | number h =>
      obtain ⟨c, tail, chars, sign | digit⟩ := h.begins
      · exact ⟨c, tail, chars, by rw [sign]; decide, by rw [sign]; decide⟩
      · exact ⟨c, tail, chars, isSpace_digit digit, fun h => by rw [h] at digit; cases digit⟩
  | text h =>
      cases h
      exact ⟨'"', _, rfl, by decide, by decide⟩
  | array => exact ⟨'[', _, rfl, by decide, by decide⟩
  | object => exact ⟨'\x7b', _, rfl, by decide, by decide⟩

theorem ends_cons {c : Char} (digit : c.isDigit = false) (other : c ≠ '.' ∧ c ≠ 'e' ∧ c ≠ 'E') :
    Ends (c :: rest) := by
  rintro _ ⟨⟩
  exact ⟨digit, other⟩

theorem ends_blank {ws : List Char} (blank : Blank ws) (h : Ends rest) : Ends (ws ++ rest) := by
  cases ws with
  | nil => exact h
  | cons c ws =>
      have space := blank c (List.mem_cons_self ..)
      simp only [isSpace, Bool.or_eq_true, beq_iff_eq] at space
      rcases space with ((rfl | rfl) | rfl) | rfl <;> exact ends_cons (by decide) (by decide)

/-- What follows an item ends a number. -/
theorem SpellsItems.ends (h : SpellsItems false cs items) : Ends (cs ++ rest) := by
  cases h with
  | done _ blank =>
      rw [List.append_assoc]
      exact ends_blank blank (ends_cons (by decide) (by decide))
  | next space =>
      rw [List.append_assoc]
      exact ends_blank space (ends_cons (by decide) (by decide))

/-- What follows a member ends a number. -/
theorem SpellsMembers.ends (h : SpellsMembers false cs members) : Ends (cs ++ rest) := by
  cases h with
  | done _ blank =>
      rw [List.append_assoc]
      exact ends_blank blank (ends_cons (by decide) (by decide))
  | next space =>
      rw [List.append_assoc]
      exact ends_blank space (ends_cons (by decide) (by decide))

/-! ### Reading -/

theorem Spells.length_pos (h : Spells cs j) : 0 < cs.length := by
  obtain ⟨c, tail, rfl, -⟩ := h.begins
  exact Nat.succ_pos _

theorem SpellsItems.length_pos (h : SpellsItems first cs items) : 0 < cs.length := by
  cases h with
  | first _ h _ =>
      have := h.length_pos
      simp only [List.length_append]
      omega
  | _ =>
      simp only [List.length_append, List.length_cons]
      omega

theorem SpellsMembers.length_pos (h : SpellsMembers first cs members) : 0 < cs.length := by
  cases h <;> simp only [List.length_append, List.length_cons] <;> omega

/-- The first item is read as a value. -/
theorem Spells.readItems_first (h : Spells cs j) {ws : List Char} (blank : Blank ws) (fuel : Nat) :
    readItems (fuel + 1) true (ws ++ (cs ++ rest)) = readItem fuel (cs ++ rest) := by
  obtain ⟨c, tail, rfl, solid, inner⟩ := h.begins
  rw [readItems, skipSpace_blank blank, List.cons_append, skipSpace_solid solid]
  split
  · rename_i h
    cases h
  · rename_i h
    exact absurd (List.cons.inj h).1 inner
  · rename_i h
    cases h
    rfl

/-- Every other item is read as a value behind its comma. -/
theorem Spells.readItems_next (h : Spells cs j) {ws ws' : List Char} (space : Blank ws)
    (blank : Blank ws') (fuel : Nat) :
    readItems (fuel + 1) false (ws ++ ',' :: (ws' ++ (cs ++ rest))) =
      readItem fuel (cs ++ rest) := by
  obtain ⟨c, tail, rfl, solid, inner⟩ := h.begins
  rw [readItems, skipSpace_blank space, skipSpace_solid (by decide)]
  split
  · rename_i none
    cases none
  · rename_i closed
    exact absurd (List.cons.inj closed).1 (by decide)
  · rename_i comma
    obtain ⟨rfl, rfl⟩ := List.cons.inj comma
    simp only [Bool.false_eq_true, if_false, beq_self_eq_true, if_true]
    rw [skipSpace_blank blank, List.cons_append, skipSpace_solid solid]
    split
    · rename_i h
      exact absurd (List.cons.inj h).1 inner
    · rfl

/-- An item is read as a value, and then the items behind it. -/
theorem readItem_eq {fuel : Nat} {rest' : List Char}
    (value : readValue fuel cs = (j, some rest))
    (others : readItems fuel false rest = (items, some rest')) :
    readItem (fuel + 1) cs = (.cons j items, some rest') := by
  rw [readItem, value]
  simp only [others]

/-- The first member begins with its key. -/
theorem SpellsText.readMembers_first {ks ws : List Char} {key : String} (name : SpellsText ks key)
    (blank : Blank ws) (fuel : Nat) :
    readMembers (fuel + 1) true (ws ++ (ks ++ cs)) = readMember fuel (ks ++ cs) := by
  cases name
  rw [readMembers, skipSpace_blank blank, List.cons_append, skipSpace_solid (by decide)]
  rfl

/-- Every other member begins with its key behind its comma. -/
theorem SpellsText.readMembers_next {ks ws ws' : List Char} {key : String}
    (name : SpellsText ks key) (space : Blank ws) (blank : Blank ws') (fuel : Nat) :
    readMembers (fuel + 1) false (ws ++ ',' :: (ws' ++ (ks ++ cs))) =
      readMember fuel (ks ++ cs) := by
  cases name
  rw [readMembers, skipSpace_blank space, skipSpace_solid (by decide)]
  show readMember fuel (skipSpace (ws' ++ _)) = _
  rw [skipSpace_blank blank, List.cons_append, skipSpace_solid (by decide)]

/-- A key is read, then the value behind the colon, and then the members behind it. -/
theorem SpellsText.readMember_eq {fuel : Nat} {ks gap gap' : List Char} {key : String}
    {rest' : List Char} (name : SpellsText ks key) (before : Blank gap) (behind : Blank gap')
    (value : readValue fuel cs = (j, some rest))
    (others : readMembers fuel false rest = (members, some rest')) :
    readMember (fuel + 1) (ks ++ (gap ++ ':' :: (gap' ++ cs))) =
      (.cons (some key) j members, some rest') := by
  cases name with
  | quoted h =>
      rw [List.cons_append, List.append_assoc, List.singleton_append, readMember]
      simp only [h.read_closed, skipSpace_blank before, readValue_blank behind,
        skipSpace_solid (show isSpace ':' = false by decide), value, others]

mutual

/-- A value is read from its text. The fuel suffices because every third call reads a
character. -/
theorem Spells.read {cs rest : List Char} {j : Json} {fuel : Nat} (h : Spells cs j)
    (enough : 3 * cs.length ≤ fuel) (ends : Ends rest) :
    readValue fuel (cs ++ rest) = (j, some rest) := by
  -- one unit of fuel is spent here, and what is left has to do for one character less
  obtain ⟨fuel, rfl⟩ : ∃ n, fuel = n + 1 := ⟨fuel - 1, by have := h.length_pos; omega⟩
  cases h with
  | null => rfl
  | bool b => cases b <;> rfl
  | number h => exact h.read fuel ends
  | text h =>
      cases h with
      | quoted h =>
          rw [List.cons_append, List.append_assoc, List.singleton_append, readValue,
            skipSpace_solid (by decide)]
          simp only [h.read_closed]
  | @array cs items h =>
      rw [List.length_cons] at enough
      have inner : readItems fuel true (cs ++ rest) = (items, some rest) := h.read (by omega)
      rw [List.cons_append, readValue, skipSpace_solid (by decide)]
      simp only [inner]
  | @object cs members h =>
      rw [List.length_cons] at enough
      have inner : readMembers fuel true (cs ++ rest) = (members, some rest) := h.read (by omega)
      rw [List.cons_append, readValue, skipSpace_solid (by decide)]
      simp only [inner]

/-- Items are read from their text, with the closing bracket. -/
theorem SpellsItems.read {first : Bool} {cs rest : List Char} {items : Items} {fuel : Nat}
    (h : SpellsItems first cs items) (enough : 3 * cs.length ≤ fuel) :
    readItems fuel first (cs ++ rest) = (items, some rest) := by
  cases h with
  | @done ws _ blank =>
      rw [List.length_append, List.length_singleton] at enough
      obtain ⟨fuel, rfl⟩ : ∃ n, fuel = n + 1 := ⟨fuel - 1, by omega⟩
      rw [List.append_assoc, readItems, skipSpace_blank blank]
      rfl
  | @first ws cs ds j items blank h tail =>
      have := h.length_pos
      have := tail.length_pos
      simp only [List.length_append] at enough
      obtain ⟨fuel, rfl⟩ : ∃ n, fuel = n + 2 := ⟨fuel - 2, by omega⟩
      rw [List.append_assoc, List.append_assoc, h.readItems_first blank]
      exact readItem_eq (h.read (by omega) tail.ends) (tail.read (by omega))
  | @next ws ws' cs ds j items space blank h tail =>
      have := h.length_pos
      have := tail.length_pos
      simp only [List.length_append, List.length_cons] at enough
      obtain ⟨fuel, rfl⟩ : ∃ n, fuel = n + 2 := ⟨fuel - 2, by omega⟩
      simp only [List.append_assoc, List.cons_append]
      rw [h.readItems_next space blank]
      exact readItem_eq (h.read (by omega) tail.ends) (tail.read (by omega))

/-- Members are read from their text, with the closing brace. -/
theorem SpellsMembers.read {first : Bool} {cs rest : List Char} {members : Members} {fuel : Nat}
    (h : SpellsMembers first cs members) (enough : 3 * cs.length ≤ fuel) :
    readMembers fuel first (cs ++ rest) = (members, some rest) := by
  cases h with
  | @done ws _ blank =>
      rw [List.length_append, List.length_singleton] at enough
      obtain ⟨fuel, rfl⟩ : ∃ n, fuel = n + 1 := ⟨fuel - 1, by omega⟩
      rw [List.append_assoc, readMembers, skipSpace_blank blank]
      rfl
  | @first ws ks gap gap' cs ds key j members blank name before behind h tail =>
      have := h.length_pos
      have := tail.length_pos
      simp only [List.length_append, List.length_cons] at enough
      obtain ⟨fuel, rfl⟩ : ∃ n, fuel = n + 2 := ⟨fuel - 2, by omega⟩
      simp only [List.append_assoc, List.cons_append]
      rw [name.readMembers_first blank]
      exact name.readMember_eq before behind (h.read (by omega) tail.ends) (tail.read (by omega))
  | @next ws ws' ks gap gap' cs ds key j members space blank name before behind h tail =>
      have := h.length_pos
      have := tail.length_pos
      simp only [List.length_append, List.length_cons] at enough
      obtain ⟨fuel, rfl⟩ : ∃ n, fuel = n + 2 := ⟨fuel - 2, by omega⟩
      simp only [List.append_assoc, List.cons_append]
      rw [name.readMembers_next space blank]
      exact name.readMember_eq before behind (h.read (by omega) tail.ends) (tail.read (by omega))

end

/-- Whether a text is a document, with any blanks around it. -/
structure Written (text : String) (j : Json) : Prop where
  parts : ∃ ws cs ws', text.toList = ws ++ (cs ++ ws') ∧ Blank ws ∧ Blank ws' ∧ Spells cs j

/-- A document is read from each of its texts. -/
theorem Written.read {text : String} (h : Written text j) : Json.read text = ⟨j, false⟩ := by
  obtain ⟨ws, cs, ws', split, before, behind, spelled⟩ := h.parts
  have ends : Ends (ws' ++ []) := ends_blank behind nofun
  rw [List.append_nil] at ends
  have length : text.toList.length = ws.length + (cs.length + ws'.length) := by
    rw [split, List.length_append, List.length_append]
  have value : readValue (3 * text.toList.length + 4) text.toList = (j, some ws') := by
    rw [split, readValue_blank before, ← split]
    exact spelled.read (by omega) ends
  have nothing : skipSpace ws' = [] := by
    simpa [skipSpace] using skipSpace_blank behind []
  rw [Json.read]
  simp only [value, nothing]
  rfl

/-! ### Printing -/

mutual

/-- A document that says all it has to say: nothing in it is broken off, no string is unreadable,
and its numbers have a property. -/
def Complete (p : Numeral → Prop) : Json → Prop
  | .number n => p n
  | .text s => s.isSome
  | .array items => items.Complete p
  | .object members => members.Complete p
  | .broken _ => False
  | _ => True

/-- Items that are all complete, up to the closing bracket. -/
def Items.Complete (p : Numeral → Prop) : Items → Prop
  | .done => True
  | .stopped _ => False
  | .cons j rest => j.Complete p ∧ rest.Complete p

/-- Members that are all complete, up to the closing brace. -/
def Members.Complete (p : Numeral → Prop) : Members → Prop
  | .done => True
  | .stopped _ => False
  | .cons key j rest => key.isSome ∧ j.Complete p ∧ rest.Complete p

end

/-- A complete document whose numbers are all read back. -/
abbrev Plain (j : Json) : Prop := j.Complete Numeral.Legible

section Complete

variable {p : Numeral → Prop}

/-- An object of complete documents is complete. -/
theorem complete_ofMembers {ms : List (String × Json)} (h : ∀ m ∈ ms, m.2.Complete p) :
    (ofMembers ms).Complete p := by
  show (Members.ofList ms).Complete p
  induction ms with
  | nil => exact trivial
  | cons m ms ih =>
      exact ⟨rfl, h m (List.mem_cons_self ..), ih fun q mem => h q (List.mem_cons_of_mem _ mem)⟩

/-- An array of complete documents is complete. -/
theorem complete_ofItems {α : Type} {encode : α → Json} {as : List α}
    (h : ∀ a ∈ as, (encode a).Complete p) : (ofItems (as.map encode)).Complete p := by
  show (Items.ofList (as.map encode)).Complete p
  induction as with
  | nil => exact trivial
  | cons a as ih =>
      exact ⟨h a (List.mem_cons_self ..), ih fun b mem => h b (List.mem_cons_of_mem _ mem)⟩

theorem complete_ofText (s : String) : (ofText s).Complete p := rfl

end Complete

theorem plain_ofNat {n : Nat} (h : n < 2 ^ 64) : (ofNat n).Plain :=
  Numeral.Legible.int (by omega) (by omega)

theorem blank_lineStart (level : Nat) : Blank (lineStart level) := by
  intro c mem
  rcases List.mem_cons.mp mem with rfl | mem
  · decide
  · rw [List.eq_of_mem_replicate mem]
    decide

theorem blank_space : Blank [' '] := by
  intro c mem
  rw [List.mem_singleton.mp mem]
  decide

mutual

/-- The pretty layout of a plain document is one of its texts. -/
theorem spells_pretty (level : Nat) (j : Json) (plain : j.Plain) :
    Spells (prettyChars level j) j := by
  cases j with
  | null => exact .null
  | bool b => exact .bool b
  | number n => exact .number plain
  | text s =>
      obtain ⟨s, rfl⟩ := Option.isSome_iff_exists.mp plain
      exact .text (spellsText_stringChars s)
  | array items =>
      cases items with
      | cons j rest =>
          exact .array (spells_prettyItems (level + 1) level (.cons j rest) plain true)
      | done => exact .array (.done true blank_nil)
      | stopped stop => exact plain.elim
  | object members =>
      cases members with
      | cons key j rest =>
          exact .object (spells_prettyMembers (level + 1) level (.cons key j rest) plain true)
      | done => exact .object (.done true blank_nil)
      | stopped stop => exact plain.elim
  | broken stop => exact plain.elim

theorem spells_prettyItems (level outer : Nat) (items : Items)
    (plain : items.Complete Numeral.Legible)
    (first : Bool) :
    SpellsItems first (prettyItems level items first ++ lineStart outer ++ [']']) items := by
  cases items with
  | done => exact .done first (blank_lineStart outer)
  | stopped stop => exact plain.elim
  | cons j rest =>
      have head := spells_pretty level j plain.1
      have tail := spells_prettyItems level outer rest plain.2 false
      cases first with
      | true => simpa [prettyItems] using SpellsItems.first (blank_lineStart level) head tail
      | false =>
          simpa [prettyItems] using SpellsItems.next blank_nil (blank_lineStart level) head tail

theorem spells_prettyMembers (level outer : Nat) (members : Members)
    (plain : members.Complete Numeral.Legible)
    (first : Bool) :
    SpellsMembers first (prettyMembers level members first ++ lineStart outer ++ ['\x7d'])
      members := by
  cases members with
  | done => exact .done first (blank_lineStart outer)
  | stopped stop => exact plain.elim
  | cons key j rest =>
      obtain ⟨key, rfl⟩ := Option.isSome_iff_exists.mp plain.1
      have name := spellsText_stringChars key
      have head := spells_pretty level j plain.2.1
      have tail := spells_prettyMembers level outer rest plain.2.2 false
      cases first with
      | true =>
          simpa [prettyMembers, keyChars] using
            SpellsMembers.first (blank_lineStart level) name blank_nil blank_space head tail
      | false =>
          simpa [prettyMembers, keyChars] using
            SpellsMembers.next blank_nil (blank_lineStart level) name blank_nil blank_space head
              tail

end

/-- The pretty text of a plain document is one of its texts. -/
theorem written_pretty {j : Json} (plain : j.Plain) : Written j.pretty j := by
  refine ⟨[], _, [], ?_, blank_nil, blank_nil, spells_pretty 0 j plain⟩
  rw [pretty, String.toList_ofList, List.nil_append, List.append_nil]

/-- A plain document is read back from its pretty text. -/
theorem read_pretty {j : Json} (plain : j.Plain) : Json.read j.pretty = ⟨j, false⟩ :=
  (written_pretty plain).read

end LabelForge.Json
