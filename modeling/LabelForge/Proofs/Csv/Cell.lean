import LabelForge.Proofs.Csv.Field
import LabelForge.Proofs.Csv.Value
import LabelForge.Proofs.Text.Utf8

/-!
# LabelForge.Proofs.Csv.Cell

**What is read of a written cell.** A cell that has a value is written as its printed text, in
quotes where that is necessary. Reading finds this text again unless it is one of the tokens for a
missing value; of a cell in quotes it also sees the text with its quotes doubled, which is what
tokens and shapes are told by. Neither a token nor any shape but that of a text has a quote in it,
so both are told by the text itself.
-/

namespace LabelForge.Csv

open Number
open Text (Bytes bytesOf encode)

/-! ### Texts with a quote in them -/

/-- A text with its quotes doubled, as it stands between its outer quotes. -/
def bareText (s : String) : String :=
  .ofList (s.toList.flatMap escapeQuote)

theorem flatMap_escapeQuote {cs : List Char} (h : '"' ∉ cs) : cs.flatMap escapeQuote = cs := by
  induction cs with
  | nil => rfl
  | cons c cs ih =>
      rw [List.mem_cons, not_or] at h
      rw [List.flatMap_cons, ih h.2, escapeQuote, if_neg (by simpa using Ne.symm h.1)]
      rfl

/-- A text without a quote stays as it is. -/
theorem bareText_eq_self {s : String} (h : '"' ∉ s.toList) : bareText s = s := by
  rw [bareText, flatMap_escapeQuote h, String.ofList_toList]

theorem mem_bareText {s : String} (h : '"' ∈ s.toList) : '"' ∈ (bareText s).toList := by
  rw [bareText, String.toList_ofList]
  exact List.mem_flatMap.2 ⟨'"', h, by decide⟩

/-- No token has a quote in it. -/
theorem contains_bareText (s : String) :
    missingTokens.contains (bareText s) = missingTokens.contains s := by
  have unquoted : ∀ token ∈ missingTokens, '"' ∉ token.toList := by decide
  by_cases h : '"' ∈ s.toList
  · have plain : ∀ t : String, '"' ∈ t.toList → missingTokens.contains t = false := by
      intro t mem
      rw [Bool.eq_false_iff, Ne, List.contains_iff_mem]
      exact fun token => unquoted t token mem
    rw [plain s h, plain _ (mem_bareText h)]
  · rw [bareText_eq_self h]

theorem isDigits_eq_false {cs : List Char} (h : '"' ∈ cs) : isDigits cs = false := by
  rw [isDigits, Bool.and_eq_false_iff]
  refine .inr (Bool.eq_false_iff.2 fun all => ?_)
  exact absurd (List.all_eq_true.1 all _ h) (by decide +kernel)

theorem mem_dropSign {cs : List Char} (h : '"' ∈ cs) : '"' ∈ dropSign cs := by
  unfold dropSign
  split
  · simpa using h
  · simpa using h
  · exact h

theorem isExponent_eq_false {cs : List Char} (h : '"' ∈ cs) : isExponent cs = false := by
  cases cs with
  | nil => rfl
  | cons c rest =>
      rw [isExponent, Bool.and_eq_false_iff]
      rcases List.mem_cons.1 h with rfl | mem
      · exact .inl (by decide)
      · exact .inr (isDigits_eq_false (mem_dropSign mem))

/-- A quote is not among the digits in front, so it is behind them. -/
theorem mem_dropWhile_digit {cs : List Char} (h : '"' ∈ cs) :
    '"' ∈ cs.dropWhile Text.isDecimalDigit := by
  rw [← List.takeWhile_append_dropWhile (p := Text.isDecimalDigit) (l := cs), List.mem_append] at h
  rcases h with digits | rest
  · exact absurd (List.all_eq_true.1 List.all_takeWhile _ digits) (by decide +kernel)
  · exact rest

theorem isUnsignedFloatShape_eq_false {cs : List Char} (h : '"' ∈ cs) :
    isUnsignedFloatShape cs = false := by
  have behind := mem_dropWhile_digit h
  unfold isUnsignedFloatShape
  dsimp only
  split
  · rename_i rest point
    rw [point] at behind
    -- the quote is not the point either, so it is behind the digits that follow
    have last := mem_dropWhile_digit (List.mem_of_ne_of_mem (by decide) behind)
    have more : (rest.dropWhile Text.isDecimalDigit).isEmpty = false := by
      rw [List.isEmpty_eq_false_iff]
      exact List.ne_nil_of_mem last
    rw [more, isExponent_eq_false last]
    simp
  · have word : ∀ w : List Char, '"' ∉ w → (cs == w) = false := by
      intro w plain
      rw [beq_eq_false_iff_ne]
      rintro rfl
      exact plain h
    rw [word _ (by decide), word _ (by decide), isExponent_eq_false behind]
    simp

/-- A text with a quote in it looks like nothing but a text. -/
theorem shapeOf_eq_text {s : String} (h : '"' ∈ s.toList) : shapeOf s = .text := by
  have bool : isBoolShape s.toList = false := by
    have mem : '"' ∈ s.toList.map foldLetter := List.mem_map.2 ⟨'"', h, by decide⟩
    have word : ∀ w : List Char, '"' ∉ w → (s.toList.map foldLetter == w) = false := by
      intro w plain
      rw [beq_eq_false_iff_ne]
      rintro rfl
      exact plain mem
    rw [isBoolShape, word _ (by decide), word _ (by decide)]
    rfl
  have int : isIntShape s.toList = false := by
    unfold isIntShape
    split
    · rename_i minus
      rw [minus] at h
      exact isDigits_eq_false (List.mem_of_ne_of_mem (by decide) h)
    · exact isDigits_eq_false h
  rw [shapeOf, bool, int, isUnsignedFloatShape_eq_false (mem_dropSign h)]
  rfl

theorem shapeOf_bareText (s : String) : shapeOf (bareText s) = shapeOf s := by
  by_cases h : '"' ∈ s.toList
  · rw [shapeOf_eq_text h, shapeOf_eq_text (mem_bareText h)]
  · rw [bareText_eq_self h]

/-! ### The bytes of written texts -/

theorem encode_escapeQuote (cs : List Char) :
    encode (cs.flatMap escapeQuote) = escape (encode cs) := by
  induction cs with
  | nil => rfl
  | cons c cs ih =>
      rw [List.flatMap_cons, Text.encode_append, ih, Text.encode_cons, escape_append]
      congr 1
      by_cases isQuote : c = '"'
      · subst isQuote
        rfl
      · have absent : quote ∉ encode [c] := by
          intro found
          have mem : '"' ∈ [c] := (Text.mem_encode_ascii (by decide)).1 found
          exact isQuote (List.mem_singleton.1 mem).symm
        rw [escapeQuote, if_neg (by simpa using isQuote)]
        rw [Text.encode_cons, Text.encode_nil, List.append_nil] at absent ⊢
        exact (escape_eq_self absent).symm

theorem bytesOf_bareText (s : String) : bytesOf (bareText s) = escape (bytesOf s) := by
  rw [Text.bytesOf_eq_encode, bareText, String.toList_ofList, encode_escapeQuote,
    Text.bytesOf_eq_encode]

/-- Different texts stay different. -/
theorem bareText_injective : Function.Injective bareText := by
  intro a b h
  have bytes := congrArg bytesOf h
  rw [bytesOf_bareText, bytesOf_bareText] at bytes
  refine Text.bytesOf_injective ?_
  rw [← dropQuotes_escape (bytesOf a), bytes, dropQuotes_escape]

/-- Bytes of characters that need no quotes have no meaning. -/
theorem isSpecial_encode {cs : List Char} (h : Unquoted cs) :
    ∀ b ∈ encode cs, isSpecial b = false := by
  intro b mem
  have absent : ∀ c : Char, c.toNat < 128 → needsQuotes c = true → b ≠ UInt8.ofNat c.toNat := by
    rintro c ascii special rfl
    rw [h c ((Text.mem_encode_ascii ascii).1 mem)] at special
    cases special
  exact isSpecial_eq_false.2 ⟨absent ',' (by decide) rfl, absent '"' (by decide) rfl,
    absent '\n' (by decide) rfl, absent '\r' (by decide) rfl⟩

/-- A text is written as it is, or in quotes. -/
theorem textChars_eq (s : String) :
    Unquoted s.toList ∧ s.toList ≠ [] ∧ textChars s = s.toList ∨
      encode (textChars s) = quote :: escape (bytesOf s) ++ [quote] := by
  unfold textChars
  dsimp only
  split
  · refine .inr ?_
    rw [List.cons_append, Text.encode_cons, Text.encode_append, encode_escapeQuote,
      Text.bytesOf_eq_encode]
    rfl
  · rename_i plain
    rw [Bool.not_eq_true, Bool.or_eq_false_iff, List.any_eq_false] at plain
    refine .inl ⟨fun c mem => Bool.eq_false_iff.2 (plain.2 c mem), ?_, rfl⟩
    exact List.isEmpty_eq_false_iff.1 plain.1

theorem textChars_eq_self {s : String} (h : Unquoted s.toList) (ne : s.toList ≠ []) :
    textChars s = s.toList := by
  have any : s.toList.any needsQuotes = false :=
    List.any_eq_false.2 fun c mem => Bool.eq_false_iff.1 (h c mem)
  rw [textChars, any, List.isEmpty_eq_false_iff.2 ne]
  rfl

/-- The field that a text is written as. -/
def textField (s : String) : Bytes := encode (textChars s)

/-- A written text is found between its outer quotes, and again without them. -/
structure Found (s : String) (f : RawField) : Prop where
  some : f.bytes.isEmpty = false
  inner : f.inner = bytesOf (bareText s)
  content : f.content = bytesOf s
  closed : (!f.quoted || f.isClosed) = true

theorem written_textField (s : String) : Written (textField s) := by
  rcases textChars_eq s with ⟨plain, -, same⟩ | quoted
  · rw [textField, same]
    exact .plain (isSpecial_encode plain)
  · rw [textField, quoted]
    exact .quoted _

theorem found_textField (s : String) : Found s (rawOf (textField s)) := by
  rcases textChars_eq s with ⟨plain, ne, same⟩ | quoted
  · have noQuote : '"' ∉ s.toList := fun mem => nomatch plain '"' mem
    rw [textField, same, ← Text.bytesOf_eq_encode]
    rw [rawOf_plain (Text.bytesOf_eq_encode s ▸ isSpecial_encode plain)]
    refine ⟨?_, ?_, rfl, rfl⟩
    · rw [List.isEmpty_eq_false_iff, Text.bytesOf_eq_encode]
      obtain ⟨c, cs, chars⟩ := List.exists_cons_of_ne_nil ne
      rw [chars, Text.encode_cons]
      exact List.append_ne_nil_of_left_ne_nil String.utf8EncodeChar_ne_nil _
    · rw [bareText_eq_self noQuote]
      rfl
  · rw [textField, quoted]
    refine ⟨rfl, ?_, content_quoted _, ?_⟩
    · rw [inner_quoted, bytesOf_bareText]
    · rw [isClosed_quoted, Bool.or_true]

/-! ### What is read -/

/-- What is read of a written text: nothing if it is a token. -/
def readBack? (s : String) : Option TextCell :=
  if missingTokens.contains s then none else some ⟨bareText s, s, true⟩

theorem textCell?_textField (s : String) :
    textCell? (rawOf (textField s)) = .ok (readBack? s) := by
  have found := found_textField s
  simp only [textCell?, (written_textField s).trimReturn, found.some, Bool.false_eq_true, if_false,
    found.inner, found.content, Text.textOf?_bytesOf, found.closed, contains_bareText, readBack?]

theorem fieldShape?_textField (s : String) :
    fieldShape? (rawOf (textField s)) = (readBack? s).map fun t => shapeOf t.content := by
  have found := found_textField s
  simp only [fieldShape?, found.some, Bool.false_eq_true, if_false, found.inner,
    Text.lenientText_bytesOf, contains_bareText, shapeOf_bareText, readBack?]
  split <;> rfl

/-- A heading comes back with its quotes doubled. -/
theorem headingName_textField (s : String) : headingName (rawOf (textField s)) = bareText s := by
  rw [headingName, (found_textField s).inner, Text.lenientText_bytesOf]

/-! ### Cells -/

/-- The printed text of a cell of a column. -/
def printed (t : DataType) : Cell → String
  | .real x => .ofList (realChars t x)
  | cell => cell.render

theorem unquoted_realChars (t : DataType) (x : Double) : Unquoted (realChars t x) := by
  unfold realChars
  split <;> exact x.unquoted_styledText _ _

theorem realChars_ne_nil (t : DataType) (x : Double) : realChars t x ≠ [] := by
  have laid (style : NumberStyle) (d : Digits) : style.layOut d ≠ [] := by
    unfold NumberStyle.layOut
    split
    · dsimp only
      split
      · rename_i point
        rintro none
        rw [none] at point
        cases point
      · simp
    · simp [Digits.scientific]
  have signed (negative : Bool) {body : List Char} (h : body ≠ []) :
      (String.ofList (Double.signText negative body)).toList ≠ [] := by
    rw [String.toList_ofList, Double.signText]
    split
    · exact List.cons_ne_nil _ _
    · exact h
  have styled (style : NumberStyle) (f : Format) : (x.styledText style f).toList ≠ [] := by
    unfold Double.styledText
    split
    · decide
    · exact signed _ (by decide)
    · exact signed _ (by decide)
    · exact signed _ (laid _ _)
  unfold realChars
  split <;> exact styled _ _

/-- A cell that has a value is written as its printed text is. -/
theorem cellChars_eq (t : DataType) {cell : Cell} (value : cell ≠ .missing) :
    cellChars t cell = textChars (printed t cell) := by
  cases cell with
  | missing => exact absurd rfl value
  | text s => rfl
  | real x =>
      have chars : (printed t (.real x)).toList = realChars t x := String.toList_ofList
      rw [textChars_eq_self (chars ▸ unquoted_realChars t x) (chars ▸ realChars_ne_nil t x), chars]
      rfl
  | int i =>
      refine (textChars_eq_self (Unquoted.intText i) ?_).symm
      show (intText i).toList ≠ []
      rw [intText, String.toList_ofList]
      split
      · exact List.cons_ne_nil _ _
      · rcases natDigits_eq_cons i.natAbs with ⟨-, digits⟩ | ⟨c, cs, digits, -⟩ <;>
          (rw [digits]; exact List.cons_ne_nil _ _)
  | bool b =>
      have plain : Unquoted (Cell.boolText b).toList ∧ (Cell.boolText b).toList ≠ [] := by
        cases b <;> decide
      exact (textChars_eq_self plain.1 plain.2).symm
  | date days =>
      refine (textChars_eq_self (Moment.unquoted_dateText _) ?_).symm
      show (Moment.dateText ⟨days * 86400, 0⟩).toList ≠ []
      simp [Moment.dateText]

/-- The field that a cell is written as. -/
def cellField (t : DataType) (cell : Cell) : Bytes := encode (cellChars t cell)

theorem cellField_missing (t : DataType) : cellField t .missing = [] := rfl

theorem cellField_eq (t : DataType) {cell : Cell} (value : cell ≠ .missing) :
    cellField t cell = textField (printed t cell) := by
  rw [cellField, cellChars_eq t value, textField]

/-- What is read of a written cell. -/
def cellReadBack? (t : DataType) (cell : Cell) : Option TextCell :=
  if cell = .missing then none else readBack? (printed t cell)

theorem written_cellField (t : DataType) (cell : Cell) : Written (cellField t cell) := by
  by_cases value : cell = .missing
  · rw [value, cellField_missing]
    exact .plain fun _ mem => nomatch mem
  · rw [cellField_eq t value]
    exact written_textField _

theorem textCell?_cellField (t : DataType) (cell : Cell) :
    textCell? (rawOf (cellField t cell)) = .ok (cellReadBack? t cell) := by
  by_cases value : cell = .missing
  · rw [value]
    rfl
  · rw [cellField_eq t value, textCell?_textField, cellReadBack?, if_neg value]

theorem fieldShape?_cellField (t : DataType) (cell : Cell) :
    fieldShape? (rawOf (cellField t cell)) =
      (cellReadBack? t cell).map fun found => shapeOf found.content := by
  by_cases value : cell = .missing
  · rw [value]
    rfl
  · rw [cellField_eq t value, fieldShape?_textField, cellReadBack?, if_neg value]

end LabelForge.Csv
