import LabelForge.Csv.Reader

/-!
# LabelForge.Proofs.Csv.Field

**Fields that were written are found again.** A written field has no byte with a meaning of its own,
or stands in quotes that are doubled inside. Such a field goes through both cuts in one piece: no
byte of it ends a field or a record, and the quotes in it are balanced, so no byte of it ends a
line. So lines of written fields are cut into exactly these lines, and into exactly these fields.

Design points:

* `Pending.Keeps` and `Unbroken` say that a stretch of bytes is passed without a cut. Both are
  followed by the state in which the stretch is left, so stretches can be put together.
-/

namespace LabelForge.Csv

open Text (Bytes)

/-- Whether a byte makes quotes necessary. -/
def isSpecial (b : UInt8) : Bool :=
  b == comma || b == quote || b == lineFeed || b == carriageReturn

/-- Bytes with their quotes doubled. -/
def escape (bytes : Bytes) : Bytes :=
  bytes.flatMap fun b => if b == quote then [quote, quote] else [b]

/-- A field as it is written. -/
inductive Written : Bytes → Prop where
  /-- No byte of it has a meaning. -/
  | plain {bytes : Bytes} (h : ∀ b ∈ bytes, isSpecial b = false) : Written bytes
  /-- It stands in quotes. -/
  | quoted (content : Bytes) : Written (quote :: escape content ++ [quote])

/-- What is found of a field that was written. -/
def rawOf (bytes : Bytes) : RawField :=
  ⟨bytes, bytes.head? == some quote⟩

/-- A line of fields, without its end. -/
def line (fs : List Bytes) : Bytes :=
  [comma].intercalate fs

/-- Lines of fields. -/
def linesOf (rows : List (List Bytes)) : Bytes :=
  rows.flatMap fun fs => line fs ++ [lineFeed]

variable {b : UInt8} {bytes content left right rest f : Bytes} {fs : List Bytes}
  {rows : List (List Bytes)}

theorem isSpecial_eq_false :
    isSpecial b = false ↔ b ≠ comma ∧ b ≠ quote ∧ b ≠ lineFeed ∧ b ≠ carriageReturn := by
  simp [isSpecial, and_assoc]

theorem escape_cons_quote : escape (quote :: rest) = quote :: quote :: escape rest := rfl

theorem escape_cons (h : b ≠ quote) : escape (b :: rest) = b :: escape rest := by
  simp [escape, h]

@[simp] theorem escape_append : escape (left ++ right) = escape left ++ escape right :=
  List.flatMap_append

/-- Bytes without a quote are not changed. -/
theorem escape_eq_self (h : quote ∉ bytes) : escape bytes = bytes := by
  induction bytes with
  | nil => rfl
  | cons b rest ih =>
      rw [List.mem_cons, not_or] at h
      rw [escape_cons (Ne.symm h.1), ih h.2]

@[simp] theorem line_singleton : line [f] = f := List.intercalate_singleton

theorem line_cons (ne : fs ≠ []) : line (f :: fs) = f ++ comma :: line fs := by
  obtain ⟨g, fs, rfl⟩ := List.exists_cons_of_ne_nil ne
  rw [line, List.intercalate_cons_cons, List.append_assoc]
  rfl

@[simp] theorem linesOf_nil : linesOf [] = [] := rfl

theorem linesOf_cons : linesOf (fs :: rows) = line fs ++ lineFeed :: linesOf rows := by
  rw [linesOf, List.flatMap_cons, List.append_assoc]
  rfl

/-! ### Fields in one piece -/

namespace Pending

/-- No byte ends the field. -/
def Keeps : Pending → Bytes → Prop
  | _, [] => True
  | p, b :: rest => (p.isOpen = true → b ≠ comma ∧ b ≠ lineFeed) ∧ (p.push b).Keeps rest

/-- Takes bytes that do not end the field. -/
def pushAll (p : Pending) (bytes : Bytes) : Pending :=
  bytes.foldl (fun p b => p.push b) p

variable {p : Pending}

theorem pushAll_cons : p.pushAll (b :: rest) = (p.push b).pushAll rest := rfl

theorem pushAll_append : p.pushAll (left ++ right) = (p.pushAll left).pushAll right :=
  List.foldl_append

theorem Keeps.append (h : p.Keeps left) (h' : (p.pushAll left).Keeps right) :
    p.Keeps (left ++ right) := by
  induction left generalizing p with
  | nil => exact h'
  | cons b rest ih => exact ⟨h.1, ih h.2 h'⟩

theorem fieldsFrom_append (h : p.Keeps bytes) :
    fieldsFrom p (bytes ++ rest) = fieldsFrom (p.pushAll bytes) rest := by
  induction bytes generalizing p with
  | nil => rfl
  | cons b bytes ih =>
      rw [List.cons_append, fieldsFrom, ih h.2]
      cases isOpen : p.isOpen with
      | false => simp [pushAll]
      | true => simp [pushAll, h.1 isOpen]

theorem recordsFrom_append {before : Record} (h : p.Keeps bytes) :
    recordsFrom before p (bytes ++ rest) = recordsFrom before (p.pushAll bytes) rest := by
  induction bytes generalizing p with
  | nil => rfl
  | cons b bytes ih =>
      rw [List.cons_append, recordsFrom, ih h.2]
      cases isOpen : p.isOpen with
      | false => simp [pushAll]
      | true => simp [pushAll, h.1 isOpen]

/-- Bytes without a meaning are put behind those of the field. -/
theorem plain_keeps (h : ∀ b ∈ bytes, isSpecial b = false) (before : Bytes) :
    (plain before).Keeps bytes ∧
      (plain before).pushAll bytes = plain (bytes.reverse ++ before) := by
  induction bytes generalizing before with
  | nil => exact ⟨trivial, rfl⟩
  | cons b rest ih =>
      obtain ⟨noComma, -, noLineFeed, -⟩ := isSpecial_eq_false.1 (h b (List.mem_cons_self ..))
      obtain ⟨keeps, after⟩ := ih (fun c mem => h c (List.mem_cons_of_mem _ mem)) (b :: before)
      refine ⟨⟨fun _ => ⟨noComma, noLineFeed⟩, keeps⟩, ?_⟩
      rw [List.reverse_cons, List.append_assoc]
      exact after

/-- Inside quotes, bytes whose quotes are doubled are put behind those of the field. -/
theorem quoted_keeps (content before : Bytes) :
    (quoted before true).Keeps (escape content) ∧
      (quoted before true).pushAll (escape content) =
        quoted ((escape content).reverse ++ before) true := by
  induction content generalizing before with
  | nil => exact ⟨trivial, rfl⟩
  | cons b rest ih =>
      by_cases isQuote : b = quote
      · subst isQuote
        obtain ⟨keeps, after⟩ := ih (quote :: quote :: before)
        rw [escape_cons_quote]
        -- the first quote leaves the quotes and the second one enters them again
        refine ⟨⟨nofun, fun _ => ⟨by decide, by decide⟩, keeps⟩, ?_⟩
        rw [List.reverse_cons, List.reverse_cons, List.append_assoc, List.append_assoc]
        exact after
      · obtain ⟨keeps, after⟩ := ih (b :: before)
        rw [escape_cons isQuote]
        have inside : (quoted before true).push b = quoted (b :: before) true := by
          simp [push, isQuote]
        refine ⟨⟨nofun, inside ▸ keeps⟩, ?_⟩
        rw [pushAll_cons, inside, List.reverse_cons, List.append_assoc]
        exact after

end Pending

namespace Written

/-- A written field is taken in one piece; then it is complete. -/
theorem keeps (h : Written f) : Pending.start.Keeps f ∧
    (Pending.start.pushAll f).isOpen = true ∧ (Pending.start.pushAll f).close = rawOf f := by
  cases h with
  | plain h =>
      cases f with
      | nil => exact ⟨trivial, rfl, rfl⟩
      | cons b rest =>
          obtain ⟨noComma, noQuote, noLineFeed, -⟩ :=
            isSpecial_eq_false.1 (h b (List.mem_cons_self ..))
          obtain ⟨keeps, after⟩ :=
            Pending.plain_keeps (fun c mem => h c (List.mem_cons_of_mem _ mem)) [b]
          have first : Pending.start.push b = .plain [b] := by simp [Pending.push, noQuote]
          refine ⟨⟨fun _ => ⟨noComma, noLineFeed⟩, first ▸ keeps⟩, ?_⟩
          rw [Pending.pushAll_cons, first, after]
          exact ⟨rfl, by simp [Pending.close, rawOf, noQuote]⟩
  | quoted content =>
      -- the first byte opens the quotes and the last one closes them
      obtain ⟨keeps, after⟩ := Pending.quoted_keeps content [quote]
      have closing : (Pending.quoted [quote] true).Keeps (escape content ++ [quote]) :=
        keeps.append (after ▸ ⟨nofun, trivial⟩)
      refine ⟨⟨fun _ => ⟨by decide, by decide⟩, closing⟩, ?_⟩
      have whole : Pending.start.pushAll (quote :: escape content ++ [quote]) =
          .quoted (quote :: ((escape content).reverse ++ [quote])) false := by
        rw [Pending.pushAll_append]
        show ((Pending.quoted [quote] true).pushAll (escape content)).pushAll [quote] = _
        rw [after]
        rfl
      rw [whole]
      exact ⟨rfl, by simp [Pending.close, rawOf]⟩

theorem fieldsFrom_comma (h : Written f) (rest : Bytes) :
    fieldsFrom .start (f ++ comma :: rest) = rawOf f :: fieldsFrom .start rest := by
  obtain ⟨keeps, isOpen, close⟩ := h.keeps
  rw [Pending.fieldsFrom_append keeps, fieldsFrom, isOpen, close]
  rfl

theorem fieldsFrom_end (h : Written f) : fieldsFrom .start f = [rawOf f] := by
  obtain ⟨keeps, -, close⟩ := h.keeps
  rw [← List.append_nil f, Pending.fieldsFrom_append keeps, fieldsFrom, close, List.append_nil]

theorem recordsFrom_comma (h : Written f) (before : Record) (rest : Bytes) :
    recordsFrom before .start (f ++ comma :: rest) =
      recordsFrom (rawOf f :: before) .start rest := by
  obtain ⟨keeps, isOpen, close⟩ := h.keeps
  rw [Pending.recordsFrom_append keeps, recordsFrom, isOpen, close]
  rfl

theorem recordsFrom_lineFeed (h : Written f) (before : Record) (rest : Bytes) :
    recordsFrom before .start (f ++ lineFeed :: rest) =
      (rawOf f :: before).reverse :: recordsFrom [] .start rest := by
  obtain ⟨keeps, isOpen, close⟩ := h.keeps
  rw [Pending.recordsFrom_append keeps, recordsFrom, isOpen, close]
  rfl

end Written

/-- A line of written fields is cut into these. -/
theorem fields_line (written : ∀ f ∈ fs, Written f) (ne : fs ≠ []) :
    fields (line fs) = fs.map rawOf := by
  induction fs with
  | nil => exact absurd rfl ne
  | cons f fs ih =>
      obtain ⟨first, others⟩ := List.forall_mem_cons.1 written
      by_cases last : fs = []
      · rw [last, line_singleton, fields, first.fieldsFrom_end, List.map_singleton]
      · rw [line_cons last, fields, first.fieldsFrom_comma, ← fields, ih others last, List.map_cons]

theorem recordsFrom_line {before : Record} (written : ∀ f ∈ fs, Written f) (ne : fs ≠ []) :
    recordsFrom before .start (line fs ++ lineFeed :: rest) =
      (before.reverse ++ fs.map rawOf) :: recordsFrom [] .start rest := by
  induction fs generalizing before with
  | nil => exact absurd rfl ne
  | cons f fs ih =>
      obtain ⟨first, others⟩ := List.forall_mem_cons.1 written
      by_cases last : fs = []
      · rw [last, line_singleton, first.recordsFrom_lineFeed, List.reverse_cons, List.map_singleton]
      · rw [line_cons last, List.append_assoc, List.cons_append, first.recordsFrom_comma,
          ih others last, List.reverse_cons, List.append_assoc, List.map_cons]
        rfl

/-- Lines of written fields are cut into these. -/
theorem records_linesOf (written : ∀ fs ∈ rows, fs ≠ [] ∧ ∀ f ∈ fs, Written f) :
    records (linesOf rows) = rows.map (·.map rawOf) := by
  induction rows with
  | nil => rfl
  | cons fs rows ih =>
      obtain ⟨⟨ne, first⟩, others⟩ := List.forall_mem_cons.1 written
      rw [linesOf_cons, records, recordsFrom_line first ne, ← records, ih others]
      rfl

/-! ### Lines in one piece -/

/-- No byte ends the line. -/
def Unbroken : Bool → Bytes → Prop
  | _, [] => True
  | inside, b :: rest => (inside = false → b ≠ lineFeed) ∧ Unbroken (inside != (b == quote)) rest

/-- Whether what follows some bytes is inside quotes. -/
def leaves (inside : Bool) (bytes : Bytes) : Bool :=
  bytes.foldl (fun inside b => inside != (b == quote)) inside

variable {inside : Bool}

theorem leaves_append : leaves inside (left ++ right) = leaves (leaves inside left) right :=
  List.foldl_append

theorem Unbroken.append (h : Unbroken inside left) (h' : Unbroken (leaves inside left) right) :
    Unbroken inside (left ++ right) := by
  induction left generalizing inside with
  | nil => exact h'
  | cons b rest ih => exact ⟨h.1, ih h.2 h'⟩

/-- The line goes on behind a byte that does not end it. -/
theorem endsLine_eq_false (h : inside = false → b ≠ lineFeed) :
    (b == lineFeed && !inside) = false := by
  cases inside with
  | true => simp
  | false => simp [h rfl]

theorem cutFrom_append {before : Bytes} (h : Unbroken inside bytes) :
    cutFrom before inside (bytes ++ rest) =
      cutFrom (bytes.reverse ++ before) (leaves inside bytes) rest := by
  induction bytes generalizing inside before with
  | nil => rfl
  | cons b bytes ih =>
      rw [List.cons_append, cutFrom, endsLine_eq_false h.1, if_neg Bool.false_ne_true, ih h.2,
        List.reverse_cons, List.append_assoc]
      rfl

theorem afterLine_append (h : Unbroken inside bytes) :
    afterLine inside (bytes ++ rest) = afterLine (leaves inside bytes) rest := by
  induction bytes generalizing inside with
  | nil => rfl
  | cons b bytes ih =>
      rw [List.cons_append, afterLine, endsLine_eq_false h.1, if_neg Bool.false_ne_true, ih h.2]
      rfl

/-- Doubled quotes inside quotes are balanced. -/
theorem unbroken_escape (content : Bytes) :
    Unbroken true (escape content) ∧ leaves true (escape content) = true := by
  induction content with
  | nil => exact ⟨trivial, rfl⟩
  | cons b rest ih =>
      by_cases isQuote : b = quote
      · subst isQuote
        rw [escape_cons_quote]
        exact ⟨⟨nofun, fun _ => by decide, ih.1⟩, ih.2⟩
      · rw [escape_cons isQuote]
        have inside : (true != (b == quote)) = true := by simp [isQuote]
        refine ⟨⟨nofun, inside.symm ▸ ih.1⟩, ?_⟩
        rw [leaves, List.foldl_cons, inside]
        exact ih.2

theorem unbroken_plain (h : ∀ b ∈ bytes, isSpecial b = false) :
    Unbroken false bytes ∧ leaves false bytes = false := by
  induction bytes with
  | nil => exact ⟨trivial, rfl⟩
  | cons b rest ih =>
      obtain ⟨others, after⟩ := ih fun c mem => h c (List.mem_cons_of_mem _ mem)
      obtain ⟨-, noQuote, noLineFeed, -⟩ := isSpecial_eq_false.1 (h b (List.mem_cons_self ..))
      have outside : (false != (b == quote)) = false := by simp [noQuote]
      refine ⟨⟨fun _ => noLineFeed, outside.symm ▸ others⟩, ?_⟩
      rw [leaves, List.foldl_cons, outside]
      exact after

/-- A written field neither ends a line nor leaves anything inside quotes. -/
theorem Written.unbroken (h : Written f) : Unbroken false f ∧ leaves false f = false := by
  cases h with
  | plain h => exact unbroken_plain h
  | quoted content =>
      obtain ⟨inner, after⟩ := unbroken_escape content
      refine ⟨⟨fun _ => by decide, inner.append ⟨fun _ => by decide, trivial⟩⟩, ?_⟩
      rw [List.cons_append, leaves, List.foldl_cons]
      show leaves true (escape content ++ [quote]) = false
      rw [leaves_append, after]
      rfl

theorem unbroken_line (written : ∀ f ∈ fs, Written f) :
    Unbroken false (line fs) ∧ leaves false (line fs) = false := by
  induction fs with
  | nil => exact ⟨trivial, rfl⟩
  | cons f fs ih =>
      obtain ⟨first, others⟩ := List.forall_mem_cons.1 written
      obtain ⟨unbroken, after⟩ := first.unbroken
      by_cases last : fs = []
      · rw [last, line_singleton]
        exact ⟨unbroken, after⟩
      · obtain ⟨following, afterAll⟩ := ih others
        have separated : Unbroken false (comma :: line fs) := ⟨fun _ => by decide, following⟩
        rw [line_cons last]
        refine ⟨unbroken.append (after.symm ▸ separated), ?_⟩
        rw [leaves_append, after]
        exact afterAll

/-- Lines of written fields are cut at their ends, and nothing is left behind. -/
theorem cut_linesOf (written : ∀ fs ∈ rows, ∀ f ∈ fs, Written f) :
    cut (linesOf rows) = (rows.map line, []) := by
  induction rows with
  | nil => rfl
  | cons fs rows ih =>
      obtain ⟨first, others⟩ := List.forall_mem_cons.1 written
      obtain ⟨unbroken, after⟩ := unbroken_line first
      rw [linesOf_cons, cut, cutFrom_append unbroken, after, cutFrom, ← cut, ih others]
      simp

theorem lines_linesOf (written : ∀ fs ∈ rows, ∀ f ∈ fs, Written f) :
    lines (linesOf rows) = rows.map line := by
  rw [lines, cut_linesOf written]
  rfl

theorem afterLine_line (written : ∀ f ∈ fs, Written f) :
    afterLine false (line fs ++ lineFeed :: rest) = rest := by
  obtain ⟨unbroken, after⟩ := unbroken_line written
  rw [afterLine_append unbroken, after, afterLine]
  rfl

/-! ### Ends of fields and lines -/

/-- A written field does not end in a carriage return. -/
theorem Written.getLast?_ne (h : Written f) : f.getLast? ≠ some carriageReturn := by
  cases h with
  | plain h =>
      intro last
      exact (isSpecial_eq_false.1 (h _ (List.mem_of_getLast? last))).2.2.2 rfl
  | quoted content =>
      rw [List.getLast?_concat]
      decide

theorem withoutReturn_eq_self (h : bytes.getLast? ≠ some carriageReturn) :
    withoutReturn bytes = bytes := by
  rw [withoutReturn, if_neg (by simpa using h)]

theorem getLast?_line_ne (written : ∀ f ∈ fs, Written f) :
    (line fs).getLast? ≠ some carriageReturn := by
  induction fs with
  | nil => nofun
  | cons f fs ih =>
      obtain ⟨first, others⟩ := List.forall_mem_cons.1 written
      by_cases last : fs = []
      · rw [last, line_singleton]
        exact first.getLast?_ne
      · rw [line_cons last, List.getLast?_append, List.getLast?_cons]
        have tail := ih others
        cases h : (line fs).getLast? with
        | none => simp; decide
        | some b => simpa [h] using tail

/-- A line of written fields does not begin with a line end. -/
theorem dropLineEnds_line (written : ∀ f ∈ fs, Written f) (ne : line fs ≠ []) (rest : Bytes) :
    dropLineEnds (line fs ++ rest) = line fs ++ rest := by
  have solid {b : UInt8} (h : b ≠ lineFeed ∧ b ≠ carriageReturn) (others : Bytes) :
      dropLineEnds (b :: others) = b :: others := by
    simp [dropLineEnds, h.1, h.2]
  obtain ⟨h, others, rfl⟩ := List.exists_cons_of_ne_nil (l := fs) (by rintro rfl; exact ne rfl)
  obtain ⟨first, -⟩ := List.forall_mem_cons.1 written
  have begins : ∃ b tail, line (h :: others) = b :: tail ∧ b ≠ lineFeed ∧ b ≠ carriageReturn := by
    by_cases last : others = []
    · subst last
      rw [line_singleton] at ne ⊢
      cases first with
      | plain plain =>
          obtain ⟨b, tail, rfl⟩ := List.exists_cons_of_ne_nil ne
          exact ⟨b, tail, rfl, (isSpecial_eq_false.1 (plain b (List.mem_cons_self ..))).2.2⟩
      | quoted content => exact ⟨quote, _, rfl, by decide, by decide⟩
    · rw [line_cons last]
      cases first with
      | plain plain =>
          cases h with
          | nil => exact ⟨comma, _, rfl, by decide, by decide⟩
          | cons b tail =>
              exact ⟨b, _, rfl, (isSpecial_eq_false.1 (plain b (List.mem_cons_self ..))).2.2⟩
      | quoted content => exact ⟨quote, _, rfl, by decide, by decide⟩
  obtain ⟨b, tail, shape, noLineEnd⟩ := begins
  rw [shape, List.cons_append, solid noLineEnd]

theorem getLast?_linesOf (fs : List Bytes) (rows : List (List Bytes)) :
    (linesOf (fs :: rows)).getLast? = some lineFeed := by
  induction rows generalizing fs with
  | nil => rw [linesOf_cons, linesOf_nil, List.getLast?_concat]
  | cons gs rows ih => rw [linesOf_cons, List.getLast?_append, List.getLast?_cons, ih gs]; rfl

/-! ### Tables of written fields -/

/-- The records of lines of written fields are the fields of the lines. -/
theorem bodyRecords_linesOf (written : ∀ fs ∈ rows, fs ≠ [] ∧ ∀ f ∈ fs, Written f) :
    bodyRecords (linesOf rows) = .ok (rows.map (·.map rawOf)) := by
  have whole : (rows.map line).flatMap (· ++ [lineFeed]) = linesOf rows := by
    rw [List.flatMap_map, linesOf]
  simp only [bodyRecords, cut_linesOf fun fs mem => (written fs mem).2, whole, blockRecords,
    records_linesOf written, List.length_map, beq_self_eq_true, if_true, bind, Except.bind,
    List.isEmpty_nil, pure, Except.pure]

/-- The shapes in a line are those of its fields; an empty line has that of a missing cell. -/
theorem getD_lineShapes (written : ∀ f ∈ fs, Written f) (ne : fs ≠ []) (i : Nat) :
    (lineShapes (line fs)).getD i none = (fs.map fun f => fieldShape? (rawOf f)).getD i none := by
  have ending : withoutReturn (line fs) = line fs :=
    withoutReturn_eq_self (getLast?_line_ne written)
  rw [lineShapes, ending, ite_self, fields_line written ne, List.map_map]
  split
  · rename_i empty
    obtain ⟨h, rest, rfl⟩ := List.exists_cons_of_ne_nil ne
    cases rest with
    | nil =>
        rw [line_singleton, List.isEmpty_iff] at empty
        rw [empty]
        cases i <;> rfl
    | cons g rest =>
        rw [line_cons (List.cons_ne_nil _ _)] at empty
        simp at empty
  · rfl

/-! ### What a written field stands for -/

theorem rawOf_plain (h : ∀ b ∈ bytes, isSpecial b = false) : rawOf bytes = ⟨bytes, false⟩ := by
  cases bytes with
  | nil => rfl
  | cons b rest =>
      have noQuote := (isSpecial_eq_false.1 (h b (List.mem_cons_self ..))).2.1
      simp [rawOf, noQuote]

theorem rawOf_quoted (content : Bytes) :
    rawOf (quote :: escape content ++ [quote]) = ⟨quote :: escape content ++ [quote], true⟩ := by
  simp [rawOf]

theorem inner_quoted (content : Bytes) :
    (rawOf (quote :: escape content ++ [quote])).inner = escape content := by
  rw [rawOf_quoted, RawField.inner, if_pos (by simp)]
  simp

theorem dropQuotes_escape (content : Bytes) :
    RawField.dropQuotes false (escape content) = content := by
  induction content with
  | nil => rfl
  | cons b rest ih =>
      by_cases isQuote : b = quote
      · rw [isQuote, escape_cons_quote, RawField.dropQuotes, if_pos (by decide),
          if_neg Bool.false_ne_true, RawField.dropQuotes, if_pos (by decide), if_pos rfl, ih]
      · rw [escape_cons isQuote, RawField.dropQuotes, if_neg (by simpa using isQuote), ih]

theorem content_quoted (content : Bytes) :
    (rawOf (quote :: escape content ++ [quote])).content = content := by
  rw [RawField.content, inner_quoted, dropQuotes_escape, rawOf_quoted]
  rfl

theorem isClosed_quoted (content : Bytes) :
    (rawOf (quote :: escape content ++ [quote])).isClosed = true := by
  rw [rawOf_quoted, RawField.isClosed, List.getLast?_concat]
  simp

theorem Written.trimReturn (h : Written f) : (rawOf f).trimReturn = rawOf f := by
  rw [RawField.trimReturn, rawOf, withoutReturn_eq_self h.getLast?_ne]

end LabelForge.Csv
