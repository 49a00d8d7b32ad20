import LabelForge.Proofs.Csv.Cell

/-!
# LabelForge.Proofs.Csv.Roundtrip

**Reading a written table.** Every column of a written table is read by itself: what is found of it
depends on its own cells alone, and the type in which it is read on what all of them look like. So
reading a written table is reading its columns one after the other, under the names that the line of
headings has by then.

Design points:

* A mark at the start of the file is dropped from the first heading. Where this leaves nothing of
  the whole line of headings, the table is not read from there, and nothing is said about it.
-/

namespace LabelForge.Csv

open Text (Bytes bytesOf encode)

variable {f : Frame}

/-! ### The bytes of a table -/

/-- The fields of the headings. -/
def headFields (f : Frame) : List Bytes :=
  f.columns.map fun c => textField c.name

/-- The fields of a row. -/
def rowFields (f : Frame) (row : Nat) : List Bytes :=
  f.columns.map fun c => cellField c.dataType (c.cells.getD row .missing)

theorem encode_intercalate (fs : List (List Char)) :
    encode ([','].intercalate fs) = line (fs.map encode) := by
  induction fs with
  | nil => rfl
  | cons cs fs ih =>
      by_cases last : fs = []
      · rw [last, List.intercalate_singleton, List.map_singleton, line_singleton]
      · have others : fs.map encode ≠ [] := by simpa using last
        obtain ⟨ds, rest, rfl⟩ := List.exists_cons_of_ne_nil last
        show _ = line (encode cs :: (ds :: rest).map encode)
        rw [List.intercalate_cons_cons, Text.encode_append, ih, line_cons others,
          Text.encode_append, List.append_assoc]
        rfl

theorem encode_lineChars (fs : List (List Char)) :
    encode (lineChars fs) = line (fs.map encode) ++ [lineFeed] := by
  rw [lineChars, Text.encode_append, encode_intercalate]
  rfl

/-- A table is written as the line of its headings and the lines of its rows. -/
theorem bytesOf_print (f : Frame) :
    bytesOf (print f) = linesOf (headFields f :: (List.range f.rows).map (rowFields f)) := by
  have rows : ∀ rows : List Nat, encode (rows.flatMap (rowChars f)) =
      linesOf (rows.map (rowFields f)) := by
    intro rows
    induction rows with
    | nil => rfl
    | cons row rows ih =>
        rw [List.flatMap_cons, Text.encode_append, ih, rowChars, encode_lineChars, List.map_map,
          List.append_assoc, List.map_cons, linesOf_cons]
        rfl
  rw [Text.bytesOf_eq_encode, print, String.toList_ofList, printChars, Text.encode_append, rows,
    headingChars, encode_lineChars, List.map_map, List.append_assoc, linesOf_cons]
  rfl

theorem written_headFields (f : Frame) : ∀ h ∈ headFields f, Written h := by
  intro h mem
  obtain ⟨c, -, rfl⟩ := List.mem_map.1 mem
  exact written_textField _

theorem written_rowFields (f : Frame) (row : Nat) : ∀ h ∈ rowFields f row, Written h := by
  intro h mem
  obtain ⟨c, -, rfl⟩ := List.mem_map.1 mem
  exact written_cellField _ _

/-! ### The line of headings -/

/-- The mark that may stand at the start of a file. -/
def mark : Bytes := [0xEF, 0xBB, 0xBF]

theorem dropMark_mark (rest : Bytes) : dropMark (mark ++ rest) = rest := rfl

theorem dropMark_eq_self {bytes : Bytes} (h : ¬ mark <+: bytes) : dropMark bytes = bytes := by
  unfold dropMark
  split
  · exact absurd ⟨_, rfl⟩ h
  · rfl

/-- A byte that is not in the mark keeps what follows it out of the mark. -/
theorem dropMark_append {b : UInt8} (h : b ∉ mark) (bytes rest : Bytes) :
    dropMark (bytes ++ b :: rest) = dropMark bytes ++ b :: rest := by
  by_cases marked : mark <+: bytes
  · obtain ⟨behind, rfl⟩ := marked
    rw [List.append_assoc, dropMark_mark, dropMark_mark]
  · rw [dropMark_eq_self marked, dropMark_eq_self]
    rintro ⟨behind, split⟩
    rcases List.append_eq_append_iff.1 split with ⟨within, whole, -⟩ | ⟨across, whole, tail⟩
    · exact marked ⟨within, whole.symm⟩
    · cases across with
      | nil => exact marked ⟨[], by rw [List.append_nil, whole, List.append_nil]⟩
      | cons c across =>
          obtain ⟨rfl, -⟩ := List.cons.inj tail
          exact h (whole ▸ List.mem_append_right _ (List.mem_cons_self ..))

/-- The mark is dropped from the first field of a line. -/
theorem dropMark_line (h : Bytes) (fs : List Bytes) :
    dropMark (line (h :: fs)) = line (dropMark h :: fs) := by
  by_cases last : fs = []
  · rw [last, line_singleton, line_singleton]
  · rw [line_cons last, line_cons last, dropMark_append (by decide)]

theorem Written.dropMark {h : Bytes} (written : Written h) : Written (dropMark h) := by
  by_cases marked : mark <+: h
  · obtain ⟨behind, rfl⟩ := marked
    rw [dropMark_mark]
    cases written with
    | plain plain => exact .plain fun b mem => plain b (List.mem_append_right _ mem)
  · rw [dropMark_eq_self marked]
    exact written

/-- The fields in which the headings are found. -/
def headFieldsRead (f : Frame) : List Bytes :=
  (headFields f).modifyHead dropMark

/-- The names under which the columns are read. -/
def namesRead (f : Frame) : List String :=
  numberNames [] ((headFieldsRead f).map fun h => headingName (rawOf h))

theorem length_numberNames (seen names : List String) :
    (numberNames seen names).length = names.length := by
  induction names generalizing seen with
  | nil => rfl
  | cons name names ih => rw [numberNames, List.length_cons, List.length_cons, ih]

theorem length_headFieldsRead (f : Frame) : (headFieldsRead f).length = f.columns.length := by
  rw [headFieldsRead, List.length_modifyHead, headFields, List.length_map]

theorem length_namesRead (f : Frame) : (namesRead f).length = f.columns.length := by
  rw [namesRead, length_numberNames, List.length_map, length_headFieldsRead]

theorem written_headFieldsRead (f : Frame) : ∀ h ∈ headFieldsRead f, Written h := by
  have written := written_headFields f
  rw [headFieldsRead]
  cases fields : headFields f with
  | nil => exact fun _ mem => nomatch mem
  | cons h fs =>
      rw [fields] at written
      obtain ⟨first, others⟩ := List.forall_mem_cons.1 written
      exact List.forall_mem_cons.2 ⟨first.dropMark, others⟩

/-- Behind the mark there are lines of written fields again. -/
theorem dropMark_print (wide : f.columns ≠ []) :
    dropMark (bytesOf (print f)) =
      linesOf (headFieldsRead f :: (List.range f.rows).map (rowFields f)) := by
  obtain ⟨c, cs, columns⟩ := List.exists_cons_of_ne_nil wide
  have fields : headFields f = textField c.name :: cs.map fun c => textField c.name := by
    rw [headFields, columns, List.map_cons]
  rw [bytesOf_print, linesOf_cons, linesOf_cons, dropMark_append (by decide), headFieldsRead,
    fields, dropMark_line]
  rfl

/-- Distinct names are not numbered. -/
theorem numberNames_eq_self {seen names : List String} (distinct : names.Nodup)
    (new : ∀ name ∈ names, name ∉ seen) : numberNames seen names = names := by
  induction names generalizing seen with
  | nil => rfl
  | cons name names ih =>
      obtain ⟨fresh, distinct⟩ := List.nodup_cons.1 distinct
      obtain ⟨first, others⟩ := List.forall_mem_cons.1 new
      have later : ∀ other ∈ names, other ∉ name :: seen := by
        intro other mem
        rw [List.mem_cons, not_or]
        exact ⟨fun same => fresh (same ▸ mem), others other mem⟩
      rw [numberNames, List.count_eq_zero.2 first, ih distinct later]
      rfl

/-- The character that is the mark at the start of a file. -/
def markChar : Char := '\ufeff'

/-- Only a text that begins with the mark is written with the mark in front. -/
theorem bytesOf_of_marked {s : String} (h : mark <+: textField s) : textField s = bytesOf s := by
  rcases textChars_eq s with ⟨-, -, same⟩ | quoted
  · rw [textField, same, Text.bytesOf_eq_encode]
  · rw [textField, quoted] at h
    obtain ⟨behind, split⟩ := h
    cases split

theorem head?_of_marked {s : String} (h : mark <+: textField s) :
    s.toList.head? = some markChar := by
  have same := bytesOf_of_marked h
  obtain ⟨behind, split⟩ := h
  have read : Text.lenient (mark ++ behind) = markChar :: Text.lenient behind :=
    Text.lenientFrom_encodeChar markChar behind
  rw [← Text.lenient_encode s.toList, ← Text.bytesOf_eq_encode, ← same, ← split, read]
  rfl

theorem nodup_bareText : (f.names.map bareText).Nodup :=
  List.pairwise_map.2 (f.distinct.imp fun differ same => differ (bareText_injective same))

/-- Where the first heading does not begin with a mark, all headings come back, with their quotes
doubled. -/
theorem namesRead_eq (unmarked : ∀ name ∈ f.names.head?, name.toList.head? ≠ some markChar) :
    namesRead f = f.names.map bareText := by
  have fields : headFieldsRead f = headFields f := by
    rw [headFieldsRead]
    unfold Frame.names at unmarked
    unfold headFields
    cases columns : f.columns with
    | nil => rfl
    | cons c cs =>
        rw [columns] at unmarked
        rw [List.map_cons, List.modifyHead_cons, dropMark_eq_self]
        exact fun marked => unmarked c.name rfl (head?_of_marked marked)
  have names : (headFieldsRead f).map (fun h => headingName (rawOf h)) = f.names.map bareText := by
    rw [fields, headFields, Frame.names, List.map_map, List.map_map]
    exact List.map_congr_left fun c _ => headingName_textField c.name
  rw [namesRead, names, numberNames_eq_self]
  · exact nodup_bareText
  · exact fun _ _ => List.not_mem_nil

/-- The line of headings is empty without the mark only if it is nothing but the mark. -/
theorem line_headFieldsRead_ne_nil (wide : f.columns ≠ [])
    (named : f.names ≠ [String.singleton markChar]) : line (headFieldsRead f) ≠ [] := by
  obtain ⟨c, cs, columns⟩ := List.exists_cons_of_ne_nil wide
  have fields : headFieldsRead f =
      dropMark (textField c.name) :: cs.map fun c => textField c.name := by
    rw [headFieldsRead, headFields, columns]
    rfl
  rw [fields]
  by_cases last : cs = []
  · subst last
    rw [List.map_nil, line_singleton]
    by_cases marked : mark <+: textField c.name
    · have same := bytesOf_of_marked marked
      obtain ⟨behind, split⟩ := marked
      rw [← split, dropMark_mark]
      rintro rfl
      refine named ?_
      have lone : c.name = String.singleton markChar := by
        refine Text.bytesOf_injective ?_
        rw [← same, ← split, Text.bytesOf_eq_encode, String.toList_singleton]
        rfl
      rw [Frame.names, columns, List.map_singleton, lone]
    · rw [dropMark_eq_self marked]
      exact List.isEmpty_eq_false_iff.1 (found_textField c.name).some
  · rw [line_cons (by simpa using last)]
    simp

/-! ### Reading the columns -/

/-- A list is read if each of its members is. -/
theorem mapM_eq_ok {ε α β : Type} {g : α → Except ε β} {as : List α} {bs : List β} :
    as.mapM g = .ok bs ↔ as.map g = bs.map .ok := by
  induction as generalizing bs with
  | nil => cases bs <;> simp [pure, Except.pure]
  | cons a as ih =>
      rw [List.mapM_cons, List.map_cons]
      cases bs with
      | nil => cases g a <;> cases as.mapM g <;> simp [bind, Except.bind, pure, Except.pure]
      | cons b bs =>
          rw [List.map_cons, List.cons.injEq, ← ih]
          cases g a <;> cases as.mapM g <;> simp [bind, Except.bind, pure, Except.pure]

theorem mapM_ok {ε α β : Type} {g : α → Except ε β} {h : α → β} {as : List α}
    (each : ∀ a ∈ as, g a = .ok (h a)) : as.mapM g = .ok (as.map h) := by
  rw [mapM_eq_ok, List.map_map]
  exact List.map_congr_left each

/-- What is read of the cells of a column that was written. -/
def cellsFound (c : Column) : List (Option TextCell) :=
  c.cells.map (cellReadBack? c.dataType)

/-- The shape of a column that was written. -/
def shapeRead (c : Column) : Shape :=
  columnShape ((cellsFound c).filterMap fun t => t.map fun t => shapeOf t.content)

/-- Reads the cells of a column that was written. -/
def readCells (c : Column) : Except CsvError (List Cell) :=
  (cellsFound c).mapM (cellOf (shapeRead c))

/-- Reads a column that was written. -/
def readColumn (name : String) (c : Column) : Except CsvError Column := do
  return ⟨name, (shapeRead c).dataType, ← readCells c⟩

theorem textCell?_rowFields (f : Frame) (row : Nat) :
    ((rowFields f row).map rawOf).mapM textCell? =
      .ok (f.columns.map fun c => cellReadBack? c.dataType (c.cells.getD row .missing)) := by
  rw [rowFields, List.map_map, List.mapM_map]
  exact mapM_ok fun c _ => textCell?_cellField _ _

theorem rowCells_rowFields (f : Frame) (row : Nat) :
    rowCells f.columns.length ((rowFields f row).map rawOf) =
      .ok (f.columns.map fun c => cellReadBack? c.dataType (c.cells.getD row .missing)) := by
  have width : ((rowFields f row).map rawOf).length = f.columns.length := by
    rw [List.length_map, rowFields, List.length_map]
  simp only [rowCells, width, gt_iff_lt, Nat.lt_irrefl, if_false, textCell?_rowFields, bind,
    Except.bind, pure, Except.pure, Nat.sub_self, List.replicate_zero, List.append_nil]

theorem rowFields_ne_nil (wide : f.columns ≠ []) (row : Nat) : rowFields f row ≠ [] := by
  simpa [rowFields] using wide

theorem written_rows (wide : f.columns ≠ []) :
    ∀ fs ∈ (List.range f.rows).map (rowFields f), fs ≠ [] ∧ ∀ h ∈ fs, Written h := by
  intro fs mem
  obtain ⟨row, -, rfl⟩ := List.mem_map.1 mem
  exact ⟨rowFields_ne_nil wide row, written_rowFields f row⟩

/-- The cells of a column, row by row. -/
theorem cells_eq_range {c : Column} (mem : c ∈ f.columns) :
    c.cells = (List.range f.rows).map fun row => c.cells.getD row .missing := by
  have aligned := f.aligned c mem
  refine List.ext_getElem (by simp [aligned]) fun row bound _ => ?_
  rw [List.getElem_map, List.getElem_range, List.getD_eq_getElem?_getD,
    List.getElem?_eq_getElem bound, Option.getD_some]

theorem found_column {i : Nat} (bound : i < f.columns.length) :
    ((List.range f.rows).map fun row => (f.columns.map fun c =>
      cellReadBack? c.dataType (c.cells.getD row .missing)).getD i none) =
      cellsFound f.columns[i] := by
  have cells := cells_eq_range (List.getElem_mem bound)
  refine Eq.trans ?_ (congrArg (List.map (cellReadBack? f.columns[i].dataType)) cells).symm
  rw [List.map_map]
  refine List.map_congr_left fun row _ => ?_
  rw [List.getD_eq_getElem?_getD, List.getElem?_map, List.getElem?_eq_getElem bound]
  rfl

theorem columnShapes_rows (wide : f.columns ≠ []) :
    columnShapes f.columns.length (((List.range f.rows).map (rowFields f)).map line) =
      f.columns.map shapeRead := by
  refine List.ext_getElem (by simp [columnShapes]) fun i _ bound => ?_
  rw [List.length_map] at bound
  simp only [columnShapes, List.getElem_map, List.getElem_range, List.map_map, shapeRead]
  rw [← found_column bound, List.filterMap_map, List.filterMap_map]
  refine congrArg (fun shape => columnShape ((List.range f.rows).filterMap shape)) ?_
  funext row
  simp only [Function.comp_apply, getD_lineShapes (written_rowFields f row)
    (rowFields_ne_nil wide row)]
  simp [rowFields, bound, fieldShape?_cellField]

/-- Every column is read from what is found of its own cells. -/
theorem mapM_columns {names : List String} (each : names.length = f.columns.length) :
    (((names.zip (f.columns.map shapeRead)).zipIdx.mapM fun x =>
      columnOf x.1.1 x.1.2 (((List.range f.rows).map fun row => f.columns.map fun c =>
        cellReadBack? c.dataType (c.cells.getD row .missing)).map fun row => row.getD x.2 none)) :
      Except CsvError (List Column)) =
      (names.zip f.columns).mapM fun p => readColumn p.1 p.2 := by
  have columns : ∀ {α : Type} (as : List α) (g : α → Except CsvError Column),
      as.mapM g = (as.map g).mapM id := fun as g => by
    rw [List.mapM_map]
    rfl
  rw [columns, columns (names.zip f.columns)]
  refine congrArg (List.mapM id) (List.ext_getElem (by simp) fun i _ bound => ?_)
  simp only [List.length_map, List.length_zip, each, Nat.min_self] at bound
  simp only [List.getElem_map, List.getElem_zipIdx, List.getElem_zip, List.map_map, Nat.zero_add,
    Function.comp_def, found_column bound, readColumn, readCells, columnOf]

/-- **Reading a written table.** Unless the table begins like a compressed file, or nothing is left
of its headings when the mark is dropped, reading it is reading its columns one by one. -/
theorem parse_print (wide : f.columns ≠ [])
    (uncompressed : isCompressed (bytesOf (print f)) = false)
    (headed : line (headFieldsRead f) ≠ []) :
    parse (bytesOf (print f)) = (do
      let columns ← ((namesRead f).zip f.columns).mapM fun p => readColumn p.1 p.2
      match Frame.ofColumns? columns with
      | some g => return g
      | none => throw .duplicateName) := by
  have headings := written_headFieldsRead f
  have rows := written_rows wide
  have fieldwise : ∀ fs ∈ headFieldsRead f :: (List.range f.rows).map (rowFields f),
      ∀ h ∈ fs, Written h := by
    rintro fs (_ | ⟨_, mem⟩)
    · exact headings
    · exact (rows fs mem).2
  have names : headingNames (line (headFieldsRead f)) = namesRead f := by
    have nonempty : headFieldsRead f ≠ [] := by
      intro none
      rw [none] at headed
      exact headed rfl
    rw [headingNames, withoutReturn_eq_self (getLast?_line_ne headings), ite_self,
      fields_line headings nonempty, List.map_map]
    rfl
  have unmarked := dropMark_print wide
  have lines := lines_linesOf fieldwise
  have last := getLast?_linesOf (headFieldsRead f) ((List.range f.rows).map (rowFields f))
  have begins : dropLineEnds (linesOf (headFieldsRead f :: (List.range f.rows).map (rowFields f))) =
      linesOf (headFieldsRead f :: (List.range f.rows).map (rowFields f)) := by
    rw [linesOf_cons, dropLineEnds_line headings headed]
  have below :
      afterLine false (linesOf (headFieldsRead f :: (List.range f.rows).map (rowFields f))) =
        linesOf ((List.range f.rows).map (rowFields f)) := by
    rw [linesOf_cons, afterLine_line headings]
  generalize linesOf (headFieldsRead f :: (List.range f.rows).map (rowFields f)) = table at *
  -- the text begins with the headings and ends in a line end, so nothing is dropped or added
  have ended : endOnlyLine table = table := by
    rw [endOnlyLine, last, bne_self_eq_false, Bool.and_false, if_neg Bool.false_ne_true]
  have found : (List.range f.rows).mapM
      (fun row => rowCells f.columns.length ((rowFields f row).map rawOf)) = .ok _ :=
    mapM_ok fun row _ => rowCells_rowFields f row
  simp only [parse, uncompressed, Bool.false_eq_true, if_false, unmarked, begins, ended, lines,
    List.map_cons, names, ite_self, below, bodyRecords_linesOf rows, length_namesRead,
    columnShapes_rows wide, List.mapM_map, Function.comp_def, found, bind,
    Except.bind, pure, Except.pure]
  have columns := mapM_columns (length_namesRead f)
  simp only [List.map_map, Function.comp_def] at columns ⊢
  generalize List.mapM (m := Except CsvError) _ (List.zipIdx _) = read at columns ⊢
  subst columns
  rfl

/-! ### What the table is read as -/

/-- A column that a written one is read as, but for its name. -/
structure ColumnAs (c d : Column) : Prop where
  dataType : d.dataType = (shapeRead c).dataType
  cells : readCells c = .ok d.cells

/-- The table that a written one is read as. -/
structure ReadAs (f g : Frame) : Prop where
  names : g.names = namesRead f
  columns : ∀ (i : Nat) (c : Column), f.columns[i]? = some c →
    ∃ d, g.columns[i]? = some d ∧ ColumnAs c d

theorem ColumnAs.length {c d : Column} (h : ColumnAs c d) : d.cells.length = c.cells.length := by
  have cells := h.cells
  rw [readCells, mapM_eq_ok] at cells
  simpa [cellsFound] using (congrArg List.length cells).symm

theorem readColumn_eq_ok {name : String} {c d : Column} :
    readColumn name c = .ok d ↔ d.name = name ∧ ColumnAs c d := by
  rw [readColumn]
  cases read : readCells c with
  | error e =>
      simp only [bind, Except.bind, reduceCtorEq, false_iff]
      rintro ⟨-, -, cells⟩
      cases read.symm.trans cells
  | ok cells =>
      simp only [bind, Except.bind, pure, Except.pure, Except.ok.injEq]
      constructor
      · rintro rfl
        exact ⟨rfl, rfl, read⟩
      · rintro ⟨rfl, dataType, same⟩
        rw [← dataType, Except.ok.inj (read.symm.trans same)]

theorem mapM_readColumn {names : List String} {columns ds : List Column}
    (each : names.length = columns.length) :
    ((names.zip columns).mapM fun p => readColumn p.1 p.2) = .ok ds ↔
      ds.map Column.name = names ∧
        ∀ (i : Nat) (c : Column), columns[i]? = some c → ∃ d, ds[i]? = some d ∧ ColumnAs c d := by
  rw [mapM_eq_ok]
  induction columns generalizing names ds with
  | nil =>
      rw [List.length_eq_zero_iff.1 each]
      cases ds <;> simp
  | cons c columns ih =>
      cases names with
      | nil => cases each
      | cons name names =>
          cases ds with
          | nil => simp
          | cons d ds =>
              rw [List.zip_cons_cons, List.map_cons, List.map_cons, List.map_cons, List.cons.injEq,
                List.cons.injEq, ih (Nat.succ.inj each), readColumn_eq_ok]
              constructor
              · rintro ⟨⟨name, here⟩, names, others⟩
                refine ⟨⟨name, names⟩, ?_⟩
                rintro (_ | i) b found
                · cases found
                  exact ⟨d, rfl, here⟩
                · exact others i b found
              · rintro ⟨⟨name, names⟩, all⟩
                obtain ⟨_, ⟨⟩, here⟩ := all 0 c rfl
                exact ⟨⟨name, here⟩, names, fun i => all (i + 1)⟩

/-- Columns are those of a table if there is a table with these columns. -/
theorem ofColumns?_eq_some {columns : List Column} (wide : columns ≠ []) {g : Frame} :
    Frame.ofColumns? columns = some g ↔ g.columns = columns := by
  obtain ⟨c, cs, rfl⟩ := List.exists_cons_of_ne_nil wide
  unfold Frame.ofColumns?
  constructor
  · intro h
    by_cases fits : (∀ d ∈ c :: cs, d.cells.length = c.cells.length) ∧
        ((c :: cs).map Column.name).Nodup
    · rw [dif_pos fits] at h
      cases h
      rfl
    · rw [dif_neg fits] at h
      cases h
  · intro same
    have rows : g.rows = c.cells.length := (g.aligned c (same ▸ List.mem_cons_self ..)).symm
    obtain ⟨n, columns, aligned, distinct⟩ := g
    subst same
    subst rows
    rw [dif_pos ⟨aligned, distinct⟩]

/-- **What a written table is read as.** It is read unless it begins like a compressed file, a
column cannot be read in the type of its cells, or two headings have become the same. -/
theorem parse_print_eq_ok (wide : f.columns ≠ []) (headed : line (headFieldsRead f) ≠ [])
    {g : Frame} :
    parse (bytesOf (print f)) = .ok g ↔
      isCompressed (bytesOf (print f)) = false ∧ ReadAs f g := by
  by_cases uncompressed : isCompressed (bytesOf (print f)) = false
  · rw [parse_print wide uncompressed headed, and_iff_right uncompressed]
    have nonempty {ds : List Column} (names : ds.map Column.name = namesRead f) : ds ≠ [] := by
      rintro rfl
      have none := length_namesRead f
      rw [← names] at none
      exact wide (List.length_eq_zero_iff.1 none.symm)
    constructor
    · intro h
      cases read : ((namesRead f).zip f.columns).mapM fun p => readColumn p.1 p.2 with
      | error e => rw [read] at h; cases h
      | ok columns =>
          obtain ⟨names, each⟩ := (mapM_readColumn (length_namesRead f)).1 read
          simp only [read, bind, Except.bind] at h
          cases made : Frame.ofColumns? columns with
          | none => rw [made] at h; cases h
          | some g' =>
              rw [made] at h
              cases h
              obtain rfl := (ofColumns?_eq_some (nonempty names)).1 made
              exact ⟨names, each⟩
    · rintro ⟨names, columns⟩
      rw [(mapM_readColumn (length_namesRead f)).2 ⟨names, columns⟩]
      simp only [bind, Except.bind, (ofColumns?_eq_some (nonempty names)).2 rfl]
      rfl
  · refine iff_of_false ?_ fun h => uncompressed h.1
    rw [parse, if_pos (by simpa using uncompressed)]
    nofun

end LabelForge.Csv
