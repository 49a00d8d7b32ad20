import LabelForge.Proofs.Csv.Roundtrip

/-!
# LabelForge.Proofs.Csv.Survival

**Which texts a file keeps.** A column of texts is read again in the type that all of its texts look
like. A text survives this unless it is a token for a missing value, or the value it is read as is
printed differently: `007` among integers is read as seven, `TRUE` among truth values as `true`. In
a column that looks like text every text that is no token survives.
-/

namespace LabelForge

namespace Frame

/-- The column at a place is the one that is found under its name. -/
theorem column?_of_getElem? {f : Frame} {i : Nat} {c : Column} (h : f.columns[i]? = some c) :
    f.column? c.name = some c := by
  obtain ⟨bound, rfl⟩ := List.getElem?_eq_some_iff.1 h
  refine List.find?_eq_some_iff_getElem.2 ⟨beq_self_eq_true _, i, bound, rfl, fun j before => ?_⟩
  rw [Bool.not_eq_true', beq_eq_false_iff_ne]
  intro same
  have names : (f.columns.map Column.name)[j]? = (f.columns.map Column.name)[i]? := by
    rw [List.getElem?_map, List.getElem?_map, List.getElem?_eq_getElem bound,
      List.getElem?_eq_getElem (by omega), Option.map_some, Option.map_some, same]
  have equal := (List.getElem?_inj (by rw [List.length_map]; omega) f.distinct).1 names
  omega

theorem cell_of_getElem? {f : Frame} {i : Nat} {c : Column} (h : f.columns[i]? = some c)
    (row : Nat) : f.cell c.name row = c.cells.getD row .missing := by
  rw [cell, column?_of_getElem? h]

end Frame

namespace Csv

open Text (bytesOf)

/-! ### The shape of a column -/

theorem join_text_left (s : Shape) : Shape.join .text s = .text := by cases s <;> rfl

theorem join_text_right (s : Shape) : Shape.join s .text = .text := by cases s <;> rfl

theorem foldl_join_text (shapes : List Shape) : shapes.foldl Shape.join .text = .text := by
  induction shapes with
  | nil => rfl
  | cons s shapes ih => rw [List.foldl_cons, join_text_left, ih]

/-- One text makes the column one of texts. -/
theorem columnShape_eq_text {shapes : List Shape} (h : .text ∈ shapes) :
    columnShape shapes = .text := by
  obtain ⟨s, shapes, rfl⟩ := List.exists_cons_of_ne_nil (List.ne_nil_of_mem h)
  rw [columnShape]
  rcases List.mem_cons.1 h with rfl | mem
  · exact foldl_join_text shapes
  · obtain ⟨before, after, rfl⟩ := List.append_of_mem mem
    rw [List.foldl_append, List.foldl_cons, join_text_right, foldl_join_text]

/-! ### Texts that come back -/

/-- The value of a text in a column of a shape. -/
def Shape.valueOf? : Shape → String → Option Cell
  | .text, s => some (.text s)
  | .bool, s => (boolValue? s).map .bool
  | .int, s => (intValue? s).map .int
  | .float, s => (floatValue? s).map .real

/-- A text that comes back from a file in which it stands in a column with others: it is no token,
and in the shape of the column it is the text of its own value. -/
structure Survives (texts : List String) (s : String) : Prop where
  value : s ∉ missingTokens
  same : ∃ cell, (columnShape (texts.map shapeOf)).valueOf? s = some cell ∧ cell.render = s

/-- In a column that looks like text, every text comes back that is no token. -/
theorem survives_text {texts : List String} {s : String}
    (looks : columnShape (texts.map shapeOf) = .text) :
    Survives texts s ↔ s ∉ missingTokens :=
  ⟨Survives.value, fun value => ⟨value, .text s, by rw [looks]; rfl, rfl⟩⟩

/-- The column of some texts. -/
def textColumn (name : String) (texts : List String) : Column :=
  ⟨name, .text, texts.map Cell.text⟩

theorem cellsFound_textColumn (name : String) (texts : List String) :
    cellsFound (textColumn name texts) = texts.map readBack? := by
  rw [cellsFound, textColumn, List.map_map]
  refine List.map_congr_left fun s _ => ?_
  rw [Function.comp_apply, cellReadBack?, if_neg (by simp)]
  rfl

/-- If none of the texts is a token, the shape of their column is told by all of them. -/
theorem shapeRead_textColumn {name : String} {texts : List String}
    (values : ∀ s ∈ texts, s ∉ missingTokens) :
    shapeRead (textColumn name texts) = columnShape (texts.map shapeOf) := by
  have found : (texts.map readBack?).filterMap (fun t => t.map fun t => shapeOf t.content) =
      texts.map shapeOf := by
    induction texts with
    | nil => rfl
    | cons s texts ih =>
        obtain ⟨first, others⟩ := List.forall_mem_cons.1 values
        have here : readBack? s = some ⟨bareText s, s, true⟩ := by
          rw [readBack?, if_neg (by simpa using first)]
        rw [List.map_cons, here, List.filterMap_cons, ih others]
        rfl
  rw [shapeRead, cellsFound_textColumn, found]

/-- A text that is no token is read as its value in the shape of its column. -/
theorem cellOf_readBack? {shape : Shape} {s : String} (value : s ∉ missingTokens)
    (plain : shape ≠ .text → '"' ∉ s.toList) (cell : Cell) :
    cellOf shape (readBack? s) = .ok cell ↔ shape.valueOf? s = some cell := by
  rw [readBack?, if_neg (by simpa using value)]
  have same : shape ≠ .text → bareText s = s := fun h => bareText_eq_self (plain h)
  cases shape with
  | text => simp [cellOf, Shape.valueOf?]
  | bool => simp only [cellOf, same (by decide), Shape.valueOf?]; cases boolValue? s <;> simp
  | int => simp only [cellOf, same (by decide), Shape.valueOf?]; cases intValue? s <;> simp
  | float => simp only [cellOf, same (by decide), Shape.valueOf?]; cases floatValue? s <;> simp

/-- Texts that stay apart from their quotes only in a column of texts. -/
theorem quote_not_mem {texts : List String} {s : String} (mem : s ∈ texts)
    (shape : columnShape (texts.map shapeOf) ≠ .text) : '"' ∉ s.toList :=
  fun quoted => shape (columnShape_eq_text (List.mem_map.2 ⟨s, mem, shapeOf_eq_text quoted⟩))

/-- **A column of texts comes back if all of its texts do.** -/
theorem readCells_texts_iff {name : String} {texts : List String} :
    (∃ cells, readCells (textColumn name texts) = .ok cells ∧ cells.map Cell.render = texts) ↔
      ∀ s ∈ texts, Survives texts s := by
  simp only [readCells, mapM_eq_ok, cellsFound_textColumn, List.map_map]
  constructor
  · rintro ⟨cells, each, rfl⟩
    rw [List.map_map, List.map_inj_left] at each
    have values : ∀ s ∈ cells.map Cell.render, s ∉ missingTokens := by
      intro s mem token
      obtain ⟨cell, listed, rfl⟩ := List.mem_map.1 mem
      -- a token would be read as a missing cell, which has no text
      have missing := each cell listed
      simp only [Function.comp_apply, readBack?, List.contains_iff_mem.2 token, if_true, cellOf,
        Except.ok.injEq] at missing
      rw [← missing] at token
      exact absurd token (by decide)
    intro s mem
    obtain ⟨cell, listed, rfl⟩ := List.mem_map.1 mem
    have here := each cell listed
    rw [Function.comp_apply, Function.comp_apply, shapeRead_textColumn values,
      cellOf_readBack? (values _ mem) (quote_not_mem mem)] at here
    exact ⟨values _ mem, cell, here, rfl⟩
  · intro survive
    have values : ∀ s ∈ texts, s ∉ missingTokens := fun s mem => (survive s mem).value
    let value (s : String) : Cell := ((columnShape (texts.map shapeOf)).valueOf? s).getD .missing
    have each : ∀ s ∈ texts, cellOf (shapeRead (textColumn name texts)) (readBack? s) =
        .ok (value s) ∧ (value s).render = s := by
      intro s mem
      obtain ⟨cell, read, same⟩ := (survive s mem).same
      have here : value s = cell := by simp only [value, read, Option.getD_some]
      rw [here, shapeRead_textColumn values, cellOf_readBack? (values s mem) (quote_not_mem mem)]
      exact ⟨read, same⟩
    refine ⟨texts.map value, ?_, ?_⟩
    · rw [List.map_map]
      exact List.map_congr_left fun s mem => (each s mem).1
    · rw [List.map_map]
      exact (List.map_congr_left fun s mem => (each s mem).2).trans (List.map_id texts)

/-! ### A column among others -/

/-- What remains of the texts of a column when its table has been written and read: there are as
many rows, the column is in its place under its name, and in every row it has the same text. -/
structure Keeps (f g : Frame) (name : String) : Prop where
  rows : g.rows = f.rows
  place : ∀ i : Nat, f.names[i]? = some name → g.names[i]? = some name
  texts : ∀ row < f.rows, (g.cell name row).render = (f.cell name row).render

/-- What has to be right with a table beside the texts of a column: it does not begin like a
compressed file, its headings are read as distinct names and that of the column as its name, and all
other columns can be read in the types of their cells. -/
structure Legible (f : Frame) (name : String) : Prop where
  uncompressed : isCompressed (bytesOf (print f)) = false
  distinct : (namesRead f).Nodup
  heading : ∀ i : Nat, f.names[i]? = some name → (namesRead f)[i]? = some name
  others : ∀ c ∈ f.columns, c.name ≠ name → ∃ cells, readCells c = .ok cells

variable {f : Frame} {name : String} {texts : List String}

/-- If the first heading does not begin with a mark, and the name of the column has no quote in it,
the headings are read as distinct names and that of the column as its name. -/
theorem headings_kept (unmarked : ∀ first ∈ f.names.head?, first.toList.head? ≠ some markChar)
    (plain : '"' ∉ name.toList) :
    (namesRead f).Nodup ∧
      ∀ i : Nat, f.names[i]? = some name → (namesRead f)[i]? = some name := by
  rw [namesRead_eq unmarked]
  refine ⟨nodup_bareText, fun i here => ?_⟩
  rw [List.getElem?_map, here, Option.map_some, bareText_eq_self plain]

/-- The values of cells that were read. -/
def valuesOf : Except CsvError (List Cell) → List Cell
  | .ok cells => cells
  | .error _ => []

theorem ReadAs.rows {g : Frame} (read : ReadAs f g) (wide : f.columns ≠ []) : g.rows = f.rows := by
  obtain ⟨c, cs, columns⟩ := List.exists_cons_of_ne_nil wide
  obtain ⟨d, found, as⟩ := read.columns 0 c (by rw [columns]; rfl)
  rw [← g.aligned d (List.mem_of_getElem? found), as.length,
    f.aligned c (columns ▸ List.mem_cons_self ..)]

/-- Columns that can be read are read as those of a table if their headings are distinct. -/
theorem exists_readAs (distinct : (namesRead f).Nodup)
    (each : ∀ c ∈ f.columns, ∃ cells, readCells c = .ok cells) : ∃ g, ReadAs f g := by
  have same := length_namesRead f
  have read : ((namesRead f).zip f.columns).mapM (fun p => readColumn p.1 p.2) = .ok _ :=
    mapM_ok (h := fun p => ⟨p.1, (shapeRead p.2).dataType, valuesOf (readCells p.2)⟩) (by
      intro p mem
      obtain ⟨cells, read⟩ := each p.2 (List.of_mem_zip mem).2
      rw [readColumn, read]
      rfl)
  generalize ((namesRead f).zip f.columns).map _ = ds at read
  obtain ⟨names, columns⟩ := (mapM_readColumn same).1 read
  have aligned : ∀ d ∈ ds, d.cells.length = f.rows := by
    intro d mem
    obtain ⟨i, bound, rfl⟩ := List.mem_iff_getElem.1 mem
    have length : i < f.columns.length := by
      rwa [← same, ← names, List.length_map]
    obtain ⟨d, found, as⟩ := columns i _ (List.getElem?_eq_getElem length)
    cases (List.getElem?_eq_getElem bound).symm.trans found
    rw [as.length, f.aligned _ (List.getElem_mem length)]
  exact ⟨⟨f.rows, ds, aligned, names ▸ distinct⟩, names, columns⟩

/-- Cells have some texts if they have them row by row. -/
theorem renders_iff {cells : List Cell} (length : cells.length = texts.length) :
    (∀ row < texts.length, (cells.getD row .missing).render =
      ((texts.map Cell.text).getD row .missing).render) ↔ cells.map Cell.render = texts := by
  have cell {row : Nat} (h : row < texts.length) : cells.getD row .missing = cells[row] := by
    rw [List.getD_eq_getElem?_getD, List.getElem?_eq_getElem, Option.getD_some]
  have text {row : Nat} (h : row < texts.length) :
      ((texts.map Cell.text).getD row .missing).render = texts[row] := by
    rw [List.getD_eq_getElem?_getD, List.getElem?_map, List.getElem?_eq_getElem h]
    rfl
  constructor
  · intro same
    refine List.ext_getElem (by rw [List.length_map, length]) fun row _ bound => ?_
    rw [List.getElem_map, ← cell bound, same row bound, text bound]
  · intro same row bound
    have mapped : row < (cells.map Cell.render).length := same.symm ▸ bound
    rw [cell bound, text bound, ← List.getElem_map Cell.render (h := mapped)]
    simp only [same]

/-- **The texts of a column come back exactly if the table is legible and each text survives.** -/
theorem keeps_iff (listed : textColumn name texts ∈ f.columns)
    (named : f.names ≠ [String.singleton markChar]) :
    (∃ g, parse (bytesOf (print f)) = .ok g ∧ Keeps f g name) ↔
      Legible f name ∧ ∀ s ∈ texts, Survives texts s := by
  have wide : f.columns ≠ [] := List.ne_nil_of_mem listed
  have headed := line_headFieldsRead_ne_nil wide named
  obtain ⟨k, column⟩ := List.mem_iff_getElem?.1 listed
  have there : f.names[k]? = some name := by rw [Frame.names, List.getElem?_map, column]; rfl
  have length : texts.length = f.rows := by
    rw [← f.aligned _ listed, textColumn, List.length_map]
  -- in a table whose column at this place has the name, the texts of its cells are compared
  have compared {g : Frame} {d : Column} (found : g.columns[k]? = some d) (same : d.name = name)
      (as : ColumnAs (textColumn name texts) d) :
      (∀ row < f.rows, (g.cell name row).render = (f.cell name row).render) ↔
        d.cells.map Cell.render = texts := by
    have cells : d.cells.length = texts.length := by
      rw [as.length, textColumn, List.length_map]
    rw [← renders_iff cells, length]
    refine forall_congr' fun row => forall_congr' fun _ => ?_
    rw [← Frame.cell_of_getElem? found row, same]
    have written : f.cell name row = (texts.map Cell.text).getD row .missing :=
      Frame.cell_of_getElem? column row
    rw [written]
  have name_of {g : Frame} {d : Column} (found : g.columns[k]? = some d)
      (place : g.names[k]? = some name) : d.name = name := by
    rwa [Frame.names, List.getElem?_map, found, Option.map_some, Option.some.injEq] at place
  simp only [parse_print_eq_ok wide headed]
  constructor
  · rintro ⟨g, ⟨uncompressed, read⟩, kept⟩
    have heading (i : Nat) (here : f.names[i]? = some name) : (namesRead f)[i]? = some name :=
      read.names ▸ kept.place i here
    refine ⟨⟨uncompressed, read.names ▸ g.distinct, heading, ?_⟩, ?_⟩
    · intro c mem _
      obtain ⟨i, found⟩ := List.mem_iff_getElem?.1 mem
      obtain ⟨d, -, as⟩ := read.columns i c found
      exact ⟨d.cells, as.cells⟩
    · obtain ⟨d, found, as⟩ := read.columns k _ column
      have same := (compared found (name_of found (kept.place k there)) as).1 kept.texts
      exact readCells_texts_iff.1 ⟨d.cells, as.cells, same⟩
  · rintro ⟨legible, survive⟩
    obtain ⟨cells, readTexts, same⟩ : ∃ cells, readCells (textColumn name texts) = .ok cells ∧
        cells.map Cell.render = texts := readCells_texts_iff.2 survive
    have readable : ∀ c ∈ f.columns, ∃ cells, readCells c = .ok cells := by
      intro c mem
      by_cases other : c.name = name
      · obtain ⟨i, found⟩ := List.mem_iff_getElem?.1 mem
        have own := Frame.column?_of_getElem? found
        have listed : f.column? name = some (textColumn name texts) :=
          Frame.column?_of_getElem? column
        rw [other, listed, Option.some.injEq] at own
        exact ⟨cells, own ▸ readTexts⟩
      · exact legible.others c mem other
    obtain ⟨g, read⟩ := exists_readAs legible.distinct readable
    have place : ∀ i : Nat, f.names[i]? = some name → g.names[i]? = some name :=
      fun i here => read.names ▸ legible.heading i here
    obtain ⟨d, found, as⟩ := read.columns k _ column
    refine ⟨g, ⟨legible.uncompressed, read⟩, read.rows wide, place, ?_⟩
    refine (compared found (name_of found (place k there)) as).2 ?_
    rw [Except.ok.inj (as.cells.symm.trans readTexts)]
    exact same

end Csv

end LabelForge
