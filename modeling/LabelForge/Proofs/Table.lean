import LabelForge.Proofs.Csv.Survival
import LabelForge.Proofs.Disk
import LabelForge.Proofs.Labelling
import LabelForge.Table

/-!
# LabelForge.Proofs.Table

**Labels in the output file.** A labelled table is written to a file, and the file is read again
when the output is checked. Reading infers types and takes some words for missing values, so labels
come back only under conditions: the table as a whole has to be legible, and every label has to
survive in the type that all assigned labels look like.
-/

namespace LabelForge

open Text (bytesOf)

/-- What is read from a file to which a table was written is what its text is read as. -/
theorem Table.read_write {f : Frame} {d d' : Disk} {path : FilePath}
    (wrote : Table.write f d path = (.ok (), d')) (file : d'.isFile path = true) {g : Frame} :
    Table.read d' path = .ok g ↔ Csv.parse (bytesOf (Csv.print f)) = .ok g := by
  have content : d'.read path = .ok (bytesOf (Csv.print f)) := by
    unfold Table.write at wrote
    split at wrote
    · cases wrote
    · split at wrote
      · cases wrote
      · split at wrote
        · cases wrote
        · rename_i written
          cases wrote
          exact Disk.read_write written file
  simp only [Table.read, file, content, Bool.not_true, Bool.false_eq_true, if_false]
  cases Csv.parse (bytesOf (Csv.print f)) <;> simp

/-- A table to which a plan was applied has a column of the labels that were chosen. -/
theorem Plan.listed_apply {p : Plan} {f g : Frame} (h : p.apply f = .ok g) :
    ∃ assigned, Csv.textColumn p.statusColumn assigned ∈ g.columns ∧ assigned.length = g.rows ∧
      ∀ (row : Nat) (label : String), assigned[row]? = some label →
        g.cell p.statusColumn row = .text label ∧ label = p.choice.eval f row := by
  obtain ⟨assigned, listed⟩ : ∃ assigned, Csv.textColumn p.statusColumn assigned ∈ g.columns := by
    obtain ⟨-, ⟨-, rfl⟩ | ⟨-, rfl⟩⟩ := apply_eq_ok h
    · exact ⟨_, List.mem_singleton_self _⟩
    · exact ⟨_, List.mem_of_find?_eq_some
        (Frame.column?_place (p.statusColumnOf (p.prepared f)) f.columns)⟩
  have length : assigned.length = g.rows := by
    rw [← g.aligned _ listed, Csv.textColumn, List.length_map]
  refine ⟨assigned, listed, length, fun row label found => ?_⟩
  obtain ⟨k, column⟩ := List.mem_iff_getElem?.1 listed
  have cell : g.cell p.statusColumn row = (assigned.map Cell.text).getD row .missing :=
    Frame.cell_of_getElem? column row
  have here : g.cell p.statusColumn row = .text label := by
    rw [cell, List.getD_eq_getElem?_getD, List.getElem?_map, found]
    rfl
  have bound : row < g.rows := length ▸ (List.getElem?_eq_some_iff.1 found).1
  refine ⟨here, Cell.text.inj (here.symm.trans ?_)⟩
  rw [← eval_choice_prepared]
  exact cell_apply h bound

/-- **Labels in the output file.** A plan has been applied to a table, and the labelled table has
been written to a file. Reading the file gives as many rows, and in its place a column of labels
with the same texts, exactly if the table is legible apart from the labels and each assigned label
survives: it stands for no missing value, and it is the text of the value that it is read as in the
type that all assigned labels look like. Not considered is the table whose only heading is a byte
order mark. -/
theorem labels_kept_iff {s : RuleSet} {policy : TieBreak} {labels : Labels} {f g : Frame}
    {d d' : Disk} {path : FilePath} (applied : (Plan.compile s policy labels).apply f = .ok g)
    (named : g.names ≠ [String.singleton Csv.markChar])
    (wrote : Table.write g d path = (.ok (), d')) (file : d'.isFile path = true) :
    ∃ assigned : List String, assigned.length = g.rows ∧
      (∀ (row : Nat) (label : String), assigned[row]? = some label →
        g.cell labels.statusColumn row = .text label ∧ s.Assigns policy labels f row label) ∧
      ((∃ h, Table.read d' path = .ok h ∧ Csv.Keeps g h labels.statusColumn) ↔
        Csv.Legible g labels.statusColumn ∧
          ∀ label ∈ assigned, Csv.Survives assigned label) := by
  obtain ⟨assigned, listed, length, chosen⟩ := Plan.listed_apply applied
  refine ⟨assigned, length, fun row label found => ?_, ?_⟩
  · obtain ⟨cell, rfl⟩ := chosen row label found
    exact ⟨cell, s.assigns_choice policy labels f row⟩
  · simp only [Table.read_write wrote file]
    exact Csv.keeps_iff listed named

/-! ### A label that is taken for a missing value -/

/-- A rule for all records. -/
def soleLabel (action : String) : RuleSet := ⟨[⟨"all", "All stock", .always, action, 1, none⟩]⟩

/-- The table `agedStock` with the label of that rule. -/
def labelledStock (action : String) : Frame where
  rows := 3
  columns := [⟨"age", .int .i64, [.int 200, .int 200, .missing]⟩,
    Csv.textColumn "Status" [action, action, action]]
  aligned := by simp [Csv.textColumn]
  distinct := by
    show ["age", "Status"].Nodup
    decide

/-- A disk with nothing but its root. -/
def bareDisk : Disk := ⟨.directory .none, []⟩

/-- That disk after a table has been written to `out.csv`. -/
def labelledDisk (f : Frame) : Disk :=
  ⟨.directory (.entry "out.csv" (.file (bytesOf (Csv.print f))) .none), []⟩

theorem apply_soleLabel (action : String) :
    (Plan.compile (soleLabel action) .specificityFirst {}).apply agedStock =
      .ok (labelledStock action) := by
  have ranked : TieBreak.specificityFirst.ranked (soleLabel action).rules =
      (soleLabel action).rules.zipIdx := List.mergeSort_singleton _
  rw [Plan.compile, ranked]
  rfl

theorem walk_out (d : Disk) (es : FileTree.Entries) (root : d.files = .directory es)
    (cwd : d.cwd = []) : d.walk ⟨"out.csv"⟩ = .ok ["out.csv"] := by
  rw [Disk.walks_out.walk, cwd, root]
  rfl

theorem write_bareDisk (f : Frame) :
    Table.write f bareDisk ⟨"out.csv"⟩ = (.ok (), labelledDisk f) := by
  have noSlash := Disk.walks_out.open_
  have dirs : bareDisk.makeDirs ⟨""⟩ = (.ok (), bareDisk) := rfl
  have first : bareDisk.write ⟨"out.csv"⟩ [] =
      .ok ⟨.directory (.entry "out.csv" (.file []) .none), []⟩ := by
    simp only [Disk.write, Disk.target, noSlash, walk_out bareDisk _ rfl rfl]
    rfl
  have second (content : Text.Bytes) :
      (⟨.directory (.entry "out.csv" (.file []) .none), []⟩ : Disk).write ⟨"out.csv"⟩ content =
        .ok ⟨.directory (.entry "out.csv" (.file content) .none), []⟩ := by
    simp only [Disk.write, Disk.target, noSlash, walk_out ⟨.directory _, []⟩ _ rfl rfl]
    rfl
  simp only [Table.write, Table.makeParent, Disk.parent?_out, dirs, first, second]
  rfl

theorem isFile_labelledDisk (f : Frame) : (labelledDisk f).isFile ⟨"out.csv"⟩ = true := by
  simp only [Disk.isFile, Disk.locate, walk_out (labelledDisk f) _ rfl rfl, Disk.walks_out.open_]
  rfl

theorem isCompressed_labelledStock (action : String) :
    Csv.isCompressed (bytesOf (Csv.print (labelledStock action))) = false := by
  have begins : Csv.textField "age" = [0x61, 0x67, 0x65] := by decide +kernel
  have fields : Csv.headFields (labelledStock action) =
      [Csv.textField "age", Csv.textField "Status"] := rfl
  rw [Csv.bytesOf_print, Csv.linesOf_cons, fields, Csv.line_cons (List.cons_ne_nil _ _), begins]
  rfl

theorem unmarked_labelledStock (action : String) :
    ∀ first ∈ (labelledStock action).names.head?, first.toList.head? ≠ some Csv.markChar := by
  have first : (labelledStock action).names.head? = some "age" := rfl
  rw [first]
  decide

/-- The table that is read where the label is a token. -/
def lostStock : Frame where
  rows := 3
  columns := [⟨"age", .int .i64, [.int 200, .int 200, .missing]⟩,
    ⟨"Status", .text, [.missing, .missing, .missing]⟩]
  aligned := by decide
  distinct := by decide

/-- The ages are read as they were written. -/
theorem readCells_ages : Csv.readCells ⟨"age", .int .i64, [.int 200, .int 200, .missing]⟩ =
    .ok [.int 200, .int 200, .missing] := by
  have found : Csv.cellsFound ⟨"age", .int .i64, [.int 200, .int 200, .missing]⟩ =
      [some ⟨"200", "200", true⟩, some ⟨"200", "200", true⟩, none] := by decide +kernel
  have shape : Csv.shapeRead ⟨"age", .int .i64, [.int 200, .int 200, .missing]⟩ = .int := by
    decide +kernel
  have value : Csv.intValue? "200" = some 200 := by decide +kernel
  simp only [Csv.readCells, found, shape, Csv.mapM_eq_ok, List.map_cons, Csv.cellOf, value]
  rfl

/-- Nothing is read of a token. -/
theorem readCells_tokens (name : String) :
    Csv.readCells (Csv.textColumn name ["NA", "NA", "NA"]) =
      .ok [.missing, .missing, .missing] := by
  have found : Csv.cellsFound (Csv.textColumn name ["NA", "NA", "NA"]) = [none, none, none] := by
    rw [Csv.cellsFound_textColumn]
    decide
  simp only [Csv.readCells, found]
  rfl

theorem readAs_lostStock : Csv.ReadAs (labelledStock "NA") lostStock := by
  have names : (labelledStock "NA").names.map Csv.bareText = lostStock.names := by decide
  refine ⟨((Csv.namesRead_eq (unmarked_labelledStock "NA")).trans names).symm, ?_⟩
  rintro (_ | _ | _ | i) c found
  · cases found
    exact ⟨_, rfl, by decide +kernel, readCells_ages⟩
  · cases found
    exact ⟨_, rfl, by decide +kernel, readCells_tokens "Status"⟩
  · cases found
  · cases found

/-- **A label that does not come back.** The rule set has no defect and the default label is not
blank, and yet no row of the file has the label that it was given. -/
theorem lost_na : (soleLabel "NA").defect? = none ∧
    Text.isBlankText ({} : Labels).defaultLabel = false ∧
    (Plan.compile (soleLabel "NA") .specificityFirst {}).apply agedStock =
      .ok (labelledStock "NA") ∧
    ∃ d', Table.write (labelledStock "NA") bareDisk ⟨"out.csv"⟩ = (.ok (), d') ∧
      d'.isFile ⟨"out.csv"⟩ = true ∧
      ∃ h, Table.read d' ⟨"out.csv"⟩ = .ok h ∧ h.rows = (labelledStock "NA").rows ∧
        ∀ row < h.rows, (h.cell "Status" row).render = "" ∧
          ((labelledStock "NA").cell "Status" row).render = "NA" := by
  refine ⟨by decide, by decide, apply_soleLabel "NA", _, write_bareDisk _, isFile_labelledDisk _,
    lostStock, ?_, rfl, by decide⟩
  have named : (labelledStock "NA").names ≠ [String.singleton Csv.markChar] := nofun
  rw [Table.read_write (write_bareDisk _) (isFile_labelledDisk _),
    Csv.parse_print_eq_ok (List.cons_ne_nil _ _)
      (Csv.line_headFieldsRead_ne_nil (List.cons_ne_nil _ _) named)]
  exact ⟨isCompressed_labelledStock "NA", readAs_lostStock⟩

/-- Another label of the rule comes back. -/
theorem labels_kept_iff_sell :
    (Plan.compile (soleLabel "sell") .specificityFirst {}).apply agedStock =
        .ok (labelledStock "sell") ∧
      ∃ d', Table.write (labelledStock "sell") bareDisk ⟨"out.csv"⟩ = (.ok (), d') ∧
        ∃ h, Table.read d' ⟨"out.csv"⟩ = .ok h ∧ Csv.Keeps (labelledStock "sell") h "Status" := by
  have named : (labelledStock "sell").names ≠ [String.singleton Csv.markChar] := nofun
  obtain ⟨assigned, length, chosen, kept⟩ := labels_kept_iff (apply_soleLabel "sell") named
    (write_bareDisk _) (isFile_labelledDisk _)
  obtain ⟨distinct, heading⟩ := Csv.headings_kept (unmarked_labelledStock "sell")
    (show '"' ∉ "Status".toList by decide)
  refine ⟨apply_soleLabel "sell", _, write_bareDisk _, kept.2 ⟨?_, ?_⟩⟩
  · exact {
      uncompressed := isCompressed_labelledStock "sell"
      distinct := distinct
      heading := heading
      others := by
        intro c mem other
        obtain rfl | mem := List.mem_cons.1 mem
        · exact ⟨_, readCells_ages⟩
        · exact absurd (List.mem_singleton.1 mem ▸ rfl) other }
  · have cells : ∀ row < 3, (labelledStock "sell").cell "Status" row = .text "sell" := by decide
    have length : assigned.length = 3 := length
    have same : assigned = List.replicate 3 "sell" := by
      refine List.eq_replicate_iff.2 ⟨length, fun label mem => ?_⟩
      obtain ⟨row, found⟩ := List.mem_iff_getElem?.1 mem
      have bound : row < 3 := length ▸ (List.getElem?_eq_some_iff.1 found).1
      exact Cell.text.inj ((chosen row label found).1.symm.trans (cells row bound))
    subst same
    have looks : Csv.columnShape ((List.replicate 3 "sell").map Csv.shapeOf) = .text := by
      decide +kernel
    intro label mem
    rw [Csv.survives_text looks, List.eq_of_mem_replicate mem]
    decide

end LabelForge
