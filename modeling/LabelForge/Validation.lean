import LabelForge.Expectations
import LabelForge.Report
import LabelForge.Table

/-!
# LabelForge.Validation

**Checking the output of a run.** The checks come in three groups that have to pass before there
is anything to compare (the run succeeded, its output is a table, every row has a label), and a
last group that is gone through completely: the rows, the columns, and the labels.

Design points:

* The first failure of the leading groups is reported alone.
* Labels are compared as they are counted, that is trimmed.
-/

namespace LabelForge.Validation

/-- The table that a run left behind, or what is wrong with it. -/
def artifact (d : Disk) : Option FilePath → Except Failure Frame
  | none => .error (.artifactMissing none)
  | some path =>
    if !d.isFile path then .error (.artifactMissing (some path))
    else match Table.read d path with
      | .ok frame => .ok frame
      | .error e => .error (.artifactUnreadable path e.message)

/-- The status column in which every row has a label, or what is wrong with it. -/
def status (f : Frame) (name : String) : Except Failure Column :=
  match f.column? name with
  | none => .error (.statusColumnMissing name)
  | some column =>
    let missing := column.missingCount
    if missing > 0 then .error (.statusColumnIncomplete name missing) else .ok column

/-- What is wrong with the number of rows and with the columns. -/
def shape (f : Frame) (rows : Nat) (columns : List String) : List Failure :=
  let missing := columns.filter fun name => (f.column? name).isNone
  (if f.rows == rows then [] else [.rowCountMismatch rows f.rows]) ++
    (if missing.isEmpty then [] else [.columnsMissing missing])

/-- What is wrong with the labels. -/
def labels (distribution : Tally) (e : Expectations) : List Failure :=
  let unassigned := e.required.filter fun label => !distribution.has label
  let unknown := distribution.labels.filter fun label => !e.allows label
  let miscounted := (e.counts.getD []).filter fun p => distribution.get p.1 != p.2
  unassigned.map Failure.labelNeverAssigned ++
    (if unknown.isEmpty then [] else [.unknownLabels unknown]) ++
    miscounted.map fun p => .labelCountMismatch p.1 p.2 (distribution.get p.1)

/-- The report on the output of a run. -/
def check (d : Disk) (run : Execution) (e : Expectations) (rows : Nat) : Report :=
  if !run.succeeded then .failed .executionNotSuccessful
  else match artifact d run.outputPath with
    | .error failure => .failed failure
    | .ok frame =>
      match status frame e.statusColumn with
      | .error failure => { Report.failed failure with rowCount := some frame.rows }
      | .ok column =>
        let distribution := column.counts
        let failures := shape frame rows e.inputColumns ++ labels distribution e
        { passed := failures.isEmpty, failures, rowCount := some frame.rows, distribution }

end LabelForge.Validation
