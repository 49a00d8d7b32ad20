import LabelForge.Execution
import LabelForge.Tally

/-!
# LabelForge.Report

**What the checks found.** A report says whether an output passed, lists every failure with the
data that belongs to it, and gives the counts that were observed.

Design points:

* Every failure has a stable code, which documents and tests go by, and a message for people.
* A *hard* failure means that there was no table of labels to look at; the report then holds
  that failure alone.
* The rendered report is shown to operators and handed to the next attempt.
-/

namespace LabelForge

/-- A check that an output did not pass. -/
inductive Failure where
  /-- The run did not succeed, so there is nothing to check. -/
  | executionNotSuccessful
  /-- There is no output file. -/
  | artifactMissing (path : Option FilePath)
  /-- The output file is no table. -/
  | artifactUnreadable (path : FilePath) (message : String)
  /-- The status column is missing. -/
  | statusColumnMissing (column : String)
  /-- The status column has missing or blank cells. -/
  | statusColumnIncomplete (column : String) (missing : Nat)
  /-- The output has another number of rows than the input. -/
  | rowCountMismatch (expected observed : Nat)
  /-- Columns of the input are missing from the output. -/
  | columnsMissing (columns : List String)
  /-- No row has a label that some row must get. -/
  | labelNeverAssigned (label : String)
  /-- Rows have labels that no rule assigns. -/
  | unknownLabels (labels : List String)
  /-- A label occurs more or less often than expected. -/
  | labelCountMismatch (label : String) (expected observed : Nat)
  deriving DecidableEq, Repr

namespace Failure

/-- The stable word for a failure. -/
def code : Failure → String
  | .executionNotSuccessful => "execution_not_successful"
  | .artifactMissing .. => "artifact_missing"
  | .artifactUnreadable .. => "artifact_unreadable"
  | .statusColumnMissing .. => "status_column_missing"
  | .statusColumnIncomplete .. => "status_column_incomplete"
  | .rowCountMismatch .. => "row_count_mismatch"
  | .columnsMissing .. => "columns_missing"
  | .labelNeverAssigned .. => "label_never_assigned"
  | .unknownLabels .. => "unknown_labels"
  | .labelCountMismatch .. => "label_count_mismatch"

/-- Whether the failure ends the checks. -/
def isHard : Failure → Bool
  | .executionNotSuccessful => true
  | .artifactMissing .. => true
  | .artifactUnreadable .. => true
  | .statusColumnMissing .. => true
  | .statusColumnIncomplete .. => true
  | _ => false

/-- The message of a failure. -/
def message : Failure → String
  | .executionNotSuccessful => "execution did not succeed; output was not inspected"
  | .artifactMissing (some path) => s!"output file {path.text} was not written"
  | .artifactMissing none => "no output file was produced"
  | .artifactUnreadable path message =>
    s!"output file {path.text} is not a readable table: {message}"
  | .statusColumnMissing column => s!"'{column}' column missing from output"
  | .statusColumnIncomplete column missing => s!"{missing} rows have an empty '{column}' value"
  | .rowCountMismatch expected observed =>
    s!"output has {observed} rows but input has {expected}; " ++
      "rows must never be dropped or duplicated"
  | .columnsMissing columns => "input columns missing from output: " ++ ", ".intercalate columns
  | .labelNeverAssigned label =>
    s!"label '{label}' never assigned although some input records satisfy its rule"
  | .unknownLabels labels =>
    "labels not produced by any rule or the default: " ++ ", ".intercalate labels
  | .labelCountMismatch label expected observed => s!"{label}: expected {expected}, got {observed}"

/-- The line of a failure in a report. -/
def line (f : Failure) : String :=
  s!"- [{f.code}] {f.message}"

end Failure

/-- The result of checking one execution. -/
structure Report where
  passed : Bool := false
  failures : List Failure := []
  rowCount : Option Nat := none
  distribution : Tally := []
  deriving DecidableEq, Repr

namespace Report

/-- The report of a single failure. -/
def failed (f : Failure) : Report :=
  { failures := [f] }

/-- The codes of the failures, in order. -/
def codes (r : Report) : List String :=
  r.failures.map Failure.code

/-- Whether a failure with the code is among the failures. -/
def has (r : Report) (code : String) : Bool :=
  r.codes.contains code

/-- The lines of the rendered report. -/
def lines (r : Report) : List String :=
  (if r.passed then "Validation passed." else "VALIDATION FAIL:") ::
    r.failures.map Failure.line ++
    (match r.rowCount with
      | none => []
      | some n => [s!"Total rows: {n}"]) ++
    (if r.distribution.isEmpty then []
      else "Label distribution:" :: r.distribution.map fun p => s!"  {p.1}: {p.2}")

/-- The report as text. -/
def render (r : Report) : String :=
  "\n".intercalate r.lines

end Report

/-! ### Documents -/

open Json

namespace Failure

/-- The fields of a failure in its document. -/
def fields : Failure → List (String × Json)
  | .executionNotSuccessful => []
  | .artifactMissing path => [("path", .ofOption (fun p => .ofText p.text) path)]
  | .artifactUnreadable path message => [("path", .ofText path.text), ("message", .ofText message)]
  | .statusColumnMissing column => [("column", .ofText column)]
  | .statusColumnIncomplete column missing =>
    [("column", .ofText column), ("missing_count", .ofNat missing)]
  | .rowCountMismatch expected observed =>
    [("expected", .ofNat expected), ("observed", .ofNat observed)]
  | .columnsMissing columns => [("columns", .ofItems (columns.map .ofText))]
  | .labelNeverAssigned label => [("label", .ofText label)]
  | .unknownLabels labels => [("labels", .ofItems (labels.map .ofText))]
  | .labelCountMismatch label expected observed =>
    [("label", .ofText label), ("expected", .ofNat expected), ("observed", .ofNat observed)]

/-- The document of a failure. -/
def toJson (f : Failure) : Json :=
  .ofMembers (("code", .ofText f.code) :: f.fields)

/-- A count of rows. -/
def count : Decoder Nat := asNat 64

/-- Decodes the fields of a failure, given its code. -/
def decodeFields (code : String) (j : Json) : Except Fault Failure := do
  let texts := asList asText
  let path := asOption Execution.pathDecoder
  match code with
  | "execution_not_successful" =>
    match j with
    | .array (.cons ..) => throw .mismatch
    | _ => return .executionNotSuccessful
  | "artifact_missing" =>
    let found ← gather [.optional "path" path] j
    return .artifactMissing (← found.getD "path" path none)
  | "artifact_unreadable" =>
    let found ← gather [.required "path" Execution.pathDecoder, .required "message" asText] j
    return .artifactUnreadable (← found.get "path" Execution.pathDecoder)
      (← found.get "message" asText)
  | "status_column_missing" =>
    let found ← gather [.required "column" asText] j
    return .statusColumnMissing (← found.get "column" asText)
  | "status_column_incomplete" =>
    let found ← gather [.required "column" asText, .required "missing_count" count] j
    return .statusColumnIncomplete (← found.get "column" asText) (← found.get "missing_count" count)
  | "row_count_mismatch" =>
    let found ← gather [.required "expected" count, .required "observed" count] j
    return .rowCountMismatch (← found.get "expected" count) (← found.get "observed" count)
  | "columns_missing" =>
    let found ← gather [.required "columns" texts] j
    return .columnsMissing (← found.get "columns" texts)
  | "label_never_assigned" =>
    let found ← gather [.required "label" asText] j
    return .labelNeverAssigned (← found.get "label" asText)
  | "unknown_labels" =>
    let found ← gather [.required "labels" texts] j
    return .unknownLabels (← found.get "labels" texts)
  | "label_count_mismatch" =>
    let found ← gather
      [.required "label" asText, .required "expected" count, .required "observed" count] j
    return .labelCountMismatch (← found.get "label" asText) (← found.get "expected" count)
      (← found.get "observed" count)
  | _ => throw .mismatch

/-- Decodes a failure: an object with its code and its fields, or an array of them in order. -/
def decoder : Decoder Failure := fun j => do
  match j with
  | .array (.cons code rest) => decodeFields (← asText code) (.array rest)
  | .object _ =>
    let found ← gather [.required "code" asText] j
    decodeFields (← found.get "code" asText) j
  | j => throw (unwanted j)

end Failure

namespace Report

/-- Decodes a report. -/
def decoder : Decoder Report := fun j => do
  let failures := asList Failure.decoder
  let rows := asOption (asNat 64)
  let found ← gather [.required "passed" asBool, .required "failures" failures,
    .optional "observed_row_count" rows,
    .required "observed_label_distribution" Tally.decoder] j
  return {
    passed := ← found.get "passed" asBool
    failures := ← found.get "failures" failures
    rowCount := ← found.getD "observed_row_count" rows none
    distribution := ← found.get "observed_label_distribution" Tally.decoder }

/-- The document of a report. -/
def toJson (r : Report) : Json :=
  .ofMembers [
    ("passed", .bool r.passed),
    ("failures", .ofItems (r.failures.map Failure.toJson)),
    ("observed_row_count", .ofOption .ofNat r.rowCount),
    ("observed_label_distribution", r.distribution.toJson)]

end Report

end LabelForge
