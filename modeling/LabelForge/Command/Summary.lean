import LabelForge.Command.Apply
import LabelForge.TextTable.Basic

/-!
# LabelForge.Command.Summary

**What a command prints.** Every result has a summary for its reader; attempts, labels and stored
programs are shown as tables. A compilation without a program also prints what went wrong last.

Design points:

* The summary goes to the standard output, and all about failures to the error output.
* The latest error output and the latest report are printed as they are.
-/

namespace LabelForge

open Number (Double)

/-- What a command prints, and how it exits. -/
structure Printed where
  stdout : String := ""
  stderr : String := ""
  exitCode : Nat := 0
  deriving DecidableEq, Repr

/-- Texts as lines, each with an end. -/
def endedLines (lines : List String) : String :=
  String.join (lines.map (· ++ "\n"))

namespace Summary

/-! ### Tables -/

/-- The share of a count in percent. -/
def share (count total : Nat) : String :=
  let percent : Double :=
    if total == 0 then .ofNat 0
    else ((Double.ofNat count).mul (.ofNat 100)).div (.ofNat total)
  percent.fixedText 1 ++ "%"

/-- The table of the labels. -/
def labelTable (counts : Tally) : TextTable where
  header := [("Label", .left), ("Rows", .right), ("Share", .right)]
  rows := counts.map fun (label, n) => [label, toString n, share n counts.total]

/-- What the table of the attempts says about a run. -/
def runCells : Option Execution → List String
  | none => ["-", "-"]
  | some run => [run.exitCode.elim "-" Number.intText, run.wallTime.secondsText 2 ++ "s"]

/-- The table of the attempts. -/
def attemptTable (attempts : List AttemptRecord) : TextTable where
  header := [("Attempt", .right), ("Result", .left), ("Exit", .right), ("Time", .right)]
  rows := attempts.map fun r => [toString r.attempt, r.outcome.summary] ++ runCells r.outcome.run?

/-- The counts of labels in one line. -/
def labelList (counts : Tally) : String :=
  ", ".intercalate (counts.map fun (label, n) => s!"{label}={n}")

/-- The table of stored programs. -/
def artifactTable (manifests : List Manifest) : TextTable where
  header := [("Fingerprint", .left), ("Language", .left), ("Attempt", .right), ("Rules", .right),
    ("Rows", .right), ("Promoted", .left), ("Labels", .left)]
  rows := manifests.map fun m => [m.fingerprint.short, m.language.label, toString m.attempt,
    toString m.ruleCount, toString m.rowCount, m.promotedAt.shortText, labelList m.distribution]

/-! ### Results -/

/-- A line about a path, if there is one. -/
def pathLine (what : String) (path : Option FilePath) : List String :=
  path.toList.map fun p => s!"{what}: {p.text}"

/-- The summary of making a program. -/
def ofCompile (r : CompileReport) : List String :=
  let o := r.outcome
  [s!"Fingerprint: {o.fingerprint.text}", s!"Status: {o.statusLabel}"] ++
  (if o.attempts.isEmpty then [] else [(attemptTable o.attempts).render]) ++
  (if !o.isSuccess then []
    else (if r.distribution.isEmpty then [] else [(labelTable r.distribution).render]) ++
      pathLine "Program" r.emitted ++ pathLine "Output" r.output)

/-- What went wrong in a compilation without a program. -/
def ofFailure (o : CompileOutcome) : List String :=
  [s!"error: no verified program after {o.attempts.length} attempts"] ++
  (o.attempts.map fun r => s!"  attempt {r.attempt}: {r.outcome.summary}") ++
  (match o.lastStderr with
    | some stderr => if Text.isBlankText stderr then [] else ["--- last stderr ---", stderr]
    | none => []) ++
  (match o.lastReport with
    | some report => ["--- last validation report ---", report.render]
    | none => [])

/-- The summary of running a program. -/
def ofRun (r : RunReport) : List String :=
  let report := r.outcome.report
  [s!"Fingerprint: {r.fingerprint.text}", s!"Rows: {report.rowCount.getD 0}",
    (labelTable report.distribution).render, s!"Violations: {r.outcome.violations}"] ++
  pathLine "Output" r.output

/-- The list of stored programs. -/
def ofArtifacts (manifests : List Manifest) : List String :=
  if manifests.isEmpty then ["No verified artifacts."] else [(artifactTable manifests).render]

end Summary

/-- What is printed of a result. -/
def CommandReport.printed : CommandReport → Printed
  | .compiled r =>
    if r.outcome.isSuccess then { stdout := endedLines (Summary.ofCompile r) }
    else {
      stdout := endedLines (Summary.ofCompile r)
      stderr := endedLines (Summary.ofFailure r.outcome)
      exitCode := 1 }
  | .ran r => { stdout := endedLines (Summary.ofRun r) }
  | .applied marker => { stdout := endedLines [marker] }
  | .digest text => { stdout := text }
  | .artifacts manifests => { stdout := endedLines (Summary.ofArtifacts manifests) }

/-- What is printed of a failure. -/
def CommandError.printed (e : CommandError) : Printed :=
  { stderr := endedLines [e.line], exitCode := 1 }

/-- The result of a command as a document. -/
def CommandReport.toJson : CommandReport → Json
  | .compiled r =>
    let o := r.outcome
    .ofMembers [
      ("outcome", .ofMembers [
        ("fingerprint", .ofText o.fingerprint.text), ("status", .ofText o.statusLabel),
        ("success", .bool o.isSuccess),
        ("attempts", .ofItems (o.attempts.map fun a => .ofText a.outcome.summary)),
        ("language", .ofOption (fun a => .ofText a.manifest.language.label) o.artifact)]),
      ("distribution", r.distribution.toJson),
      ("output", .ofOption (fun p => .ofText p.text) r.output),
      ("emitted", .ofOption (fun p => .ofText p.text) r.emitted)]
  | .ran r => .ofMembers [
      ("fingerprint", .ofText r.fingerprint.text), ("violations", .ofNat r.outcome.violations),
      ("distribution", r.outcome.report.distribution.toJson),
      ("output", .ofOption (fun p => .ofText p.text) r.output)]
  | .applied _ => .null
  | .digest text => .ofText text
  | .artifacts manifests => .ofItems (manifests.map fun m => .ofText m.fingerprint.text)

end LabelForge
