import LabelForge.Attempt.Compile
import LabelForge.Config

/-!
# LabelForge.Command.Failure

**Why a command failed.** A failure is told as a chain of messages, from what was to be done down
to what went wrong. All of them stand on one line.

Design points:

* Some messages already end with their cause. The chain names that cause once more, so that every
  chain ends with the innermost one.
-/

namespace LabelForge

/-- The messages of a fault of a table. -/
def TableError.chain : TableError → List String
  | .unwritable path cause => [TableError.message (.unwritable path cause), cause.message]
  | e => [e.message]

/-- The messages of a fault of a sandbox. -/
def SandboxError.chain (e : SandboxError) : List String :=
  match e with
  | .emptyCommand => [e.message]
  | .workdir _ cause => [e.message, cause.message]
  | .stageInput _ cause => [e.message, cause.message]
  | .writeProgram _ cause => [e.message, cause.message]
  | .spawn _ cause => [e.message, cause.message]

/-- The messages of a fault of a store. -/
def StoreError.chain (e : StoreError) : List String :=
  match e with
  | .io _ _ cause => [e.message, cause.message]
  | .manifest _ fault => [e.message, fault.message]
  | .corrupt .. => [e.message]

/-- The messages of a fault of a compilation. -/
def CompileError.chain (e : CompileError) : List String :=
  match e with
  | .invalidRules defect => [e.message, defect.message]
  | .table error => error.chain
  | .expectations error => [e.message, error.message]
  | .sandbox error => e.message :: error.chain
  | .store error => error.chain
  | .artifactNotFound _ => [e.message]
  | .runtimeFailed .. => [e.message]
  | .impossible .. => [e.message]

/-- Why a command failed. -/
inductive CommandError where
  /-- There is no configuration. -/
  | config (error : ConfigError)
  /-- The file of the rules cannot be read. -/
  | rulesUnreadable (path : FilePath) (cause : OsError)
  /-- The file of the rules holds no rules. -/
  | rulesInvalid (path : FilePath) (fault : Json.Fault)
  /-- The file of the expected counts cannot be read. -/
  | countsUnreadable (path : FilePath) (cause : OsError)
  /-- The file of the expected counts holds no counts. -/
  | countsInvalid (path : FilePath) (fault : Json.Fault)
  /-- The table cannot be read or written. -/
  | table (error : TableError)
  /-- The store failed. -/
  | store (error : StoreError)
  /-- Programs cannot be run. -/
  | sandbox (error : SandboxError)
  /-- The key of the chat model is missing. -/
  | missingKey (variableName : String)
  /-- The compilation or the run failed. -/
  | compile (error : CompileError)
  /-- The file of the plan cannot be read. -/
  | planUnreadable (path : FilePath) (cause : OsError)
  /-- The file of the plan holds no plan. -/
  | planInvalid (path : FilePath) (error : PlanError)
  /-- The plan does not fit the table. -/
  | labelling (error : LabellingError)
  /-- The directory of a result cannot be made. -/
  | directory (path : FilePath) (cause : OsError)
  /-- A result cannot be written. -/
  | unwritten (path : FilePath) (cause : OsError)
  /-- The labelled table cannot be copied. -/
  | uncopied (source target : FilePath) (cause : OsError)
  deriving DecidableEq, Repr

namespace CommandError

/-- The messages of a failure, from the outermost to its cause. -/
def chain : CommandError → List String
  | .config error => error.chain
  | .rulesUnreadable path cause => [s!"failed to read rule set {path.text}", cause.message]
  | .rulesInvalid path fault => [s!"invalid rule set {path.text}", fault.message]
  | .countsUnreadable path cause =>
    [s!"failed to read expected counts {path.text}", cause.message]
  | .countsInvalid path fault =>
    [s!"expected counts {path.text} must be a JSON object of label counts", fault.message]
  | .table error => error.chain
  | .store error => error.chain
  | .sandbox error => error.chain
  | .missingKey variableName => [ChatSettings.missingKey variableName]
  | .compile error => error.chain
  | .planUnreadable path cause => [s!"failed to read plan {path.text}", cause.message]
  | .planInvalid path error => [s!"invalid plan {path.text}", error.message]
  | .labelling error => [error.message]
  | .directory path cause => [s!"failed to create {path.text}", cause.message]
  | .unwritten path cause => [s!"failed to write {path.text}", cause.message]
  | .uncopied source target cause =>
    [s!"failed to copy output {source.text} to {target.text}", cause.message]

/-- The failure on one line. -/
def line (e : CommandError) : String :=
  "error: " ++ ": ".intercalate e.chain

end CommandError

end LabelForge
