import LabelForge.Command.Compile

/-!
# LabelForge.Command.Apply

**Applying plans, and looking at tables and stores.** A plan is read before its table, and the
marker is printed only when the labelled table has been written.
-/

namespace LabelForge

/-- The result of a command. -/
inductive CommandReport where
  /-- A program was made, or not. -/
  | compiled (report : CompileReport)
  /-- A program was run. -/
  | ran (report : RunReport)
  /-- A plan was applied, with a marker to print. -/
  | applied (marker : String)
  /-- A table was described. -/
  | digest (text : String)
  /-- The programs of a store were listed. -/
  | artifacts (manifests : List Manifest)
  deriving DecidableEq, Repr

namespace Command

open CommandM

/-- The plan of a file. -/
def planOf (path : FilePath) : CommandM Plan := do
  let text ← reading (.planUnreadable path) fun d => d.readText path
  ofExcept (.planInvalid path) (Plan.parse text)

/-- Applies a plan to a table and writes the labelled table. -/
def applyPlan (plan input output : FilePath) : CommandM Unit := do
  let plan ← planOf plan
  let frame ← tableOf input
  let labelled ← ofExcept .labelling (plan.apply frame)
  changing .table fun d => Table.write labelled d output

/-- Performs a command. -/
def perform (s : Surroundings) : Command → CommandM CommandReport
  | .compile o expect emit => return .compiled (← makeProgram s o expect emit)
  | .run o => return .ran (← runProgram s o)
  | .apply plan input output marker => do
    applyPlan plan input output
    return .applied marker
  | .digest input => return .digest (← tableOf input).digest.render
  | .artifacts store => do
    let store ← openStore store
    return .artifacts (← changing .store fun d => Store.runOn d store.list)

end Command

end LabelForge
