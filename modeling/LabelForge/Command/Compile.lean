import LabelForge.Command.Workbench
import LabelForge.CommandLine.Invocation
import LabelForge.Expectations

/-!
# LabelForge.Command.Compile

**Making a verified program, and running one.** Both commands read settings, rules and a table,
and derive what the output has to look like. One of them makes a program, unless the store has it;
the other one runs the program that the store has.

Design points:

* The store is asked before the agents are made, so no key is needed where a program is stored.
  What is wrong with the store at that time is left to the compilation.
* If a program comes from the store and the labelled table is wanted, the program is run once.
-/

namespace LabelForge

/-- The result of making a program. -/
structure CompileReport where
  outcome : CompileOutcome
  /-- How often each label occurs in the labelled table. -/
  distribution : Tally := []
  /-- Where the labelled table was copied to. -/
  output : Option FilePath := none
  /-- Where the program was copied to. -/
  emitted : Option FilePath := none
  deriving DecidableEq, Repr

/-- The result of running a program. -/
structure RunReport where
  fingerprint : Fingerprint
  outcome : RunOutcome
  /-- Where the labelled table was copied to. -/
  output : Option FilePath
  deriving DecidableEq, Repr

namespace Command

open CommandM

/-! ### Reading -/

/-- The settings of a command. -/
def settingsOf (o : EngineOptions) : CommandM Resolved := do
  let config ← reading .config fun d => Config.loadOptional d o.config
  return config.resolve o.overrides

/-- The rules of a file, if they have no defect. -/
def rulesOf (path : FilePath) : CommandM RuleSet := do
  let text ← reading (.rulesUnreadable path) fun d => d.readText path
  let rules ← ofExcept (.rulesInvalid path) (RuleSet.parse text)
  match rules.defect? with
  | some defect => throw (.compile (.invalidRules defect))
  | none => return rules

/-- The table of a file. -/
def tableOf (path : FilePath) : CommandM Frame :=
  reading .table fun d => Table.read d path

/-- The expected counts of a file. -/
def countsOf (path : FilePath) : CommandM Tally := do
  let text ← reading (.countsUnreadable path) fun d => d.readText path
  ofExcept (.countsInvalid path) (Json.decode Tally.decoder text)

/-- The expectations of rules on a table. -/
def expectationsOf (frame : Frame) (rules : RuleSet) (r : Resolved) : CommandM Expectations :=
  ofExcept (fun e => .compile (.expectations e)) (Expectations.derive frame rules r.settings)

/-- The fingerprint of rules, settings and the columns of a table. -/
def fingerprintOf (rules : RuleSet) (frame : Frame) (r : Resolved) : Fingerprint :=
  .compute rules frame.digest r.settings.tieBreak r.settings.labels r.writer.language

/-- Opens a store. -/
def openStore (root : FilePath) : CommandM Store :=
  changing .store fun d => Store.open_ d root

/-! ### Making programs -/

/-- How a stored program is found. -/
abbrev Search := Resolved → Store → Fingerprint → CommandM (Option Artifact)

/-- The program that is stored, if nothing is wrong with it and it may be used. -/
def findStored : Search := fun r store fingerprint => do
  if r.settings.force then return none
  let (found, d) := Store.runOn (← get) (store.lookup fingerprint)
  set d
  return found.toOption.join

/-- Makes the outcome of a compilation: with the stored program, or by writing programs. -/
def outcomeOf (s : Surroundings) (r : Resolved) (store : Store) (request : CompileRequest)
    (fingerprint : Fingerprint) (stored : Option Artifact) (w : Workbench) :
    CommandM (CompileOutcome × Workbench) :=
  match stored with
  | some artifact => return (.cached fingerprint artifact, w)
  | none => do
    let agents ← ofExcept id (s.agents r)
    let (result, world) := Compile.run agents r.settings (some store) request ⟨w, ← get⟩
    set world.disk
    return (← ofExcept .compile result, world.agents)

/-- The counts that the last attempt reported, if it passed. -/
def passedCounts? (o : CompileOutcome) : Option Tally :=
  match o.attempts.getLast?.map AttemptRecord.outcome with
  | some (.passed _ _ report) => some report.distribution
  | _ => none

/-- Runs a verified program. -/
def rerun (s : Surroundings) (language : Language) (artifact : Artifact)
    (request : CompileRequest) (w : Workbench) : CommandM RunOutcome := do
  let (result, world) := Compile.rerun (s.runners language) artifact request.input
    request.expectations request.rows ⟨w, ← get⟩
  set world.disk
  ofExcept .compile result

/-- Writes the program, if that is wanted. -/
def emitProgram (artifact : Artifact) : Option FilePath → CommandM (Option FilePath)
  | none => return none
  | some path => do
    writeResult path artifact.source
    return some path

/-- Copies the labelled table, if that is wanted, and tells its counts. -/
def deliver (s : Surroundings) (r : Resolved) (request : CompileRequest) (o : CompileOutcome)
    (artifact : Artifact) (w : Workbench) : Option FilePath → CommandM (Tally × Option FilePath)
  | none => return ((passedCounts? o).getD artifact.manifest.distribution, none)
  | some target => do
    let (counts, produced) ← match o.output with
      | some path => pure ((passedCounts? o).getD artifact.manifest.distribution, path)
      | none =>
        let run ← rerun s r.writer.language artifact request w
        pure (run.report.distribution, run.output)
    copyResult produced target
    return (counts, some target)

/-- Makes a verified program; `search` finds one that is stored. -/
def compileBy (search : Search) (s : Surroundings) (o : EngineOptions)
    (expect emit : Option FilePath) : CommandM CompileReport := do
  let r ← settingsOf o
  let rules ← rulesOf o.rules
  let frame ← tableOf o.input
  let derived ← expectationsOf frame rules r
  let expectations ← match expect with
    | some path => do
      let counts ← countsOf path
      pure { derived with counts := some counts }
    | none => pure derived
  let store ← openStore o.store
  let request : CompileRequest :=
    { rules, schema := frame.digest, input := o.input, expectations, rows := frame.rows }
  let fingerprint := fingerprintOf rules frame r
  s.withSandbox r o.workdir fun sandbox => do
    let stored ← search r store fingerprint
    let (outcome, w) ← outcomeOf s r store request fingerprint stored { sandbox }
    match outcome.artifact with
    | none => return { outcome }
    | some artifact =>
      let emitted ← emitProgram artifact emit
      let (distribution, output) ← deliver s r request outcome artifact w o.output
      return { outcome, distribution, output, emitted }

/-- Makes a verified program. -/
def makeProgram : Surroundings → EngineOptions → Option FilePath → Option FilePath →
    CommandM CompileReport :=
  compileBy findStored

/-! ### Running programs -/

/-- The stored program of a fingerprint. -/
def storedProgram (store : Store) (fingerprint : Fingerprint) : CommandM Artifact := do
  match ← changing .store fun d => Store.runOn d (store.lookup fingerprint) with
  | some artifact => return artifact
  | none => throw (.compile (.artifactNotFound fingerprint))

/-- Runs the verified program on a table. -/
def runProgram (s : Surroundings) (o : EngineOptions) : CommandM RunReport := do
  let r ← settingsOf o
  let rules ← rulesOf o.rules
  let frame ← tableOf o.input
  let fingerprint := fingerprintOf rules frame r
  let store ← openStore o.store
  let artifact ← storedProgram store fingerprint
  let expectations ← expectationsOf frame rules r
  let request : CompileRequest :=
    { rules, schema := frame.digest, input := o.input, expectations, rows := frame.rows }
  s.withSandbox r o.workdir fun sandbox => do
    let outcome ← rerun s r.writer.language artifact request { sandbox }
    match o.output with
    | none => return ⟨fingerprint, outcome, none⟩
    | some target =>
      copyResult outcome.output target
      return ⟨fingerprint, outcome, some target⟩

end Command

end LabelForge
