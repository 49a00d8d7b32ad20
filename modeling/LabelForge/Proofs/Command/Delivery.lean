import LabelForge.Proofs.Command.Reading
import LabelForge.Proofs.Compile.Coherence
import LabelForge.Proofs.Compile.Rerun
import LabelForge.Proofs.Json.Field

/-!
# LabelForge.Proofs.Command.Delivery

**What was done for a program that is handed over.** There are three ways to a report with a
program. A new program has been run on the input, and its output passed. A stored program is run if
the labelled table is wanted, and its output passed as well. If no table is wanted, a stored program
is handed over as it is, and the counts of labels are those of its manifest: nothing is run, so it
does not matter whether the program would still work.

All three begin alike: what is read, and what the output has to look like, depends on the options
and on the disk, but not on the store, nor on what is wanted.
-/

namespace LabelForge

namespace Command

open CommandM
open Compile (Conclusion Concludes)
open FileTree (Entries)
open Text (bytesOf)

namespace Readied

variable (p : Readied) (s : Surroundings) (o : EngineOptions) (emit : Option FilePath)

/-- What is done with a program. -/
def handOver (outcome : CompileOutcome) (artifact : Artifact) (w : Workbench) :
    CommandM CompileReport := do
  let emitted ← emitProgram artifact emit
  let (distribution, output) ← deliver s p.settings (p.request o.input) outcome artifact w o.output
  return { outcome, distribution, output, emitted }

/-- What is done in the sandbox. -/
def make (sandbox : Sandbox) : CommandM CompileReport := do
  let stored ← findStored p.settings p.store p.fingerprint
  let (outcome, w) ← outcomeOf s p.settings p.store (p.request o.input) p.fingerprint stored
    { sandbox }
  match outcome.artifact with
  | none => return { outcome }
  | some artifact => p.handOver s o emit outcome artifact w

end Readied

variable {s : Surroundings} {o : EngineOptions} {expect emit : Option FilePath} {d d₁ d' : Disk}
  {p : Readied} {report : CompileReport}

/-- A command that succeeds has read everything. -/
theorem reads_of_ok (ran : makeProgram s o expect emit d = (.ok report, d')) :
    ∃ p d₁, Reads o expect d p d₁ := by
  simp only [makeProgram, compileBy, bind_eq_ok, settingsOf_eq_ok, rulesOf_eq_ok, tableOf_eq_ok,
    expectationsOf_eq_ok] at ran
  obtain ⟨r, _, ⟨settings, rfl⟩, rules, _, ⟨parsed, valid, rfl⟩, frame, _, ⟨read, rfl⟩, derived, _,
    ⟨derives, rfl⟩, ran⟩ := ran
  cases expect with
  | none =>
      simp only [bind_eq_ok, pure_eq_ok, openStore_eq_ok] at ran
      obtain ⟨_, _, ⟨rfl, rfl⟩, store, d₁, opened, -⟩ := ran
      exact ⟨⟨r, rules, frame, derived, store⟩, d₁, settings, parsed, valid, read,
        ⟨derived, derives, .derived⟩, opened⟩
  | some path =>
      simp only [bind_eq_ok, pure_eq_ok, countsOf_eq_ok, openStore_eq_ok] at ran
      obtain ⟨counts, _, ⟨⟨text, found, decoded⟩, rfl⟩, _, _, ⟨rfl, rfl⟩, store, d₁, opened, -⟩ :=
        ran
      exact ⟨⟨r, rules, frame, _, store⟩, d₁, settings, parsed, valid, read,
        ⟨derived, derives, .counted found decoded⟩, opened⟩

/-- What a command does when it has read everything. -/
theorem makeProgram_of_reads (reads : Reads o expect d p d₁) (s : Surroundings)
    (emit : Option FilePath) :
    makeProgram s o expect emit d = s.withSandbox p.settings o.workdir (p.make s o emit) d₁ := by
  obtain ⟨r, rules, frame, e, store⟩ := p
  obtain ⟨settings, parsed, valid, read, ⟨derived, derives, expects⟩, opened⟩ := reads
  unfold makeProgram compileBy
  rw [bind_of_ok (settingsOf_eq_ok.mpr ⟨settings, rfl⟩),
    bind_of_ok (rulesOf_eq_ok.mpr ⟨parsed, valid, rfl⟩),
    bind_of_ok (tableOf_eq_ok.mpr ⟨read, rfl⟩),
    bind_of_ok (expectationsOf_eq_ok.mpr ⟨derives, rfl⟩)]
  have opened := openStore_eq_ok.mpr opened
  cases expects with
  | derived => exact (bind_of_ok (pure_eq_ok.mpr ⟨rfl, rfl⟩) _).trans (bind_of_ok opened _)
  | counted found decoded =>
      have counted := countsOf_eq_ok.mpr ⟨⟨_, found, decoded⟩, rfl⟩
      exact (bind_of_ok counted _).trans
        ((bind_of_ok (pure_eq_ok.mpr ⟨rfl, rfl⟩) _).trans (bind_of_ok opened _))

/-! ### Making -/

theorem findStored_apply (p : Readied) (d : Disk) :
    findStored p.settings p.store p.fingerprint d = (.ok (p.usable d.files), d) := by
  unfold findStored Readied.usable
  cases p.settings.settings.force with
  | true => rfl
  | false =>
      have same := (Store.seesOnly_lookup p.store p.fingerprint).unchanged d.files
      have ran : Store.runOn d (p.store.lookup p.fingerprint) =
          ((Store.exec (p.store.lookup p.fingerprint) d.files).1, d) := by
        rw [Store.runOn_eq, same]
      show (Except.ok (Store.runOn d (p.store.lookup p.fingerprint)).1.toOption.join,
        (Store.runOn d (p.store.lookup p.fingerprint)).2) = _
      rw [ran]
      rfl

/-- Programs are written where none is stored. -/
theorem outcomeOf_eq_ok {r : Resolved} {store : Store} {request : CompileRequest}
    {fingerprint : Fingerprint} {outcome : CompileOutcome} {w w' : Workbench} :
    outcomeOf s r store request fingerprint none w d = (.ok (outcome, w'), d') ↔
      ∃ agents, s.agents r = .ok agents ∧
        Compile.run agents r.settings (some store) request ⟨w, d⟩ = (.ok outcome, ⟨w', d'⟩) := by
  simp only [outcomeOf, bind_eq_ok, ofExcept_eq_ok, get_eq_ok, set_eq_ok, pure_eq_ok,
    Prod.mk.injEq]
  constructor
  · rintro ⟨agents, _, ⟨writer, rfl⟩, _, _, ⟨rfl, rfl⟩, _, _, rfl, _, _, ⟨ran, rfl⟩, ⟨rfl, rfl⟩,
      rfl⟩
    exact ⟨agents, writer, Prod.ext ran rfl⟩
  · rintro ⟨agents, writer, ran⟩
    refine ⟨agents, d, ⟨writer, rfl⟩, d, d, ⟨rfl, rfl⟩, ⟨⟩, d', ?_, outcome, d', ⟨?_, rfl⟩,
      ⟨rfl, ?_⟩, rfl⟩ <;> rw [ran]

theorem agents_language {agents : Agents Workbench} {r : Resolved}
    (writer : s.agents r = .ok agents) : agents.language = r.writer.language := by
  unfold Surroundings.agents at writer
  cases kind : r.writer with
  | plan =>
      rw [kind] at writer
      cases writer
      rfl
  | chat =>
      rw [kind] at writer
      simp only at writer
      split at writer <;> cases writer
      rfl

/-- Where the program of an outcome comes from, and what agents and disk are like then. -/
inductive Obtained (s : Surroundings) (p : Readied) (input : FilePath) (sandbox : Sandbox)
    (d : Disk) : CompileOutcome → Artifact → Workbench → Disk → Prop where
  /-- It is stored. -/
  | stored {artifact} (found : p.usable d.files = some artifact) :
    Obtained s p input sandbox d (.cached p.fingerprint artifact) artifact { sandbox } d
  /-- It was written, and has passed. -/
  | written {agents outcome artifact noted c} (missed : p.usable d.files = none)
      (writer : s.agents p.settings = .ok agents)
      (ran : Compile.run agents.observed p.settings.settings (some p.store) (p.request input)
        (World.unwatched ⟨{ sandbox }, d⟩) = (.ok outcome, noted))
      (status : outcome.status = .promoted) (returned : outcome.artifact = some artifact)
      (concludes : Concludes agents p.settings.settings (some p.store) (p.request input)
        d.files noted.disk.files noted.calls outcome c) :
    Obtained s p input sandbox d outcome artifact noted.agents.1 noted.disk

variable {sandbox : Sandbox} {outcome : CompileOutcome} {artifact : Artifact} {w : Workbench}

theorem handOver_eq_ok : p.handOver s o emit outcome artifact w d = (.ok report, d') ↔
    report.outcome = outcome ∧ ∃ d₁, emitProgram artifact emit d = (.ok report.emitted, d₁) ∧
      deliver s p.settings (p.request o.input) outcome artifact w o.output d₁ =
        (.ok (report.distribution, report.output), d') := by
  simp only [Readied.handOver, bind_eq_ok, pure_eq_ok]
  constructor
  · rintro ⟨emitted, d₁, written, ⟨counts, output⟩, _, delivered, rfl, rfl⟩
    exact ⟨rfl, d₁, written, delivered⟩
  · rintro ⟨rfl, d₁, written, delivered⟩
    exact ⟨_, d₁, written, _, _, delivered, rfl, rfl⟩

/-- What a compilation finds in the store was found before. -/
theorem usable_of_found {agents : Agents Workbench} {input : FilePath} {files : FileTree}
    (writer : s.agents p.settings = .ok agents) (unforced : p.settings.settings.force = false)
    (found : (Store.exec (p.store.lookup (Compile.fingerprintOf agents p.settings.settings
      (p.request input))) files).1 = .ok (some artifact)) : p.usable files = some artifact := by
  have same : Compile.fingerprintOf agents p.settings.settings (p.request input) =
      p.fingerprint := by
    rw [Compile.fingerprintOf, agents_language writer]
    rfl
  rw [same] at found
  rw [Readied.usable, unforced, found]
  rfl

/-- A compilation that succeeds where nothing is stored has written a program. -/
theorem obtained_of_run {agents : Agents Workbench} {input : FilePath}
    {noted : World (Noted Workbench)} (missed : p.usable d.files = none)
    (writer : s.agents p.settings = .ok agents)
    (ran : Compile.run agents.observed p.settings.settings (some p.store) (p.request input)
      (World.unwatched ⟨{ sandbox }, d⟩) = (.ok outcome, noted))
    (success : outcome.isSuccess = true) :
    ∃ artifact, outcome.artifact = some artifact ∧
      Obtained s p input sandbox d outcome artifact noted.agents.1 noted.disk := by
  cases Compile.ends_run ran with
  | cached stores unforced found =>
      -- the store was asked before, with the same answer
      cases stores
      exact nomatch missed.symm.trans (usable_of_found writer unforced found)
  | promoted status concludes =>
      obtain ⟨artifact, returned, -⟩ := concludes.returned
      exact ⟨artifact, returned, .written missed writer ran status returned concludes⟩
  | failed status =>
      rw [CompileOutcome.isSuccess, status] at success
      cases success

/-- A success begins with a program. -/
theorem obtained_of_make (made : p.make s o emit sandbox d = (.ok report, d'))
    (success : report.outcome.isSuccess = true) :
    ∃ artifact w d₁, Obtained s p o.input sandbox d report.outcome artifact w d₁ ∧
      p.handOver s o emit report.outcome artifact w d₁ = (.ok report, d') := by
  unfold Readied.make at made
  rw [bind_of_ok (findStored_apply p d)] at made
  cases usable : p.usable d.files with
  | some artifact =>
      rw [usable] at made
      have made : p.handOver s o emit (.cached p.fingerprint artifact) artifact { sandbox } d =
        (.ok report, d') := made
      obtain ⟨same, -⟩ := handOver_eq_ok.mp made
      rw [same]
      exact ⟨artifact, { sandbox }, d, .stored usable, made⟩
  | none =>
      rw [usable, bind_eq_ok] at made
      obtain ⟨⟨outcome, w⟩, d₁, came, made⟩ := made
      obtain ⟨agents, writer, ran⟩ := outcomeOf_eq_ok.mp came
      obtain ⟨result, noted, watched, plain⟩ := Compile.run_mirrors agents p.settings.settings
        (some p.store) (p.request o.input) (World.unwatched ⟨{ sandbox }, d⟩)
      obtain ⟨rfl, same⟩ := Prod.mk.inj (plain.symm.trans ran)
      obtain ⟨rfl, rfl⟩ := World.mk.inj same
      have own : report.outcome = outcome := by
        cases returned : outcome.artifact with
        | none =>
            simp only [returned, pure_eq_ok] at made
            obtain ⟨rfl, -⟩ := made
            rfl
        | some artifact =>
            simp only [returned] at made
            exact (handOver_eq_ok.mp made).1
      rw [own] at success ⊢
      obtain ⟨artifact, returned, obtained⟩ := obtained_of_run usable writer watched success
      simp only [returned] at made
      exact ⟨artifact, _, _, obtained, made⟩

/-- What is obtained is handed over, whatever is wanted of it. -/
theorem make_of_obtained {input : FilePath} {d₁ : Disk}
    (obtained : Obtained s p input sandbox d outcome artifact w d₁) (o : EngineOptions)
    (emit : Option FilePath) (same : o.input = input) :
    p.make s o emit sandbox d = p.handOver s o emit outcome artifact w d₁ := by
  subst same
  unfold Readied.make
  rw [bind_of_ok (findStored_apply p d)]
  cases obtained with
  | stored found =>
      rw [found]
      rfl
  | @written agents outcome artifact noted c missed writer ran status returned concludes =>
      obtain ⟨result, after, watched, plain⟩ := Compile.run_mirrors agents p.settings.settings
        (some p.store) (p.request o.input) (World.unwatched ⟨{ sandbox }, d⟩)
      obtain ⟨rfl, rfl⟩ := Prod.mk.inj (watched.symm.trans ran)
      have plain : Compile.run agents p.settings.settings (some p.store) (p.request o.input)
          ⟨{ sandbox }, d⟩ = (.ok outcome, ⟨after.agents.1, after.disk⟩) := plain
      rw [missed, bind_of_ok (outcomeOf_eq_ok.mpr ⟨agents, writer, plain⟩)]
      simp only [returned]

/-! ### Handing over -/

/-- The output that a compilation has left is copied, if it is wanted. -/
theorem deliver_left {r : Resolved} {request : CompileRequest} {path : FilePath} {counts : Tally}
    (left : outcome.output = some path) (passed : passedCounts? outcome = some counts)
    (target : Option FilePath) :
    deliver s r request outcome artifact w target d = match target with
      | none => (.ok (counts, none), d)
      | some target => (copyResult path target >>= fun _ => pure (counts, some target)) d := by
  cases target with
  | none =>
      rw [deliver, passed]
      rfl
  | some target =>
      rw [deliver, left, passed]
      rfl

theorem rerun_eq_ok {language : Language} {request : CompileRequest} {run : RunOutcome} :
    rerun s language artifact request w d = (.ok run, d') ↔
      ∃ w', Compile.rerun (s.runners language) artifact request.input request.expectations
        request.rows ⟨w, d⟩ = (.ok run, ⟨w', d'⟩) := by
  simp only [rerun, bind_eq_ok, get_eq_ok, set_eq_ok, ofExcept_eq_ok]
  constructor
  · rintro ⟨_, _, ⟨rfl, rfl⟩, _, _, rfl, ran, rfl⟩
    generalize Compile.rerun (s.runners language) artifact request.input request.expectations
      request.rows ⟨w, d⟩ = turn at ran ⊢
    exact ⟨turn.2.agents, Prod.ext ran rfl⟩
  · rintro ⟨w', ran⟩
    refine ⟨d, d, ⟨rfl, rfl⟩, ⟨⟩, d', ?_, ?_, rfl⟩ <;> rw [ran]

/-! ### The whole command -/

/-- What was done for the program of a report, from the time when the sandbox was built. -/
inductive Checked (s : Surroundings) (o : EngineOptions) (emit : Option FilePath) (p : Readied)
    (sandbox : Sandbox) (d : Disk) (report : CompileReport) : Prop where
  /-- It was written, and a run of it on the input has passed. -/
  | written {agents noted c} (writer : s.agents p.settings = .ok agents)
      (ran : Compile.run agents.observed p.settings.settings (some p.store) (p.request o.input)
        (World.unwatched ⟨{ sandbox }, d⟩) = (.ok report.outcome, noted))
      (status : report.outcome.status = .promoted)
      (concludes : Concludes agents p.settings.settings (some p.store) (p.request o.input)
        d.files noted.disk.files noted.calls report.outcome c)
      (counts : report.distribution = (c.report (p.request o.input)).distribution)
  /-- It was stored, and a run of it on the input has passed, as the labelled table was wanted. -/
  | rerun {a target before run left after} (found : p.usable d.files = some a)
      (cached : report.outcome = .cached p.fingerprint a) (wanted : o.output = some target)
      (emitted : emitProgram a emit d = (.ok report.emitted, before))
      (executed : s.execute
        ⟨a.manifest.attempt, a.manifest.language, a.source, none⟩
        o.input { sandbox } before = (.ok run, left, after))
      (passed : (Validation.check after run p.expectations p.frame.rows).passed = true)
      (counts : report.distribution =
        (Validation.check after run p.expectations p.frame.rows).distribution)
  /-- It was stored, and is handed over with the counts of its manifest. -/
  | unrun {a} (found : p.usable d.files = some a)
      (cached : report.outcome = .cached p.fingerprint a) (unwanted : o.output = none)
      (counts : report.distribution = a.manifest.distribution)

/-- The counts of a program that has passed are in its last record. -/
theorem passedCounts_of_concludes {agents : Agents Workbench} {store : Option Store}
    {settings : Settings} {request : CompileRequest} {before after : FileTree} {calls : List Call}
    {c : Conclusion}
    (concludes : Concludes agents settings store request before after calls outcome c) :
    passedCounts? outcome = some (c.report request).distribution := by
  rw [passedCounts?, concludes.coherent.last]
  rfl

/-- The output that a compilation has left is delivered with the counts of its last record. -/
theorem counts_of_left {path : FilePath} {counts counts' : Tally} {target target' : Option FilePath}
    {r : Resolved} {request : CompileRequest} (left : outcome.output = some path)
    (passed : passedCounts? outcome = some counts)
    (delivered : deliver s r request outcome artifact w target d = (.ok (counts', target'), d')) :
    counts' = counts := by
  rw [deliver_left left passed] at delivered
  cases target with
  | none => exact (congrArg Prod.fst (Except.ok.inj (Prod.mk.inj delivered).1)).symm
  | some target =>
      simp only [bind_eq_ok, pure_eq_ok] at delivered
      obtain ⟨_, _, -, same, -⟩ := delivered
      exact (Prod.mk.inj same).1.symm

theorem checked_of_obtained {d₁ : Disk}
    (obtained : Obtained s p o.input sandbox d report.outcome artifact w d₁)
    (handed : p.handOver s o emit report.outcome artifact w d₁ = (.ok report, d')) :
    Checked s o emit p sandbox d report := by
  obtain ⟨-, d₂, emitted, delivered⟩ := handOver_eq_ok.mp handed
  generalize made : report.outcome = outcome at obtained delivered
  cases obtained with
  | stored found =>
      cases wanted : o.output with
      | none =>
          rw [wanted] at delivered
          obtain ⟨counts, -⟩ := pure_eq_ok.mp delivered
          exact .unrun found made wanted (congrArg Prod.fst counts).symm
      | some target =>
          rw [wanted] at delivered
          simp only [deliver, CompileOutcome.cached, bind_eq_ok, pure_eq_ok] at delivered
          obtain ⟨run, _, ran, _, _, ⟨rfl, rfl⟩, _, _, -, counts, -⟩ := delivered
          obtain ⟨w', ran⟩ := rerun_eq_ok.mp ran
          obtain ⟨-, executed, passed, checked, -⟩ := Compile.rerun_eq_ok ran
          refine .rerun found made wanted emitted executed passed ?_
          rw [← (Prod.mk.inj counts).1, checked]
          rfl
  | @written agents outcome artifact noted c missed writer ran status returned concludes =>
      subst made
      refine .written writer ran status concludes ?_
      obtain ⟨path, named⟩ := Validation.outputPath_of_passed concludes.coherent.passed
      exact counts_of_left (concludes.coherent.output.trans named)
        (passedCounts_of_concludes concludes) delivered

/-- A report is the same whether the labelled table is wanted or not, but for copying it. -/
inductive Varies (report : CompileReport) : Option FilePath → Except CommandError CompileReport →
    Prop where
  | delivered (output) : Varies report output (.ok { report with output })
  | uncopied {source target e} (fault : Uncopied source target e) :
    Varies report (some target) (.error e)

/-- A program that was written is handed over whatever is wanted. -/
theorem varies_of_written {agents : Agents Workbench} {request : CompileRequest} {store : Store}
    {before after : FileTree} {calls : List Call} {c : Conclusion}
    (concludes : Concludes agents p.settings.settings (some store) request before after calls
      report.outcome c)
    (handed : p.handOver s o emit report.outcome artifact w d = (.ok report, d'))
    (output : Option FilePath) :
    Varies report output (p.handOver s { o with output } emit report.outcome artifact w d).1 := by
  obtain ⟨-, d₁, emitted, delivered⟩ := handOver_eq_ok.mp handed
  obtain ⟨path, named⟩ := Validation.outputPath_of_passed concludes.coherent.passed
  have left := concludes.coherent.output.trans named
  have passed := passedCounts_of_concludes concludes
  rw [← counts_of_left left passed delivered] at passed
  unfold Readied.handOver
  rw [bind_of_ok emitted, bind_apply, deliver_left left passed]
  cases output with
  | none => exact .delivered none
  | some target =>
      simp only
      rcases copyResult_turn path target d₁ with ⟨d₂, copied⟩ | ⟨e, d₂, failed, fault⟩
      · rw [bind_of_ok copied]
        exact .delivered (some target)
      · rw [bind_of_error failed]
        exact .uncopied fault

/-- A stored program of which no table is wanted is handed over without a host. -/
theorem handOver_idle (host : Host) (unwanted : o.output = none) :
    p.handOver { s with host } o emit (.cached p.fingerprint artifact) artifact w =
      p.handOver s o emit (.cached p.fingerprint artifact) artifact w := by
  simp only [Readied.handOver, unwanted, deliver]

/-- **What a successful compile means.** A report with a program says that the program was written
in this command, and then a run of it on the input has passed against what is expected of this
input; or that it was stored and the labelled table was wanted, and then a run of it has passed
likewise; or that it was stored and no table was wanted. The counts in the report are those of the
run, in the last case those of the manifest. Whether the table is wanted makes no difference to a
program that was written, but for copying the table. A stored program of which no table is wanted is
handed over by every host, whatever becomes of the processes that it starts. -/
theorem makeProgram_checked (s : Surroundings) (o : EngineOptions) (expect emit : Option FilePath)
    (d d' : Disk) (report : CompileReport)
    (ran : makeProgram s o expect emit d = (.ok report, d'))
    (success : report.outcome.isSuccess = true) :
    ∃ p d₁ sandbox d₂, Reads o expect d p d₁ ∧
      s.build p.settings o.workdir d₁ = (.ok sandbox, d₂) ∧
      Checked s o emit p sandbox d₂ report ∧
      (report.outcome.status = .promoted → ∀ output,
        Varies report output (makeProgram s { o with output } expect emit d).1) ∧
      (report.outcome.status = .cached → o.output = none → ∀ host,
        makeProgram { s with host } o expect emit d = (.ok report, d')) := by
  obtain ⟨p, d₁, reads⟩ := reads_of_ok ran
  rw [makeProgram_of_reads reads] at ran
  obtain ⟨sandbox, d₂, d₃, built, made, rfl⟩ := Surroundings.withSandbox_eq_ok ran
  obtain ⟨artifact, w, d₄, obtained, handed⟩ := obtained_of_make made success
  refine ⟨p, d₁, sandbox, d₂, reads, built, checked_of_obtained obtained handed, ?_, ?_⟩
  · intro status output
    have same : p.make s { o with output } emit sandbox d₂ =
        p.handOver s { o with output } emit report.outcome artifact w d₄ :=
      make_of_obtained obtained _ emit rfl
    rw [makeProgram_of_reads (reads.wanting output), Surroundings.withSandbox_of_build built, same]
    generalize made : report.outcome = outcome at obtained
    cases obtained with
    | stored found =>
        rw [made] at status
        cases status
    | written missed writer ran promoted returned concludes =>
        subst made
        exact varies_of_written concludes handed output
  · intro status unwanted host
    -- building a sandbox starts no process
    have built : Surroundings.build { s with host } p.settings o.workdir d₁ = (.ok sandbox, d₂) :=
      built
    rw [makeProgram_of_reads reads, Surroundings.withSandbox_of_build built]
    generalize made : report.outcome = outcome at obtained handed
    cases obtained with
    | stored found =>
        have stored : Obtained { s with host } p o.input sandbox d₂ (.cached p.fingerprint artifact)
            artifact { sandbox } d₂ := .stored found
        rw [make_of_obtained stored o emit rfl, handOver_idle host unwanted, handed]
        rfl
    | written missed writer ran promoted returned concludes =>
        rw [made, promoted] at status
        cases status

/-! ### A stored program of another table -/

/-- A rule that gives every row the same label. -/
def ruleText : String :=
  "[\x7b\"id\":\"all\",\"name\":\"Everything\",\"action\":\"keep\"\x7d]"

/-- A table of one row. -/
def stock : Frame := ⟨1, [⟨"Status", .text, [.text "keep"]⟩], by decide, by decide⟩

/-- The text of that table. -/
def stockBytes : Text.Bytes := bytesOf "Status\nkeep\n"

/-- What is read of that rule and that table. -/
def stocked : Readied where
  settings := Config.resolve {} {}
  rules := ⟨[⟨"all", "Everything", .always, "keep", 0, none⟩]⟩
  frame := stock
  expectations := ⟨"Status", "Normal", [], ["keep"], ["keep"], none⟩
  store := Store.shelf

def stockOptions (output : Option FilePath) : EngineOptions :=
  { rules := ⟨"rules.json"⟩, input := ⟨"stock.csv"⟩, store := ⟨"/shelf"⟩, output }

/-- The artifact of a program that has labelled two rows. -/
def kept : Artifact :=
  Compile.artifactOf stocked.fingerprint (stocked.request ⟨"stock.csv"⟩) 1
    ⟨1, .labelPlan, "plan", none⟩
    { passed := true, rowCount := some 2, distribution := [("keep", 2)] } ⟨0, 0⟩

/-- The entries of a store with that artifact. -/
def keptEntries : Entries :=
  .entry (.text kept.fingerprint.text) (.directory (Store.written kept .none)) .none

/-- A disk with the rule, the table and the artifact, and a directory to work in. -/
def stockDisk (work : Entries) : Disk where
  files := .directory
    (.entry "shelf" (.directory keptEntries)
    (.entry "work" (.directory work)
    (.entry "rules.json" (.file (bytesOf ruleText))
    (.entry "stock.csv" (.file stockBytes) .none))))

/-- What a command finds around it on that disk. -/
def bench (host : Host) : Surroundings where
  host := host
  executable := "tool"
  stamp := ⟨⟨0, 0⟩, "1"⟩
  sessionName := "session"
  privateRoot := ⟨"/work"⟩

/-- The sandbox of a command there, with any host. -/
def desk : Sandbox where
  runtime := (bench fun _ _ d => (.error .notFound, d)).runtime stocked.settings
  limits := {}
  root := ⟨"/work"⟩

/-- A file with the text of the table is read as the table. -/
theorem read_stock {path : FilePath} {l : Location} (located : d.locate path = .ok l)
    (found : d.files.at? l = some (.file stockBytes)) :
    d.isFile path = true ∧ d.read path = .ok stockBytes ∧ Table.read d path = .ok stock := by
  have file : d.isFile path = true := by
    simp only [Disk.isFile, located, FileTree.isFileAt, found]
  have bytes : d.read path = .ok stockBytes := by
    simp only [Disk.read, located, bind, Except.bind, FileTree.read, found]
  have parsed : Csv.parse stockBytes = .ok stock := Json.toOption_eq_some.mp (by decide +kernel)
  refine ⟨file, bytes, ?_⟩
  simp only [Table.read, file, bytes, parsed]
  rfl

theorem walks_stock : Disk.Walks ⟨"stock.csv"⟩ [.down "stock.csv"] := by
  constructor <;> decide

theorem reads_stock (output : Option FilePath) (work : Entries) :
    Reads (stockOptions output) none (stockDisk work) stocked (stockDisk work) where
  settings := ⟨{}, rfl, rfl⟩
  rules := by
    have walks : Disk.Walks ⟨"rules.json"⟩ [.down "rules.json"] := by constructor <;> decide
    exact ⟨ruleText, walks.readText rfl rfl, Json.toOption_eq_some.mp (by decide +kernel)⟩
  valid := by decide
  frame := (read_stock (walks_stock.locate _) rfl).2.2
  expectations := ⟨_, Json.toOption_eq_some.mp (by decide +kernel), .derived⟩
  store := by
    have walks : Disk.Walks ⟨"/shelf"⟩ [.down "shelf"] := by constructor <;> decide
    have located : (stockDisk work).locate ⟨"/shelf"⟩ = .ok ["shelf"] := by
      rw [walks.locate]
      rfl
    have there : (stockDisk work).isDir ⟨"/shelf"⟩ = true := walks.isDir rfl rfl
    simp only [Store.open_, stockOptions, Disk.makeDirs_there there, located]
    rfl

theorem build_bench (host : Host) (work : Entries) :
    (bench host).build stocked.settings none (stockDisk work) = (.ok desk, stockDisk work) := by
  have walks : Disk.Walks ⟨"/work"⟩ [.down "work"] := by constructor <;> decide
  have there : (stockDisk work).isDir ⟨"/work"⟩ = true := walks.isDir rfl rfl
  simp only [Surroundings.build, bench, Disk.makeDirs_there there]
  rfl

theorem intact_kept : kept.isIntact = true := by
  rw [Artifact.isIntact, kept, Compile.artifactOf]
  exact beq_self_eq_true _

theorem usable_kept (work : Entries) : stocked.usable (stockDisk work).files = some kept := by
  have contains : Store.shelf.Contains (stockDisk work).files keptEntries := rfl
  have entry : keptEntries.find? (.text kept.fingerprint.text) =
      some (.directory (Store.written kept .none)) := by simp [keptEntries, Entries.find?]
  have storable : kept.manifest.Storable := {
    attempt := show 1 < 2 ^ 32 by decide
    ruleCount := show 1 < 2 ^ 64 by decide
    rowCount := show 2 < 2 ^ 64 by decide
    sorted := List.pairwise_singleton _ _
    counts := by simp [kept, Compile.artifactOf]
    moment := Moment.parse?_epoch }
  have found := Store.exec_lookup contains (Store.holds_written entry) storable intact_kept
  have own : kept.fingerprint = stocked.fingerprint := by
    rw [kept, Artifact.fingerprint, Compile.artifactOf]
  have unforced : stocked.settings.settings.force = false := rfl
  have shelf : stocked.store = Store.shelf := rfl
  rw [own] at found
  rw [Readied.usable, unforced, shelf, found]
  rfl

/-- A command with that artifact hands it over. -/
theorem makeProgram_kept (host : Host) (output : Option FilePath) (work : Entries) :
    makeProgram (bench host) (stockOptions output) none none (stockDisk work) =
      let (result, d) := stocked.handOver (bench host) (stockOptions output) none
        (.cached stocked.fingerprint kept) kept { sandbox := desk } (stockDisk work)
      (result, (bench host).tidy d) := by
  have obtained : Obtained (bench host) stocked ⟨"stock.csv"⟩ desk (stockDisk work)
      (.cached stocked.fingerprint kept) kept { sandbox := desk } (stockDisk work) :=
    .stored (usable_kept work)
  have made := make_of_obtained obtained (stockOptions output) none rfl
  rw [makeProgram_of_reads (reads_stock output work)]
  refine (Surroundings.withSandbox_of_build (build_bench host work)).trans ?_
  rw [made]
  rfl

/-! ### A host that starts nothing -/

def refusing : Host := fun _ _ d => (.error .notFound, d)

theorem execute_refusing (program : Candidate) (input : FilePath) (w : Workbench) (d : Disk)
    (run : Execution) (w' : Workbench) (d' : Disk) :
    (bench refusing).execute program input w d ≠ (.ok run, w', d') := by
  intro ran
  have failed : ∀ directory d, ∃ e, (w.sandbox.start refusing [] directory d).1 = .error e := by
    intro directory d
    simp only [Sandbox.start]
    cases w.sandbox.runtime.render (w.sandbox.pathsIn directory) with
    | nil => exact ⟨_, rfl⟩
    | cons executable arguments => exact ⟨_, rfl⟩
  have failed : ∃ e, ((bench refusing).execute program input w d).1 = .error e := by
    simp only [Surroundings.execute, Sandbox.execute]
    split
    · exact ⟨_, rfl⟩
    · split
      · exact ⟨_, rfl⟩
      · exact failed _ _
  obtain ⟨e, failed⟩ := failed
  rw [ran] at failed
  cases failed

theorem handOver_refusing (work : Entries) (target : FilePath) : ∃ e d',
    stocked.handOver (bench refusing) (stockOptions (some target)) none
      (.cached stocked.fingerprint kept) kept { sandbox := desk } (stockDisk work) =
        (.error e, d') := by
  rcases handed : stocked.handOver (bench refusing) (stockOptions (some target)) none
    (.cached stocked.fingerprint kept) kept { sandbox := desk } (stockDisk work)
    with ⟨e | report, d'⟩
  · exact ⟨e, d', rfl⟩
  · obtain ⟨-, d₁, -, delivered⟩ := handOver_eq_ok.mp handed
    simp only [stockOptions, deliver, CompileOutcome.cached, bind_eq_ok, pure_eq_ok] at delivered
    obtain ⟨run, _, ran, -⟩ := delivered
    obtain ⟨w', ran⟩ := rerun_eq_ok.mp ran
    obtain ⟨-, executed, -⟩ := Compile.rerun_eq_ok ran
    exact absurd executed (execute_refusing _ _ _ _ _ _ _)

/-- A report with a program that nothing could run, and with counts that are not those of the table.
With the labelled table wanted there is no report. -/
theorem handed_over_unrun : ∃ report after,
    makeProgram (bench refusing) (stockOptions none) none none (stockDisk .none) =
      (.ok report, after) ∧
      report.outcome.isSuccess = true ∧ report.outcome.artifact = some kept ∧
      (∀ program input w d run w' d',
        (bench refusing).execute program input w d ≠ (.ok run, w', d')) ∧
      Table.read (stockDisk .none) ⟨"stock.csv"⟩ = .ok stock ∧ stock.rows = 1 ∧
      report.distribution = [("keep", 2)] ∧
      ∃ e after', makeProgram (bench refusing) (stockOptions (some ⟨"out.csv"⟩)) none none
        (stockDisk .none) = (.error e, after') := by
  have handed : stocked.handOver (bench refusing) (stockOptions none) none
      (.cached stocked.fingerprint kept) kept { sandbox := desk } (stockDisk .none) =
        (.ok { outcome := .cached stocked.fingerprint kept, distribution := [("keep", 2)] },
          stockDisk .none) := rfl
  have unwanted := makeProgram_kept refusing none .none
  rw [handed] at unwanted
  obtain ⟨e, d', failed⟩ := handOver_refusing .none ⟨"out.csv"⟩
  have wanted := makeProgram_kept refusing (some ⟨"out.csv"⟩) .none
  rw [failed] at wanted
  exact ⟨_, _, unwanted, rfl, rfl, execute_refusing, (reads_stock none .none).frame, rfl, rfl, e, _,
    wanted⟩

/-! ### A host that labels -/

/-- Every process of this host leaves the labelled table. -/
def labelling : Host := fun launch _ d =>
  match d.files.write (launch.directory ++ [.text Sandbox.outputFile]) stockBytes with
  | .error e => (.error e, d)
  | .ok files =>
    (.ok ⟨.exited 0, bytesOf "PROCESS_COMPLETE\n", [], .ofMillis 1⟩, { d with files })

/-- The directory of the first run, with some entries. -/
def runEntries (es : Entries) : Entries :=
  .entry "run-001-attempt-1" (.directory es) .none

/-- What is in that directory before the run, and behind it `more`. -/
def stagedEntries (more : Entries) : Entries :=
  .entry "input.csv" (.file stockBytes) (.entry "candidate.plan.json" (.file (bytesOf "plan")) more)

/-- The disk after the run. -/
def ranDisk : Disk :=
  stockDisk (runEntries (stagedEntries (.entry "output.csv" (.file stockBytes) .none)))

def deskPaths : Runtime.Paths where
  program := ⟨"/work/run-001-attempt-1/candidate.plan.json"⟩
  input := ⟨"/work/run-001-attempt-1/input.csv"⟩
  output := ⟨"/work/run-001-attempt-1/output.csv"⟩
  workdir := ⟨"/work/run-001-attempt-1"⟩

def labelledRun : Execution :=
  ⟨some 0, "PROCESS_COMPLETE\n", "", .ofMillis 1, false, true, some deskPaths.output⟩

theorem walks_output : Disk.Walks deskPaths.output
    [.down "work", .down "run-001-attempt-1", .down "output.csv"] := by
  constructor <;> decide

theorem freshDirectory_desk : desk.freshDirectory 1 (stockDisk .none) =
    .ok (["work", "run-001-attempt-1"], stockDisk (runEntries .none)) := by
  have walks : Disk.Walks deskPaths.workdir [.down "work", .down "run-001-attempt-1"] := by
    constructor <;> decide
  have path : desk.root.child (Sandbox.runName (desk.runs + 1) 1) = deskPaths.workdir := by
    decide
  have made : (stockDisk .none).makeDir deskPaths.workdir = .ok (stockDisk (runEntries .none)) := by
    rw [Disk.makeDir, walks.walk]
    rfl
  have located : (stockDisk (runEntries .none)).locate deskPaths.workdir =
      .ok ["work", "run-001-attempt-1"] := by
    rw [walks.locate]
    rfl
  simp only [Sandbox.freshDirectory, path, made, located]

theorem stage_desk : Sandbox.stage ⟨1, .labelPlan, "plan", none⟩ ⟨"stock.csv"⟩ deskPaths
    (stockDisk (runEntries .none)) = .ok (stockDisk (runEntries (stagedEntries .none))) := by
  have input : Disk.Walks deskPaths.input
      [.down "work", .down "run-001-attempt-1", .down "input.csv"] := by
    constructor <;> decide
  have program : Disk.Walks deskPaths.program
      [.down "work", .down "run-001-attempt-1", .down "candidate.plan.json"] := by
    constructor <;> decide
  obtain ⟨-, read, -⟩ := read_stock (walks_stock.locate (stockDisk (runEntries .none))) rfl
  have copied : (stockDisk (runEntries .none)).copy ⟨"stock.csv"⟩ deskPaths.input =
      .ok (stockDisk (runEntries (.entry "input.csv" (.file stockBytes) .none))) := by
    rw [Disk.copy, read]
    exact input.write rfl rfl rfl
  have wrote : (stockDisk (runEntries (.entry "input.csv" (.file stockBytes) .none))).write
      deskPaths.program (bytesOf "plan") = .ok (stockDisk (runEntries (stagedEntries .none))) :=
    program.write rfl rfl rfl
  simp only [Sandbox.stage, copied, wrote]

theorem execute_labelling :
    (bench labelling).execute ⟨1, .labelPlan, "plan", none⟩ ⟨"stock.csv"⟩ { sandbox := desk }
      (stockDisk .none) = (.ok labelledRun, { sandbox := { desk with runs := 1 } }, ranDisk) := by
  have paths : desk.pathsIn ["work", "run-001-attempt-1"] = deskPaths := by decide
  have recorded : desk.record deskPaths
      ⟨.exited 0, bytesOf "PROCESS_COMPLETE\n", [], .ofMillis 1⟩ = labelledRun := by decide
  have started : desk.start labelling [] ["work", "run-001-attempt-1"]
      (stockDisk (runEntries (stagedEntries .none))) = (.ok labelledRun, ranDisk) := by
    obtain ⟨executable, arguments, rendered⟩ : ∃ executable arguments,
        desk.runtime.render deskPaths = executable :: arguments := ⟨_, _, rfl⟩
    simp only [Sandbox.start, paths, rendered, labelling]
    rw [← recorded]
    rfl
  simp only [Surroundings.execute, Sandbox.execute, freshDirectory_desk, paths, stage_desk]
  exact congrArg (fun r => (r.1, (⟨{ desk with runs := 1 }, 0⟩ : Workbench), r.2)) started

theorem rerun_labelling : rerun (bench labelling) stocked.settings.writer.language kept
    (stocked.request ⟨"stock.csv"⟩) { sandbox := desk } (stockDisk .none) =
      (.ok ⟨labelledRun, { passed := true, rowCount := some 1, distribution := [("keep", 1)] },
        deskPaths.output, 1⟩, ranDisk) := by
  have passed : Validation.check ranDisk labelledRun stocked.expectations stocked.frame.rows =
      { passed := true, rowCount := some 1, distribution := [("keep", 1)] } := by
    obtain ⟨file, -, read⟩ := read_stock (walks_output.locate ranDisk) rfl
    simp only [Validation.check, Validation.artifact, labelledRun, file, read]
    decide +kernel
  have executed : ((bench labelling).runners stocked.settings.writer.language).execute
      ⟨kept.manifest.attempt, kept.manifest.language, kept.source, none⟩ ⟨"stock.csv"⟩
      { sandbox := desk } (stockDisk .none) =
        (.ok labelledRun, { sandbox := { desk with runs := 1 } }, ranDisk) := execute_labelling
  have concluded : Compile.conclude kept.fingerprint stocked.expectations stocked.frame.rows ranDisk
      labelledRun = .ok ⟨labelledRun,
        { passed := true, rowCount := some 1, distribution := [("keep", 1)] }, deskPaths.output,
        1⟩ := by
    rw [Compile.conclude, passed]
    rfl
  refine rerun_eq_ok.mpr ⟨{ sandbox := { desk with runs := 1 } }, ?_⟩
  rw [Compile.rerun, intact_kept]
  simp only [Bool.not_true, Bool.false_eq_true, if_false, Readied.request, executed, concluded]

theorem copyResult_ranDisk :
    ∃ d', copyResult deskPaths.output ⟨"out.csv"⟩ ranDisk = (.ok (), d') := by
  have made : makeParent ⟨"out.csv"⟩ ranDisk = (.ok (), ranDisk) := by
    rw [makeParent, Disk.parent?_out]
    rfl
  obtain ⟨-, read, -⟩ := read_stock (walks_output.locate ranDisk) rfl
  obtain ⟨d', copied⟩ : ∃ d', ranDisk.copy deskPaths.output ⟨"out.csv"⟩ = .ok d' := by
    rw [Disk.copy, read]
    exact ⟨_, Disk.walks_out.write rfl rfl rfl⟩
  refine ⟨d', ?_⟩
  rw [copyResult, bind_of_ok made, bind_of_ok (reading_eq_ok.mpr ⟨copied, rfl⟩)]
  rfl

theorem makeProgram_labelling : ∃ report d',
    makeProgram (bench labelling) (stockOptions (some ⟨"out.csv"⟩)) none none (stockDisk .none) =
      (.ok report, d') ∧
      report.outcome.isSuccess = true ∧ report.distribution = [("keep", 1)] := by
  obtain ⟨d', copied⟩ := copyResult_ranDisk
  have delivered : deliver (bench labelling) stocked.settings (stocked.request ⟨"stock.csv"⟩)
      (.cached stocked.fingerprint kept) kept { sandbox := desk } (some ⟨"out.csv"⟩)
      (stockDisk .none) = (.ok ([("keep", 1)], some ⟨"out.csv"⟩), d') := by
    simp only [deliver, CompileOutcome.cached, bind_eq_ok, pure_eq_ok]
    exact ⟨_, _, rerun_labelling, _, _, ⟨rfl, rfl⟩, ⟨⟩, d', copied, rfl, rfl⟩
  have handed : stocked.handOver (bench labelling) (stockOptions (some ⟨"out.csv"⟩)) none
      (.cached stocked.fingerprint kept) kept { sandbox := desk } (stockDisk .none) =
        (.ok ⟨.cached stocked.fingerprint kept, [("keep", 1)], some ⟨"out.csv"⟩, none⟩, d') :=
    handOver_eq_ok.mpr ⟨rfl, _, rfl, delivered⟩
  have ran := makeProgram_kept labelling (some ⟨"out.csv"⟩) .none
  rw [handed] at ran
  exact ⟨_, _, ran, rfl, rfl⟩

/-- With the labelled table wanted, the same program is run on the table of one row. -/
theorem makeProgram_checked_labelling : ∃ report d' p d₁ sandbox d₂,
    makeProgram (bench labelling) (stockOptions (some ⟨"out.csv"⟩)) none none (stockDisk .none) =
      (.ok report, d') ∧
      report.outcome.isSuccess = true ∧
      Reads (stockOptions (some ⟨"out.csv"⟩)) none (stockDisk .none) p d₁ ∧
      (bench labelling).build p.settings none d₁ = (.ok sandbox, d₂) ∧
      Checked (bench labelling) (stockOptions (some ⟨"out.csv"⟩)) none p sandbox d₂ report ∧
      report.distribution = [("keep", 1)] := by
  obtain ⟨report, d', ran, success, counts⟩ := makeProgram_labelling
  obtain ⟨p, d₁, sandbox, d₂, reads, built, checked, -, -⟩ := makeProgram_checked
    (bench labelling) (stockOptions (some ⟨"out.csv"⟩)) none none (stockDisk .none) d' report ran
    success
  exact ⟨report, d', p, d₁, sandbox, d₂, ran, success, reads, built, checked, counts⟩

end Command

end LabelForge
