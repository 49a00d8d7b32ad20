import LabelForge.Proofs.Command.Delivery
import LabelForge.Proofs.Compile.Reuse

/-!
# LabelForge.Proofs.Command.Shortcut

**What the search of the store is good for.** A command searches the store before it asks for an
agent, and a compilation searches it again. The two searches treat failures differently, and they
take the language of the programs from different places: the command from its settings, the
compilation from the agent that writes. Still the first search changes nothing, so long as there is
an agent: what it finds, the compilation would have found; and where it finds nothing, because
nothing is stored, or because something is wrong with it, or because the store may not be used, all
is left to the compilation.

So the search saves the agent, and nothing else.
-/

namespace LabelForge

namespace Command

open CommandM

/-- The search that finds nothing, and does not look. -/
def noSearch : Search :=
  fun _ _ _ => pure none

/-- What is done in the sandbox, with a search. -/
def Readied.makeBy (search : Search) (p : Readied) (s : Surroundings) (o : EngineOptions)
    (emit : Option FilePath) (sandbox : Sandbox) : CommandM CompileReport := do
  let stored ← search p.settings p.store p.fingerprint
  let (outcome, w) ← outcomeOf s p.settings p.store (p.request o.input) p.fingerprint stored
    { sandbox }
  match outcome.artifact with
  | none => return { outcome }
  | some artifact => p.handOver s o emit outcome artifact w

variable {s : Surroundings} {p : Readied} {agents : Agents Workbench} {artifact : Artifact}
  {input : FilePath} {w : Workbench} {d : Disk}

/-- The agent that the settings name writes for the fingerprint that the command has computed. -/
theorem fingerprintOf_agents (writer : s.agents p.settings = .ok agents) (input : FilePath) :
    Compile.fingerprintOf agents p.settings.settings (p.request input) = p.fingerprint := by
  rw [Compile.fingerprintOf, agents_language writer]
  rfl

/-- What the command may use is in the store, and the store may be used. -/
theorem usable_eq_some {files : FileTree} : p.usable files = some artifact ↔
    p.settings.settings.force = false ∧
      (Store.exec (p.store.lookup p.fingerprint) files).1 = .ok (some artifact) := by
  unfold Readied.usable
  cases p.settings.settings.force with
  | true => simp only [if_true, reduceCtorEq, false_and]
  | false =>
      simp only [Bool.false_eq_true, if_false, true_and]
      -- a search that has failed counts as one that has found nothing
      rw [Option.join_eq_some_iff, Json.toOption_eq_some]

/-- A compilation uses what the command has found. -/
theorem run_usable (writer : s.agents p.settings = .ok agents) (valid : p.rules.defect? = none)
    (found : p.usable d.files = some artifact) (input : FilePath) (w : Workbench) :
    Compile.run agents p.settings.settings (some p.store) (p.request input) ⟨w, d⟩ =
      (.ok (.cached p.fingerprint artifact), ⟨w, d⟩) := by
  obtain ⟨unforced, stored⟩ := usable_eq_some.mp found
  rw [← fingerprintOf_agents writer input] at stored ⊢
  exact Compile.run_found valid unforced stored

/-- It makes no difference to the outcome whether the command has searched the store. -/
theorem outcomeOf_usable (writer : s.agents p.settings = .ok agents)
    (valid : p.rules.defect? = none) :
    outcomeOf s p.settings p.store (p.request input) p.fingerprint (p.usable d.files) w d =
      outcomeOf s p.settings p.store (p.request input) p.fingerprint none w d := by
  cases found : p.usable d.files with
  | none => rfl
  | some artifact =>
      have ran := run_usable writer valid found input w
      have unsearched : outcomeOf s p.settings p.store (p.request input) p.fingerprint none w d =
          (.ok (.cached p.fingerprint artifact, w), d) :=
        outcomeOf_eq_ok.mpr ⟨agents, writer, ran⟩
      rw [unsearched]
      rfl

/-- What is done in the sandbox is the same without the search. -/
theorem make_unsearched (writer : s.agents p.settings = .ok agents)
    (valid : p.rules.defect? = none) (o : EngineOptions) (emit : Option FilePath)
    (sandbox : Sandbox) (d : Disk) :
    p.make s o emit sandbox d = p.makeBy noSearch s o emit sandbox d := by
  have found : findStored p.settings p.store p.fingerprint d = (.ok (p.usable d.files), d) :=
    findStored_apply p d
  have missed : noSearch p.settings p.store p.fingerprint d = (.ok none, d) := rfl
  show p.makeBy findStored s o emit sandbox d = _
  unfold Readied.makeBy
  rw [bind_of_ok found, bind_of_ok missed, bind_apply, bind_apply, outcomeOf_usable writer valid]

/-- **The search of the store saves the agent, and nothing else.** Let the agent that the settings
name be there. Then a command ends with the same report or the same error, and leaves the same disk,
as it would if it did not search the store and left everything to the compilation: whatever the
store holds, whatever the rules, the table, the settings and the other arguments are, and whatever
agents and processes do. -/
theorem makeProgram_unsearched (s : Surroundings) (o : EngineOptions)
    (expect emit : Option FilePath) (d : Disk)
    (able : ∀ config, Config.loadOptional d o.config = .ok config →
      ∃ agents, s.agents (config.resolve o.overrides) = .ok agents) :
    makeProgram s o expect emit d = compileBy noSearch s o expect emit d := by
  unfold makeProgram compileBy
  -- both commands read the same, until the store is open
  refine CommandM.bind_congr fun r _ resolved => ?_
  obtain ⟨⟨config, loaded, rfl⟩, rfl⟩ := settingsOf_eq_ok.mp resolved
  obtain ⟨agents, writer⟩ := able config loaded
  refine CommandM.bind_congr fun rules _ read => ?_
  obtain ⟨-, valid, rfl⟩ := rulesOf_eq_ok.mp read
  refine CommandM.bind_congr fun frame _ _ => ?_
  refine CommandM.bind_congr fun derived _ _ => ?_
  have sandboxed : ∀ expectations store, ∀ sandbox d,
      Readied.make ⟨config.resolve o.overrides, rules, frame, expectations, store⟩ s o emit
        sandbox d =
      Readied.makeBy noSearch ⟨config.resolve o.overrides, rules, frame, expectations, store⟩ s o
        emit sandbox d :=
    fun _ _ => make_unsearched writer valid o emit
  cases expect with
  | none =>
      refine CommandM.bind_congr fun expectations _ _ => ?_
      refine CommandM.bind_congr fun store _ _ => ?_
      exact Surroundings.withSandbox_congr (sandboxed expectations store)
  | some path =>
      refine CommandM.bind_congr fun counts _ _ => ?_
      refine CommandM.bind_congr fun expectations _ _ => ?_
      refine CommandM.bind_congr fun store _ _ => ?_
      exact Surroundings.withSandbox_congr (sandboxed expectations store)

/-- The shelf holds a program for the command. The command that does not search finds it as well,
and both hand it over. -/
theorem makeProgram_unsearched_stock :
    stocked.usable (stockDisk .none).files = some kept ∧
      makeProgram (bench refusing) (stockOptions none) none none (stockDisk .none) =
        compileBy noSearch (bench refusing) (stockOptions none) none none (stockDisk .none) :=
  ⟨usable_kept .none, makeProgram_unsearched _ _ _ _ _ fun config loaded => by
    obtain rfl : ({} : Config) = config := Except.ok.inj loaded
    exact ⟨_, rfl⟩⟩

end Command

end LabelForge
