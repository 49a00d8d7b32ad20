import LabelForge.CommandLine.Answer
import LabelForge.Proofs.Command.Delivery
import LabelForge.Proofs.Sandbox.Marker
import LabelForge.Proofs.Sandbox.Runtime
import LabelForge.Proofs.Sandbox.Verbatim

/-!
# LabelForge.Proofs.CommandLine.Handover

**The marker that is looked for is the one that is printed.** A sandbox in which label plans are
applied starts this very program, and tells it on its command line which marker to print. On its way
the marker is a word of a command line with placeholders, a word that could be an option, a line of
output, and a line that is trimmed before it is compared. A marker that none of this changes is
handed over unchanged, and is printed. It is seen exactly if it is one line (`markerSeen_of_apply`).

The words before the marker do no harm. The operands are absolute paths, even if the directory of
the sandbox has the name of a placeholder, so none of them is taken for an option.
-/

namespace LabelForge

open Text (Straddled bytesOf)

namespace CommandLine

/-- A path that starts at the root is no option. -/
theorem Word.ofText_of_isAbsolute {word : String} (absolute : FilePath.isAbsolute ⟨word⟩ = true) :
    Word.ofText word = .plain := by
  obtain ⟨cs, text⟩ := FilePath.isAbsolute_iff.1 absolute
  simp only at text
  rw [ofText, text]
  rfl

namespace Grammar

variable {g : Grammar} {given : Given} {word : String} (rest : List String)

/-- A word for which there is room is an operand. -/
theorem read_operand (plain : Word.ofText word = .plain) (free : word ∉ g.commands)
    (room : given.operands.length < g.operands) (nonempty : word ≠ "") :
    g.read given (word :: rest) =
      g.read { given with operands := given.operands ++ [word] } rest := by
  have other : ¬ g.commands.contains word = true := mt List.contains_iff_mem.1 free
  have text : word.isEmpty = false := Bool.eq_false_iff.2 (mt String.isEmpty_iff.1 nonempty)
  have added : g.addOperand given word =
      .ok { given with operands := given.operands ++ [word] } := by
    rw [addOperand, text, decide_eq_true room]
    rfl
  simp only [read, plain, if_neg other, added]

/-- The word behind an option is its value. -/
theorem read_value {name value : String} {o : OptionSpec} {accepts : String → Bool}
    (option : Word.ofText word = .named name none)
    (found : (g.options.find? fun o => o.name == name) = some o) (kind : o.kind = .value accepts)
    (plain : Word.ofText value = .plain) (accepted : accepts value = true)
    (once : given.has name = false) :
    g.read given (word :: value :: rest) = g.read (given.add name value) rest := by
  rw [read, option]
  simp only [found, kind, plain, addValue, accepted, Given.addOnce, once, Bool.false_eq_true,
    if_true, if_false]

end Grammar

/-! ### Applying a plan -/

/-- The grammar of applying a plan. -/
def applyGrammar : Grammar :=
  { options := Invocation.messageOptions ++ [Invocation.ofText "marker"], operands := 3 }

section Apply

variable {plan input output marker : String}

theorem read_apply (absolute : ∀ path ∈ [plan, input, output], FilePath.isAbsolute ⟨path⟩ = true)
    (value : Word.ofText marker = .plain) :
    applyGrammar.read {} [plan, input, output, "--marker", marker] =
      .ok (⟨[("marker", marker)], [plan, input, output]⟩, []) := by
  have operand {path : String} (mem : path ∈ [plan, input, output]) (given : Given)
      (room : given.operands.length < 3) (rest : List String) :
      applyGrammar.read given (path :: rest) =
        applyGrammar.read { given with operands := given.operands ++ [path] } rest := by
    refine Grammar.read_operand rest (Word.ofText_of_isAbsolute (absolute path mem))
      List.not_mem_nil room ?_
    rintro rfl
    exact absurd (absolute "" mem) (by decide)
  have option : Word.ofText "--marker" = .named "marker" none := by decide
  rw [operand (by simp) _ (by simp), operand (by simp) _ (by simp), operand (by simp) _ (by simp),
    Grammar.read_value [] option rfl rfl value rfl rfl, Grammar.read]
  rfl

theorem readBy_of_read {g : Grammar} {words rest : List String} {given : Given}
    (read : g.read {} words = .ok (given, rest)) (silent : given.has "verbose" = false) :
    Invocation.readBy g words = .ok (given, rest) := by
  rw [Invocation.readBy, read]
  simp only [bind, Except.bind, silent, Bool.false_and, Bool.false_eq_true, if_false]
  rfl

theorem parse_apply (absolute : ∀ path ∈ [plan, input, output], FilePath.isAbsolute ⟨path⟩ = true)
    (value : Word.ofText marker = .plain) :
    Invocation.parse ["apply", plan, input, output, "--marker", marker] =
      .ok { command := .apply ⟨plan⟩ ⟨input⟩ ⟨output⟩ marker } := by
  -- what stands before the command ends with it, so the marker is read by the grammar of `apply`
  have outer : Invocation.outerGrammar.read {} ["apply", plan, input, output, "--marker", marker] =
      .ok ({}, ["apply", plan, input, output, "--marker", marker]) := by
    rw [Grammar.read]
    rfl
  have inner := readBy_of_read (read_apply absolute value) rfl
  have named : Invocation.grammars.lookup "apply" = .some applyGrammar := rfl
  simp only [Invocation.parse, readBy_of_read outer rfl, bind, Except.bind, named, inner]
  rfl

/-- What a process leaves that has applied a plan. -/
def finished (marker : String) : Finished :=
  ⟨.exited 0, bytesOf (marker ++ "\n"), [], .ofMillis 0⟩

/-- Nothing but the marker is printed. -/
theorem asProcess_apply (S : Surroundings) {words : List String} {plan input output : FilePath}
    {d d' : Disk}
    (parsed : Invocation.parse words = .ok { command := .apply plan input output marker })
    (applied : Command.applyPlan plan input output d = (.ok (), d')) :
    asProcess S words d = (finished marker, d') := by
  have performed : (Command.perform { S with host := noHost }
      (.apply plan input output marker)).run d = (.ok (.applied marker), d') :=
    CommandM.bind_of_ok applied _
  have line : endedLines [marker] = marker ++ "\n" := by
    rw [endedLines, List.map_singleton, String.join_cons, String.join_nil, String.append_empty]
  simp only [asProcess, answer, parsed, obey, performed, CommandReport.printed, line]
  rfl

end Apply

/-- What it takes to start the program with some arguments in a sandbox. -/
structure Startable (S : Surroundings) (s : Sandbox) (arguments : List String) : Prop where
  /-- The path of the program is not taken for something else. -/
  executable : Runtime.Free S.executable
  /-- All words can be given to a process. -/
  written : ∀ word ∈ S.executable :: arguments, '\x00' ∉ word.toList
  /-- There is time for it. -/
  time : s.limits.timeout.totalNanos ≠ 0

theorem start_selfHost {S : Surroundings} {s : Sandbox} {directory : Location}
    {arguments : List String} {d d' : Disk} {p : Finished}
    (rendered : s.runtime.render (s.pathsIn directory) = S.executable :: arguments)
    (startable : Startable S s arguments)
    (ran : asProcess S arguments { d with cwd := directory } = (p, d'))
    (inherited : List (String × String)) :
    s.start (selfHost S) inherited directory d =
      (.ok (s.record (s.pathsIn directory) p), { d' with cwd := d.cwd }) := by
  have written : ((S.executable :: arguments).all fun text => !text.contains '\x00') = true :=
    List.all_eq_true.2 fun word mem => by
      rw [String.contains_char_eq, decide_eq_false (startable.written word mem), Bool.not_false]
  have time : (s.limits.timeout.totalNanos == 0) = false := beq_eq_false_iff_ne.2 startable.time
  simp only [Sandbox.start, rendered, selfHost, Machine.host, Machine.isWritten, written,
    Machine.program?, List.lookup_cons_self, time, ran]
  rfl

/-! ### What the sandbox sees -/

/-- A sandbox that was built for label plans tells the program its own marker. -/
theorem runtime_of_build {S : Surroundings} {r : Resolved} {workdir : Option FilePath} {d d' : Disk}
    {s : Sandbox} (unnamed : r.runtime = none) (writer : r.writer.language = .labelPlan)
    (built : S.build r workdir d = (.ok s, d')) :
    s.runtime = S.runtimeOf .labelPlan s.limits.marker := by
  have runtime : S.runtime r = S.runtimeOf .labelPlan r.settings.limits.marker := by
    rw [Surroundings.runtime, unnamed, Option.getD_none, writer]
  have inside {root : FilePath}
      (made : Sandbox.inside (S.runtime r) r.settings.limits root = .ok s) :
      s.runtime = S.runtimeOf .labelPlan s.limits.marker := by
    rw [Sandbox.inside] at made
    split at made
    · cases made
    · cases made
      exact runtime
  -- both with a directory of its own and without one, it is made inside of some directory
  simp only [Surroundings.build, Sandbox.below] at built
  split at built
  · split at built
    · cases built
    · split at built
      · cases built
      · exact inside (Prod.mk.inj built).1
  · split at built
    · cases built
    · exact inside (Prod.mk.inj built).1

section Marker

variable {S : Surroundings} {s : Sandbox} (paths : Runtime.Paths)

theorem render_runtimeOf {marker : String} (free : Runtime.Free marker) :
    (S.runtimeOf .labelPlan marker).render paths =
      Runtime.filled paths S.executable :: "apply" ::
        (Runtime.operands.map (Runtime.filled paths) ++ ["--marker", marker]) := by
  have words : (S.runtimeOf .labelPlan marker).command =
      S.executable :: "apply" :: (Runtime.operands ++ ["--marker", marker]) := rfl
  rw [Runtime.render_eq_map, words, List.map_cons, List.map_cons, List.map_append, List.map_cons,
    List.map_singleton, Runtime.filled_of_free paths (by decide : Runtime.Free "apply"),
    Runtime.filled_of_free paths (by decide : Runtime.Free "--marker"),
    Runtime.filled_of_free paths free]

/-- The marker that is printed is captured as it is. -/
theorem stdout_finished
    (room : (bytesOf (s.limits.marker ++ "\n")).length ≤ s.limits.outputBytes)
    (legible : ¬ Nonempty (Straddled (s.limits.marker ++ "\n") (s.limits.outputBytes / 2))) :
    (s.record paths (finished s.limits.marker)).stdout = s.limits.marker ++ "\n" :=
  (Capture.ofPieces_eq_iff List.flatten_singleton room).2 legible

/-- It is seen if it is one line. -/
theorem markerSeen_finished (solid : Text.trim s.limits.marker = s.limits.marker)
    (captured : (s.record paths (finished s.limits.marker)).stdout = s.limits.marker ++ "\n") :
    (s.record paths (finished s.limits.marker)).markerSeen = true ↔
      '\n' ∉ s.limits.marker.toList := by
  have seen (p : Finished) : (s.record paths p).markerSeen =
      hasMarkerLine s.limits.marker (s.record paths p).stdout := by rw [Sandbox.record]
  rw [seen, captured]
  refine ⟨unbroken_of_hasMarkerLine, fun unbroken => ?_⟩
  by_cases nonempty : s.limits.marker = ""
  · -- an empty line is printed, and counts as a line
    rw [nonempty]
    decide
  · have text : (s.limits.marker ++ "\n").toList = [] ++ (s.limits.marker.toList ++ ['\n']) :=
      String.toList_append
    exact hasMarkerLine_of_lastLine text (.inl rfl) (.inr (.inl rfl)) nonempty unbroken solid

end Marker

/-! ### A table to label -/

open Command (bench stock stockBytes)
open FileTree (Entries)

/-- A plan without rules. -/
def planText : String :=
  "\x7b\"format\":\"rulesmith-label-plan/v1\",\"status_column\":\"Status\"," ++
    "\"default_label\":\"keep\",\"rules\":[]\x7d"

/-- A disk with that plan and a table of one row where a run expects them, and `more` beside. -/
def planDisk (more : Entries) : Disk where
  files := .directory (.entry "work" (.directory
    (.entry "input.csv" (.file stockBytes)
    (.entry "candidate.plan.json" (.file (bytesOf planText)) more))) .none)
  cwd := ["work"]

/-- The disk when the plan has been applied. -/
def labelledDisk : Disk :=
  planDisk (.entry "output.csv" (.file (bytesOf (Csv.print stock))) .none)

/-- The settings with a marker in the place of the usual one. -/
def settingsWith (marker : String) : Resolved :=
  Config.resolve { engine := { marker } } {}

/-- A sandbox with these settings. -/
def planSandbox (marker : String) : Sandbox where
  runtime := (bench noHost).runtimeOf .labelPlan marker
  limits := { marker }
  root := ⟨"/work"⟩

theorem isDir_planDisk (more : Entries) : (planDisk more).isDir ⟨"/work"⟩ = true := by
  have walks : Disk.Walks ⟨"/work"⟩ [.down "work"] := by constructor <;> decide
  exact walks.isDir rfl rfl

theorem build_planSandbox (marker : String) :
    (bench noHost).build (settingsWith marker) none (planDisk .none) =
      (.ok (planSandbox marker), planDisk .none) := by
  simp only [Surroundings.build, bench, Disk.makeDirs_there (isDir_planDisk .none)]
  rfl

theorem planOf_planDisk : Command.planOf ⟨"/work/candidate.plan.json"⟩ (planDisk .none) =
    (.ok ⟨"Status", "keep", []⟩, planDisk .none) := by
  have walks : Disk.Walks ⟨"/work/candidate.plan.json"⟩
      [.down "work", .down "candidate.plan.json"] := by
    constructor <;> decide
  have read : (planDisk .none).readText ⟨"/work/candidate.plan.json"⟩ = .ok planText :=
    walks.readText rfl rfl
  have parsed : Plan.parse planText = .ok ⟨"Status", "keep", []⟩ :=
    Json.toOption_eq_some.mp (by decide +kernel)
  rw [Command.planOf, CommandM.bind_of_ok (CommandM.reading_eq_ok.2 ⟨read, rfl⟩)]
  exact CommandM.ofExcept_eq_ok.2 ⟨parsed, rfl⟩

theorem write_planDisk :
    Table.write stock (planDisk .none) ⟨"/work/output.csv"⟩ = (.ok (), labelledDisk) := by
  have walks : Disk.Walks ⟨"/work/output.csv"⟩ [.down "work", .down "output.csv"] := by
    constructor <;> decide
  have parent : FilePath.parent? ⟨"/work/output.csv"⟩ = .some ⟨"/work"⟩ := by decide
  have made : (planDisk .none).write ⟨"/work/output.csv"⟩ [] =
      .ok (planDisk (.entry "output.csv" (.file []) .none)) := walks.write rfl rfl rfl
  have wrote : (planDisk (.entry "output.csv" (.file []) .none)).write ⟨"/work/output.csv"⟩
      (bytesOf (Csv.print stock)) = .ok labelledDisk := walks.write rfl rfl rfl
  simp only [Table.write, Table.makeParent, parent, Disk.makeDirs_there (isDir_planDisk .none),
    made, wrote]

theorem applyPlan_planDisk : Command.applyPlan ⟨"/work/candidate.plan.json"⟩ ⟨"/work/input.csv"⟩
    ⟨"/work/output.csv"⟩ (planDisk .none) = (.ok (), labelledDisk) := by
  have walks : Disk.Walks ⟨"/work/input.csv"⟩ [.down "work", .down "input.csv"] := by
    constructor <;> decide
  obtain ⟨-, -, table⟩ := Command.read_stock (walks.locate (planDisk .none)) rfl
  have labelled : Plan.apply ⟨"Status", "keep", []⟩ stock = .ok stock :=
    Json.toOption_eq_some.mp (by decide +kernel)
  rw [Command.applyPlan, CommandM.bind_of_ok planOf_planDisk,
    CommandM.bind_of_ok (Command.tableOf_eq_ok.2 ⟨table, rfl⟩),
    CommandM.bind_of_ok (CommandM.ofExcept_eq_ok.2 ⟨labelled, rfl⟩)]
  exact CommandM.changing_eq_ok.2 write_planDisk

/-- The arguments of the process there. -/
def planArguments (marker : String) : List String :=
  ["apply", "/work/candidate.plan.json", "/work/input.csv", "/work/output.csv", "--marker", marker]

theorem startable_planSandbox {marker : String} (written : '\x00' ∉ marker.toList) :
    Startable (bench noHost) (planSandbox marker) (planArguments marker) where
  executable := by decide
  written := by
    have others : ∀ word ∈ "tool" :: (planArguments "").dropLast, '\x00' ∉ word.toList := by decide
    exact List.forall_mem_append.2 ⟨others, List.forall_mem_singleton.2 written⟩
  time := by
    show Duration.totalNanos (.ofSeconds 30) ≠ 0
    decide

/-- **The marker that is looked for is the one that is printed.** The command line of a sandbox for
label plans hands the marker over unchanged if it has no placeholder and is not read as an option.
Where the plan is applied to the table, the process prints the marker and nothing else. The sandbox
captures it as it is if the limit has room for it and does not cut a character of it, and sees it,
if there are no blanks around it, exactly if it is one line. -/
theorem markerSeen_of_apply (S : Surroundings) (s : Sandbox) (directory : Location)
    {plan input output : String} (runtime : s.runtime = S.runtimeOf .labelPlan s.limits.marker)
    (operands : Runtime.operands.map (Runtime.filled (s.pathsIn directory)) = [plan, input, output])
    (free : Runtime.Free s.limits.marker) (value : Word.ofText s.limits.marker = .plain)
    (solid : Text.trim s.limits.marker = s.limits.marker)
    (room : (bytesOf (s.limits.marker ++ "\n")).length ≤ s.limits.outputBytes)
    (legible : ¬ Nonempty (Straddled (s.limits.marker ++ "\n") (s.limits.outputBytes / 2))) :
    s.runtime.render (s.pathsIn directory) =
        [Runtime.filled (s.pathsIn directory) S.executable, "apply", plan, input, output,
          "--marker", s.limits.marker] ∧
      Invocation.parse ["apply", plan, input, output, "--marker", s.limits.marker] =
        .ok { command := .apply ⟨plan⟩ ⟨input⟩ ⟨output⟩ s.limits.marker } ∧
      ∀ inherited d d',
        Startable S s ["apply", plan, input, output, "--marker", s.limits.marker] →
        Command.applyPlan ⟨plan⟩ ⟨input⟩ ⟨output⟩ { d with cwd := directory } = (.ok (), d') →
        ∃ run, s.start (selfHost S) inherited directory d = (.ok run, { d' with cwd := d.cwd }) ∧
          run.stdout = s.limits.marker ++ "\n" ∧
          (run.markerSeen = true ↔ '\n' ∉ s.limits.marker.toList) := by
  have rendered : s.runtime.render (s.pathsIn directory) =
      [Runtime.filled (s.pathsIn directory) S.executable, "apply", plan, input, output,
        "--marker", s.limits.marker] := by
    rw [runtime, render_runtimeOf _ free, operands]
    rfl
  have absolute : ∀ path ∈ [plan, input, output], FilePath.isAbsolute ⟨path⟩ = true := by
    rw [← operands, List.forall_mem_map]
    exact fun _ => s.isAbsolute_operand directory
  have parsed := parse_apply absolute value
  refine ⟨rendered, parsed, fun inherited d d' startable applied => ?_⟩
  rw [Runtime.filled_of_free _ startable.executable] at rendered
  have captured := stdout_finished (s.pathsIn directory) room legible
  have started := start_selfHost rendered startable (asProcess_apply S parsed applied) inherited
  exact ⟨_, started, captured, markerSeen_finished _ solid captured⟩

/-- A marker with blanks in it, and with a character that is not of ASCII. -/
theorem markerSeen_of_apply_ready :
    (bench noHost).build (settingsWith "plan applied ✓") none (planDisk .none) =
      (.ok (planSandbox "plan applied ✓"), planDisk .none) ∧
    ∃ run, (planSandbox "plan applied ✓").start (selfHost (bench noHost)) [] ["work"]
        (planDisk .none) = (.ok run, labelledDisk) ∧
      run.stdout = "plan applied ✓\n" ∧ run.markerSeen = true := by
  have built := build_planSandbox "plan applied ✓"
  have operands : Runtime.operands.map
      (Runtime.filled ((planSandbox "plan applied ✓").pathsIn ["work"])) =
        ["/work/candidate.plan.json", "/work/input.csv", "/work/output.csv"] := by decide
  have legible : ¬ Nonempty (Straddled ("plan applied ✓" ++ "\n") (256 * 1024 / 2)) :=
    (Text.lenient_halves_iff _ _).1 (by decide)
  obtain ⟨-, -, seen⟩ := markerSeen_of_apply (bench noHost) (planSandbox "plan applied ✓") ["work"]
    (runtime_of_build rfl rfl built) operands (by decide) (by decide) (by decide) (by decide)
    legible
  obtain ⟨run, started, stdout, marks⟩ := seen [] (planDisk .none) labelledDisk
    (startable_planSandbox (by decide)) applyPlan_planDisk
  exact ⟨built, run, started, stdout, marks.2 (by decide)⟩

/-- A marker of two lines is handed over and printed, but it is no line. -/
theorem unseen_done_twice :
    (bench noHost).build (settingsWith "DONE\nTWICE") none (planDisk .none) =
      (.ok (planSandbox "DONE\nTWICE"), planDisk .none) ∧
    (bytesOf "DONE\nTWICE\n").length ≤ (planSandbox "DONE\nTWICE").limits.outputBytes ∧
    Command.applyPlan ⟨"/work/candidate.plan.json"⟩ ⟨"/work/input.csv"⟩ ⟨"/work/output.csv"⟩
      (planDisk .none) = (.ok (), labelledDisk) ∧
    ∃ run, (planSandbox "DONE\nTWICE").start (selfHost (bench noHost)) [] ["work"]
        (planDisk .none) = (.ok run, labelledDisk) ∧
      run.exitCode = .some 0 ∧ run.stdout = "DONE\nTWICE\n" ∧ run.markerSeen = false := by
  have rendered : (planSandbox "DONE\nTWICE").runtime.render
      ((planSandbox "DONE\nTWICE").pathsIn ["work"]) =
        (bench noHost).executable :: planArguments "DONE\nTWICE" := by decide
  have absolute : ∀ path ∈ ["/work/candidate.plan.json", "/work/input.csv", "/work/output.csv"],
      FilePath.isAbsolute ⟨path⟩ = true := by decide
  have value : Word.ofText "DONE\nTWICE" = .plain := by decide
  have ran := asProcess_apply (bench noHost) (parse_apply absolute value) applyPlan_planDisk
  have started := start_selfHost (d := planDisk .none) rendered (startable_planSandbox (by decide))
    ran []
  exact ⟨build_planSandbox _, by decide, applyPlan_planDisk, _, started, rfl, by decide, by decide⟩

end CommandLine

end LabelForge
