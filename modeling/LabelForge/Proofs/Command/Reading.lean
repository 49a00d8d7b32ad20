import LabelForge.Command.Compile
import LabelForge.Proofs.Command.Part
import LabelForge.Proofs.Store.Script

/-!
# LabelForge.Proofs.Command.Reading

**What a command reads before it works.** Settings, rules and table are read from the disk as it is,
and only the root of the store is made. What the output has to look like follows from them, and from
the counts of a file if one was named; nothing of it depends on what the store holds.
-/

namespace LabelForge

namespace Command

open CommandM

/-- What a command has read, and the store that it has opened. -/
structure Readied where
  settings : Resolved
  rules : RuleSet
  frame : Frame
  expectations : Expectations
  store : Store

namespace Readied

variable (p : Readied) (input : FilePath)

/-- The request to make a program. -/
def request : CompileRequest :=
  { rules := p.rules, schema := p.frame.digest, input, expectations := p.expectations,
    rows := p.frame.rows }

/-- The fingerprint of the program. -/
def fingerprint : Fingerprint :=
  fingerprintOf p.rules p.frame p.settings

/-- The program that is stored, if it may be used. -/
def usable (files : FileTree) : Option Artifact :=
  if p.settings.settings.force then none
  else (Store.exec (p.store.lookup p.fingerprint) files).1.toOption.join

end Readied

/-- The expectations are those of the rules on the table, with the counts of a file if there is
one. -/
inductive Expects (d : Disk) (derived : Expectations) : Option FilePath → Expectations → Prop where
  | derived : Expects d derived none derived
  | counted {path text counts} (read : d.readText path = .ok text)
      (decoded : Json.decode Tally.decoder text = .ok counts) :
    Expects d derived (some path) { derived with counts := some counts }

/-- What a command reads from a disk, which it leaves with a store. -/
structure Reads (o : EngineOptions) (expect : Option FilePath) (d : Disk) (p : Readied)
    (d' : Disk) : Prop where
  settings : ∃ config, Config.loadOptional d o.config = .ok config ∧
    p.settings = config.resolve o.overrides
  rules : ∃ text, d.readText o.rules = .ok text ∧ RuleSet.parse text = .ok p.rules
  valid : p.rules.defect? = none
  frame : Table.read d o.input = .ok p.frame
  expectations : ∃ derived, Expectations.derive p.frame p.rules p.settings.settings = .ok derived ∧
    Expects d derived expect p.expectations
  store : Store.open_ d o.store = (.ok p.store, d')

variable {o : EngineOptions} {d d' : Disk}

theorem settingsOf_eq_ok {r : Resolved} : settingsOf o d = (.ok r, d') ↔
    (∃ config, Config.loadOptional d o.config = .ok config ∧ r = config.resolve o.overrides) ∧
      d = d' := by
  simp only [settingsOf, bind_eq_ok, reading_eq_ok, pure_eq_ok]
  constructor
  · rintro ⟨config, _, ⟨loaded, rfl⟩, rfl, rfl⟩
    exact ⟨⟨config, loaded, rfl⟩, rfl⟩
  · rintro ⟨⟨config, loaded, rfl⟩, rfl⟩
    exact ⟨config, d, ⟨loaded, rfl⟩, rfl, rfl⟩

theorem rulesOf_eq_ok {path : FilePath} {rules : RuleSet} : rulesOf path d = (.ok rules, d') ↔
    (∃ text, d.readText path = .ok text ∧ RuleSet.parse text = .ok rules) ∧
      rules.defect? = none ∧ d = d' := by
  simp only [rulesOf, bind_eq_ok, reading_eq_ok, ofExcept_eq_ok]
  constructor
  · rintro ⟨text, _, ⟨read, rfl⟩, parsed, _, ⟨decoded, rfl⟩, checked⟩
    cases valid : parsed.defect? with
    | some defect =>
        rw [valid] at checked
        cases checked
    | none =>
        rw [valid] at checked
        obtain ⟨rfl, rfl⟩ := pure_eq_ok.mp checked
        exact ⟨⟨text, read, decoded⟩, valid, rfl⟩
  · rintro ⟨⟨text, read, decoded⟩, valid, rfl⟩
    refine ⟨text, d, ⟨read, rfl⟩, rules, d, ⟨decoded, rfl⟩, ?_⟩
    rw [valid]
    rfl

theorem tableOf_eq_ok {path : FilePath} {frame : Frame} :
    tableOf path d = (.ok frame, d') ↔ Table.read d path = .ok frame ∧ d = d' :=
  reading_eq_ok

theorem countsOf_eq_ok {path : FilePath} {counts : Tally} : countsOf path d = (.ok counts, d') ↔
    (∃ text, d.readText path = .ok text ∧ Json.decode Tally.decoder text = .ok counts) ∧
      d = d' := by
  simp only [countsOf, bind_eq_ok, reading_eq_ok, ofExcept_eq_ok]
  constructor
  · rintro ⟨text, _, ⟨read, rfl⟩, decoded, rfl⟩
    exact ⟨⟨text, read, decoded⟩, rfl⟩
  · rintro ⟨⟨text, read, decoded⟩, rfl⟩
    exact ⟨text, d, ⟨read, rfl⟩, decoded, rfl⟩

theorem expectationsOf_eq_ok {frame : Frame} {rules : RuleSet} {r : Resolved} {e : Expectations} :
    expectationsOf frame rules r d = (.ok e, d') ↔
      Expectations.derive frame rules r.settings = .ok e ∧ d = d' :=
  ofExcept_eq_ok

theorem openStore_eq_ok {root : FilePath} {store : Store} :
    openStore root d = (.ok store, d') ↔ Store.open_ d root = (.ok store, d') :=
  changing_eq_ok

/-- What a command reads does not depend on what is wanted. -/
theorem Reads.wanting {expect : Option FilePath} {p : Readied} (reads : Reads o expect d p d')
    (output : Option FilePath) : Reads { o with output } expect d p d' :=
  ⟨reads.settings, reads.rules, reads.valid, reads.frame, reads.expectations, reads.store⟩

end Command

end LabelForge
