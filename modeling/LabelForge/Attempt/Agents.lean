import LabelForge.Artifact
import LabelForge.Disk
import LabelForge.Execution
import LabelForge.Sandbox.Runtime
import LabelForge.Synthesis.Request

/-!
# LabelForge.Attempt.Agents

**Those who write and run programs.** A compilation does not know who writes its programs and who
runs them. Both are functions on a state of their own, which may remember everything that was
asked before; the runner also works on the disk.

Design points:

* The language of the programs is fixed, because it takes part in the fingerprint before the
  first program is written.
* The stamp gives the time of a promotion, and a tag that no other promotion uses.
-/

namespace LabelForge

/-- When, and under which tag, a program is promoted. -/
structure Stamp where
  moment : Moment
  tag : String
  deriving DecidableEq, Repr

/-- A writer and a runner of programs with a state. -/
structure Agents (σ : Type) where
  /-- The language of the programs. -/
  language : Language
  /-- Writes a program. -/
  write : SynthesisRequest → σ → Except GenerationError Candidate × σ
  /-- Runs a program on an input. -/
  execute : Candidate → FilePath → σ → Disk → Except SandboxError Execution × σ × Disk
  /-- The stamp of a promotion. -/
  stamp : σ → Stamp

end LabelForge
