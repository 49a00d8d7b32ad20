import LabelForge.Policy
import LabelForge.Program
import LabelForge.Schema

/-!
# LabelForge.Synthesis.Request

**Asking for a program.** A request holds everything that a writer of programs may use: the
rules, the digest of the table, the labels, and what became of the last program that was written
for them.
-/

namespace LabelForge

/-- A program that did not pass, and why. -/
structure PriorAttempt where
  source : String
  diagnostics : String
  deriving DecidableEq, Repr

/-- A request for a program. -/
structure SynthesisRequest where
  attempt : Nat
  rules : RuleSet
  schema : SchemaDigest
  policy : TieBreak
  labels : Labels
  marker : String
  prior : Option PriorAttempt
  deriving DecidableEq, Repr

/-- Why no program was written. -/
inductive GenerationError where
  /-- The writer could not be reached. -/
  | unavailable (reason : String)
  /-- The writer answered with an error status. -/
  | httpStatus (status : Nat) (body : String)
  /-- The answer could not be understood. -/
  | malformedResponse (reason : String)
  /-- The question could not be put. -/
  | prompt (reason : String)
  /-- The answer holds no program. -/
  | emptyProgram
  deriving DecidableEq, Repr

/-- The message of a fault. -/
def GenerationError.message : GenerationError → String
  | .unavailable reason => s!"generator unavailable: {reason}"
  | .httpStatus status body => s!"generator returned HTTP {status}: {body}"
  | .malformedResponse reason => s!"malformed generator response: {reason}"
  | .prompt reason => s!"failed to build prompt: {reason}"
  | .emptyProgram => "generator returned an empty program"

end LabelForge
