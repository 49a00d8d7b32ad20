import LabelForge.Plan.Basic
import LabelForge.Synthesis.Request

/-!
# LabelForge.Synthesis.PlanWriter

**Writing label plans.** The rules are compiled into a plan, and the plan's document is the
program. Neither the table nor an earlier attempt makes a difference to its text.
-/

namespace LabelForge

/-- The label plan for a request, as a program. -/
def SynthesisRequest.writePlan (r : SynthesisRequest) : Candidate where
  attempt := r.attempt
  language := .labelPlan
  source := (Plan.compile r.rules r.policy r.labels).print
  diagnostics := r.prior.map PriorAttempt.diagnostics

end LabelForge
