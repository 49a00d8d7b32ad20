import LabelForge.Fingerprint
import LabelForge.Json.Query
import LabelForge.Sandbox.Runtime

/-!
# LabelForge.Settings

**What a compilation depends on besides its rules and its table.**
-/

namespace LabelForge

/-- The settings of a compilation. -/
structure Settings where
  /-- How many programs may be tried; at least one is. -/
  maxAttempts : Nat := 3
  limits : Limits := {}
  labels : Labels := {}
  tieBreak : TieBreak := .specificityFirst
  /-- Whether every label must occur exactly as often as expected. -/
  strictCounts : Bool := false
  /-- Whether a stored program is ignored and replaced. -/
  force : Bool := false
  deriving DecidableEq, Repr

/-- The settings of a document; what it does not name keeps its default. -/
def Settings.ofJson (j : Json) : Json.Asked Settings := do
  let base : Settings := {}
  let timeout ← j.optional "timeout_ms" (Json.asNat 64)
  return {
    maxAttempts := ← j.defaulted "max_attempts" (Json.asNat 32) base.maxAttempts
    limits := {
      timeout := timeout.elim base.limits.timeout .ofMillis
      marker := ← j.defaulted "completion_marker" Json.asText base.limits.marker
      outputBytes := ← j.defaulted "output_limit_bytes" (Json.asNat 64) base.limits.outputBytes }
    labels := ← j.defaulted "labels" Labels.decoder base.labels
    tieBreak := ← j.defaulted "policy" (Json.asWord TieBreak.words) base.tieBreak
    strictCounts := ← j.defaulted "strict_counts" Json.asBool base.strictCounts
    force := ← j.defaulted "force" Json.asBool base.force }

/-- How many programs are tried. -/
def Settings.budget (s : Settings) : Nat := max 1 s.maxAttempts

end LabelForge
