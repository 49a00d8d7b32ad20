import LabelForge.Attempt.Rehearsal
import LabelForge.Frame.Document
import LabelForge.Main
import LabelForge.Proofs.Expectations
import LabelForge.Proofs.Labelling
import LabelForge.Proofs.Compile.Attempts
import LabelForge.Proofs.Json.Scalar
import LabelForge.Proofs.Json.Spelling
import LabelForge.Proofs.Artifact
import LabelForge.Proofs.Compile.Reuse
import LabelForge.Proofs.Compile.Storage
import LabelForge.Proofs.Store.Refinement
import LabelForge.Proofs.Store.Rivals
import LabelForge.Proofs.Store.Interruption
import LabelForge.Proofs.Table
import LabelForge.Proofs.Verdict
import LabelForge.Proofs.Number.Shortest
import LabelForge.Proofs.Number.Layout
import LabelForge.Proofs.Json.Real
import LabelForge.Proofs.Plan
import LabelForge.Proofs.Json.Compact
import LabelForge.Proofs.Fingerprint
import LabelForge.Proofs.Store.Search
import LabelForge.Proofs.Store.Traffic
import LabelForge.Proofs.Compile.Coherence
import LabelForge.Proofs.Compile.Questions
import LabelForge.Proofs.Command.Delivery
import LabelForge.Proofs.Applicability
import LabelForge.Proofs.StatusColumn
import LabelForge.Proofs.IntegerClause
import LabelForge.Proofs.Compile.Repair
import LabelForge.Proofs.Distribution
import LabelForge.Proofs.Compile.Rerun
import LabelForge.Proofs.Compile.Lessons
import LabelForge.Proofs.CommandLine.Handover
import LabelForge.Proofs.Sandbox.Rendering
import LabelForge.Proofs.Synthesis.Reply
import LabelForge.Proofs.Reordering
import LabelForge.Proofs.Insertion
import LabelForge.Proofs.Command.Shortcut
import LabelForge.Proofs.Json.Depth
import LabelForge.Proofs.RuleDocument
import LabelForge.Proofs.Defect
import LabelForge.Proofs.Digest
