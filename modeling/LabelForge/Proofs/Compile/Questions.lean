import LabelForge.Proofs.Compile.Lessons
import LabelForge.Proofs.Compile.Reuse
import LabelForge.Synthesis.Prompt
import LabelForge.Synthesis.PlanWriter

/-!
# LabelForge.Proofs.Compile.Questions

**What a fingerprint says about the questions.** Two compilations with the same rules, columns,
policy, labels and language have the same fingerprint. A writer of plans is then asked for the same
text on every attempt. A chat model is asked by the same template: only the number of rows, the
sample rows and the completion marker are filled in differently. The marker is a setting, and not
part of the fingerprint; so a stored program is used again although its writer was told to print
another marker.

Design points:

* A template is a list of pieces with four kinds of holes. That a text follows a template is shown
  along the appends that it is made of (`Follows`), so the words of a prompt are not repeated.
-/

namespace LabelForge

/-! ### Templates -/

/-- What may be different in the first prompts of one fingerprint. -/
structure Particulars where
  total : Nat
  samples : List (List String)
  marker : String

/-- A piece of a template. -/
inductive Piece where
  | text (s : String)
  | total
  | sampleCount
  | sampleRows
  | marker
  deriving DecidableEq

/-- A text with holes. -/
abbrev Template := List Piece

/-- The text of a piece. -/
def Piece.fill (x : Particulars) : Piece → String
  | .text s => s
  | .total => toString x.total
  | .sampleCount => toString x.samples.length
  | .sampleRows => String.join (x.samples.map SchemaDigest.tableLine)
  | .marker => x.marker

namespace Template

/-- The text of a template. -/
def fill (x : Particulars) : Template → String
  | [] => ""
  | p :: t => p.fill x ++ fill x t

variable {x y : Particulars} {t : Template}

theorem fill_append (x : Particulars) (t u : Template) :
    fill x (t ++ u) = fill x t ++ fill x u := by
  induction t with
  | nil => simp [fill]
  | cons p t ih => simp only [List.cons_append, fill, ih, String.append_assoc]

/-- Two fillings that differ in the marker alone. -/
structure Siblings (x y : Particulars) : Prop where
  total : x.total = y.total
  samples : x.samples = y.samples

theorem Siblings.fill_eq (h : Siblings x y) {p : Piece} (other : p ≠ .marker) :
    p.fill x = p.fill y := by
  cases p with
  | text s => rfl
  | total => exact congrArg toString h.total
  | sampleCount => simp only [Piece.fill, h.samples]
  | sampleRows => simp only [Piece.fill, h.samples]
  | marker => exact absurd rfl other

/-- The markers tell by how much two such texts differ in length. -/
theorem Siblings.length (h : Siblings x y) (t : Template) :
    (fill x t).length + t.count .marker * y.marker.length =
      (fill y t).length + t.count .marker * x.marker.length := by
  induction t with
  | nil => simp [fill]
  | cons p t ih =>
      by_cases marker : p = .marker
      · subst marker
        simp only [fill, Piece.fill, String.length_append, List.count_cons_self, Nat.add_mul]
        omega
      · simp only [fill, String.length_append, h.fill_eq marker, List.count_cons_of_ne marker]
        omega

/-- A template with a hole for the marker tells the marker. -/
theorem Siblings.marker (h : Siblings x y) (hole : .marker ∈ t) (same : fill x t = fill y t) :
    x.marker = y.marker := by
  have length : x.marker.length = y.marker.length := by
    have lengths := h.length t
    rw [same] at lengths
    have some : 0 < t.count .marker := List.count_pos_iff.mpr hole
    exact (Nat.eq_of_mul_eq_mul_left some (Nat.add_left_cancel lengths)).symm
  induction t with
  | nil => cases hole
  | cons p t ih =>
      have texts := congrArg String.toList same
      simp only [fill, String.toList_append] at texts
      by_cases marker : p = .marker
      · -- up to the first marker both texts are the same, and the markers are equally long
        subst marker
        have sizes : x.marker.toList.length = y.marker.toList.length := by
          simpa only [String.length_toList] using length
        exact String.toList_inj.mp (List.append_inj texts sizes).1
      · rw [h.fill_eq marker] at texts
        have rest := String.toList_inj.mp (List.append_cancel_left texts)
        exact ih ((List.mem_cons.mp hole).resolve_left (Ne.symm marker)) rest

/-- A text follows a template: whatever the particulars are, it is the template filled with them. -/
def Follows (text : Particulars → String) (t : Template) : Prop :=
  ∀ x, text x = fill x t

namespace Follows

theorem piece (p : Piece) : Follows p.fill [p] := by
  intro x
  simp [fill]

/-- A text without holes. -/
theorem const (s : String) : Follows (fun _ => s) [.text s] :=
  piece (.text s)

theorem total : Follows (fun x => toString x.total) [.total] :=
  piece .total

theorem sampleCount : Follows (fun x => toString x.samples.length) [.sampleCount] :=
  piece .sampleCount

theorem sampleRows :
    Follows (fun x => String.join (x.samples.map SchemaDigest.tableLine)) [.sampleRows] :=
  piece .sampleRows

theorem marker : Follows (fun x => x.marker) [.marker] :=
  piece .marker

theorem append {f g : Particulars → String} {t u : Template} (hf : Follows f t)
    (hg : Follows g u) : Follows (fun x => f x ++ g x) (t ++ u) := by
  intro x
  show f x ++ g x = _
  rw [hf x, hg x, fill_append]

end Follows

/-- A text that follows a template with a hole for the marker. -/
def ShowsMarker (text : Particulars → String) : Prop :=
  ∃ t, .marker ∈ t ∧ Follows text t

namespace ShowsMarker

variable {f g : Particulars → String} {t : Template}

theorem marker : ShowsMarker fun x => x.marker :=
  ⟨[.marker], List.mem_singleton_self _, .marker⟩

theorem after (hf : Follows f t) (hg : ShowsMarker g) : ShowsMarker fun x => f x ++ g x := by
  obtain ⟨u, mem, hg⟩ := hg
  exact ⟨t ++ u, List.mem_append_right _ mem, hf.append hg⟩

theorem before (hf : ShowsMarker f) (hg : Follows g t) : ShowsMarker fun x => f x ++ g x := by
  obtain ⟨u, mem, hf⟩ := hf
  exact ⟨u ++ t, List.mem_append_left _ mem, hf.append hg⟩

end ShowsMarker

end Template

namespace Prompt

open Template (Follows ShowsMarker)

/-- The request of a first attempt. -/
def first (k : FingerprintKey) (x : Particulars) : SynthesisRequest where
  attempt := 1
  rules := k.rules
  schema := ⟨k.columns, x.samples, x.total⟩
  policy := k.policy
  labels := k.labels
  marker := x.marker
  prior := none

variable (k : FingerprintKey)

/-- The digest of a table shows its rows and their number. -/
theorem follows_render :
    ∃ t, Follows (fun x => SchemaDigest.render ⟨k.columns, x.samples, x.total⟩) t := by
  unfold SchemaDigest.render SchemaDigest.columnNames
  dsimp only
  exact ⟨_, .append (.append (.append (.append (.append (.append (.append (.append (.const _)
    .total) (.const _)) (.const _)) .sampleCount) (.const _)) (.const _)) (.const _)) .sampleRows⟩

/-- The contract shows the marker in one of its lines. -/
theorem showsMarker_contract : ShowsMarker fun x => contract (first k x) := by
  unfold contract first
  dsimp only
  simp only [String.intercalate_cons_cons]
  -- first come the lines without a hole
  repeat refine .after (.const _) ?_
  exact .before (.before (.before (.after (.const _) .marker) (.const _)) (.const _)) (.const _)

/-- The table is shown with the rules and the policy. -/
theorem follows_context : ∃ t, Follows (fun x => context (first k x)) t := by
  obtain ⟨digest, render⟩ := follows_render k
  unfold context first
  dsimp only
  exact ⟨_, .append (.append (.append (.append (.append (.const _) render) (.const _)) (.const _))
    (.const _)) (.const _)⟩

/-- The first prompts of a key follow one template. -/
theorem showsMarker_userText : ShowsMarker fun x => userText (first k x) := by
  obtain ⟨table, context⟩ := follows_context k
  exact .after (.append (.append (.const _) context) (.const _)) (showsMarker_contract k)

end Prompt

namespace Compile

variable {σ : Type} {agents : Agents σ} {settings : Settings} {request : CompileRequest}
  {calls : List Call}

/-! ### What is asked in a compilation -/

/-- Every program that was asked for was asked for on some attempt, and on the first one without a
lesson. -/
def Asked (settings : Settings) (request : CompileRequest) (calls : List Call) : Prop :=
  ∀ q answer, .wrote q answer ∈ calls →
    ∃ n prior, q = synthesisRequest settings request n prior ∧ (n = 1 → prior = none)

/-- The first attempt follows no other one, so there is nothing to repair. -/
theorem Questioned.asked (h : Questioned settings request calls) :
    Asked settings request calls := by
  intro q answer mem
  obtain ⟨before, since, split⟩ := List.append_of_mem mem
  obtain ⟨records, -, -, rfl⟩ := h before q answer since split
  refine ⟨_, _, rfl, fun first => ?_⟩
  obtain rfl : records = [] := by simpa using first
  rfl

theorem run_asked (agents : Agents σ) (settings : Settings) (store : Option Store)
    (request : CompileRequest) (w : World σ) :
    Asked settings request (run agents.observed settings store request w.unwatched).2.calls :=
  (run_made agents settings store request w).questioned.asked

/-! ### Two compilations -/

/-- What a program depends on in a compilation. -/
def keyOf {σ : Type} (agents : Agents σ) (settings : Settings) (request : CompileRequest) :
    FingerprintKey :=
  ⟨request.rules, request.schema.columns, settings.tieBreak, settings.labels, agents.language⟩

/-- What is filled into the first prompt of a compilation. -/
def particularsOf (settings : Settings) (request : CompileRequest) : Particulars :=
  ⟨request.schema.totalRows, request.schema.sampleRows, settings.limits.marker⟩

/-- The questions of a compilation are those of a key: plans are written with one text, and first
prompts are a template filled with particulars. -/
structure Questions (k : FingerprintKey) (template : Template) (x : Particulars)
    (calls : List Call) : Prop where
  plans : ∀ q answer, .wrote q answer ∈ calls →
    q.writePlan.source = (Plan.compile k.rules k.policy k.labels).print
  prompts : ∀ q answer, .wrote q answer ∈ calls → q.attempt = 1 →
    Prompt.ofRequest q = ⟨Prompt.systemText, template.fill x⟩

/-- The first prompt of a compilation is the template of its key. -/
theorem ofRequest_first {template : Template}
    (follows : Template.Follows
      (fun x => Prompt.userText (Prompt.first (keyOf agents settings request) x)) template) :
    Prompt.ofRequest (synthesisRequest settings request 1 none) =
      ⟨Prompt.systemText, template.fill (particularsOf settings request)⟩ :=
  congrArg (Prompt.mk _) (follows (particularsOf settings request))

theorem run_questions (agents : Agents σ) (settings : Settings) (store : Option Store)
    (request : CompileRequest) (w : World σ) {template : Template}
    (follows : Template.Follows
      (fun x => Prompt.userText (Prompt.first (keyOf agents settings request) x)) template) :
    Questions (keyOf agents settings request) template (particularsOf settings request)
      (run agents.observed settings store request w.unwatched).2.calls where
  plans q answer mem := by
    obtain ⟨n, prior, rfl, -⟩ := run_asked agents settings store request w q answer mem
    rfl
  prompts q answer mem first := by
    obtain ⟨n, prior, rfl, fresh⟩ := run_asked agents settings store request w q answer mem
    obtain rfl : n = 1 := first
    obtain rfl := fresh rfl
    exact ofRequest_first follows

/-- **The questions of one fingerprint.** Two compilations with the same rules, columns, policy,
labels and language have the same fingerprint, whatever else is different. All plans that are
written for them have the same text. The first prompts of both are one and the same template: only
the number of rows, the sample rows with their number, and the completion marker are filled in.
Where the tables are the same, the prompts are so exactly if the markers are. -/
theorem questions_of_fingerprint {σ τ : Type} (agents : Agents σ) (agents' : Agents τ)
    (settings settings' : Settings) (store store' : Option Store)
    (request request' : CompileRequest) (w : World σ) (w' : World τ)
    (rules : request'.rules = request.rules)
    (columns : request'.schema.columns = request.schema.columns)
    (policy : settings'.tieBreak = settings.tieBreak) (labels : settings'.labels = settings.labels)
    (language : agents'.language = agents.language) :
    fingerprintOf agents' settings' request' = fingerprintOf agents settings request ∧
      ∃ template : Template,
        Questions (keyOf agents settings request) template (particularsOf settings request)
          (run agents.observed settings store request w.unwatched).2.calls ∧
        Questions (keyOf agents settings request) template (particularsOf settings' request')
          (run agents'.observed settings' store' request' w'.unwatched).2.calls ∧
        (request'.schema = request.schema →
          (template.fill (particularsOf settings' request') =
              template.fill (particularsOf settings request) ↔
            settings'.limits.marker = settings.limits.marker)) := by
  have same : keyOf agents' settings' request' = keyOf agents settings request := by
    rw [keyOf, keyOf, rules, columns, policy, labels, language]
  obtain ⟨template, mem, follows⟩ := Prompt.showsMarker_userText (keyOf agents settings request)
  have questions := run_questions agents' settings' store' request' w' (same.symm ▸ follows)
  rw [same] at questions
  refine ⟨congrArg Fingerprint.ofKey same, template,
    run_questions agents settings store request w follows, questions, fun schema => ?_⟩
  have siblings : Template.Siblings (particularsOf settings' request')
      (particularsOf settings request) := by
    constructor <;> rw [particularsOf, particularsOf, schema]
  constructor
  · exact siblings.marker mem
  · intro marker
    rw [particularsOf, particularsOf, schema, marker]

/-- The default settings with another marker. -/
def marked : Settings := { limits := { marker := "DONE" } }

theorem marked_ne : marked.limits.marker ≠ ({} : Settings).limits.marker := by decide

/-- A chat model is told to print the other marker, but a program that was written under the default
settings is used. -/
theorem marker_ignored :
    Prompt.ofRequest (synthesisRequest marked soleRow 1 none) ≠
        Prompt.ofRequest (synthesisRequest {} soleRow 1 none) ∧
      ∃ outcome after a,
        run tidy {} (some Store.shelf) soleRow ⟨(), tidyDisk⟩ = (.ok outcome, after) ∧
        outcome.status = .promoted ∧ outcome.artifact = some a ∧
        run tidy marked (some Store.shelf) soleRow after =
          (.ok (.cached outcome.fingerprint a), after) := by
  constructor
  · intro same
    obtain ⟨template, mem, follows⟩ := Prompt.showsMarker_userText (keyOf tidy {} soleRow)
    have key : keyOf tidy marked soleRow = keyOf tidy {} soleRow := rfl
    rw [ofRequest_first follows, ofRequest_first (key ▸ follows)] at same
    have siblings : Template.Siblings (particularsOf marked soleRow) (particularsOf {} soleRow) :=
      ⟨rfl, rfl⟩
    exact marked_ne (siblings.marker mem (Prompt.mk.inj same).2)
  · obtain ⟨outcome, after, a, ran, status, deposited, readable⟩ := deposited_tidy
    exact ⟨outcome, after, a, ran, status, deposited.returned,
      deposited.reused (deposited.storable readable) valid_soleRule rfl rfl rfl⟩

theorem questions_of_fingerprint_marked :
    fingerprintOf tidy marked soleRow = fingerprintOf tidy {} soleRow ∧
      ∃ template : Template,
        Questions (keyOf tidy {} soleRow) template (particularsOf marked soleRow)
          (run tidy.observed marked none soleRow (World.unwatched ⟨(), tidyDisk⟩)).2.calls ∧
        template.fill (particularsOf marked soleRow) ≠
          template.fill (particularsOf {} soleRow) := by
  obtain ⟨same, template, -, questions, prompts⟩ := questions_of_fingerprint tidy tidy {} marked
    none none soleRow soleRow ⟨(), tidyDisk⟩ ⟨(), tidyDisk⟩ rfl rfl rfl rfl rfl
  exact ⟨same, template, questions, fun filled => marked_ne ((prompts rfl).mp filled)⟩

end Compile

end LabelForge
