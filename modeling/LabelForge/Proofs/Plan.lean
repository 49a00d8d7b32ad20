import LabelForge.Plan.Labelling
import LabelForge.Proofs.Ranking
import LabelForge.Proofs.Rule
import LabelForge.Synthesis.PlanWriter

/-!
# LabelForge.Proofs.Plan

**A plan survives its document.** The program that is written for a request is read back as the plan
of its rules, so whoever runs the program labels a table as the rules do.

Design points:

* Texts are read back whatever they hold. Of a number it must be known that its text is read as
  that number (`Double.Rereads`); nothing else is asked of a request.
-/

namespace LabelForge

open Json Number

/-! ### Plans -/

namespace PlanRule

variable {r : PlanRule}

/-- The fields of a rule with their documents. -/
def fields (r : PlanRule) : List (Field × Json) := [
  (.required "id" asText, ofText r.id),
  (.required "action" asText, ofText r.action),
  (.defaulted "clauses" (asList Clause.decoder), ofItems (r.clauses.map Clause.toJson))]

/-- A rule is decoded from its document. -/
theorem decode_toJson (h : ∀ c ∈ r.clauses, c.value.Numbers Double.Rereads) :
    PlanRule.decoder r.toJson = .ok r := by
  have distinct : (r.fields.map (·.1.name)).Nodup := by
    show List.Nodup ["id", "action", "clauses"]
    decide
  have text (s : String) : asText (ofText s) = .ok s := rfl
  have clauses : asList Clause.decoder (ofItems (r.clauses.map Clause.toJson)) = .ok r.clauses :=
    asList_ofItems fun c mem => Clause.decode_toJson (h c mem)
  have checks : ∀ p ∈ r.fields, p.1.check p.2 = .ok () := by
    simp only [fields, List.forall_mem_cons]
    exact ⟨required_check _ (text _), required_check _ (text _), Decoder.check_eq_ok clauses, nofun⟩
  refine (gather_record_bind r.fields distinct checks _).trans ?_
  simp [fields, Field.required, Field.defaulted, Found.get, Found.getD, List.lookup_cons, bind,
    Except.bind, text, clauses]
  rfl

theorem plain_toJson (h : ∀ c ∈ r.clauses, c.value.Numbers Double.Rereads) : r.toJson.Plain := by
  refine complete_ofMembers ?_
  simp only [List.forall_mem_cons]
  refine ⟨complete_ofText _, complete_ofText _, complete_ofItems fun c listed => ?_, nofun⟩
  exact Clause.complete_toJson ((h c listed).mono fun _ => Numeral.Legible.real)

end PlanRule

namespace Plan

variable {p : Plan}

/-- A plan all of whose literals are read back. -/
def Rereads (p : Plan) : Prop :=
  ∀ r ∈ p.rules, ∀ c ∈ r.clauses, c.value.Numbers Double.Rereads

/-- The fields of a plan with their documents. -/
def fields (p : Plan) : List (Field × Json) := [
  (.required "format" asText, ofText format),
  (.required "status_column" asText, ofText p.statusColumn),
  (.required "default_label" asText, ofText p.defaultLabel),
  (.required "rules" (asList PlanRule.decoder), ofItems (p.rules.map PlanRule.toJson))]

/-- A plan is decoded from its document, with the tag of its format. -/
theorem Rereads.decode (h : p.Rereads) : taggedDecoder p.toJson = .ok (format, p) := by
  have distinct : (p.fields.map (·.1.name)).Nodup := by
    show List.Nodup ["format", "status_column", "default_label", "rules"]
    decide
  have text (s : String) : asText (ofText s) = .ok s := rfl
  have rules : asList PlanRule.decoder (ofItems (p.rules.map PlanRule.toJson)) = .ok p.rules :=
    asList_ofItems fun r mem => PlanRule.decode_toJson (h r mem)
  have checks : ∀ q ∈ p.fields, q.1.check q.2 = .ok () := by
    simp only [fields, List.forall_mem_cons]
    exact ⟨required_check _ (text _), required_check _ (text _), required_check _ (text _),
      required_check _ rules, nofun⟩
  refine (gather_record_bind p.fields distinct checks _).trans ?_
  simp [fields, Field.required, Found.get, List.lookup_cons, bind, Except.bind, text, rules]
  rfl

theorem Rereads.plain (h : p.Rereads) : p.toJson.Plain := by
  refine complete_ofMembers ?_
  simp only [List.forall_mem_cons]
  exact ⟨complete_ofText _, complete_ofText _, complete_ofText _,
    complete_ofItems fun r listed => PlanRule.plain_toJson (h r listed), nofun⟩

/-- A plan is read back from what is printed for it. -/
theorem Rereads.parse_print (h : p.Rereads) : Plan.parse p.print = .ok p := by
  have decoded : Json.decode taggedDecoder p.print = .ok (format, p) := by
    rw [Json.decode, print, read_pretty h.plain]
    simp only [h.decode, bind, Except.bind]
    rfl
  rw [Plan.parse, decoded]
  exact if_pos (beq_self_eq_true format)

/-- The literals of a plan are those of its rules. -/
theorem rereads_compile {s : RuleSet} (h : s.Numbers Double.Rereads) (policy : TieBreak)
    (labels : Labels) : (compile s policy labels).Rereads := by
  intro r mem
  obtain ⟨⟨rule, index⟩, ranked, rfl⟩ := List.mem_map.mp mem
  exact h rule (List.mem_of_getElem? (TieBreak.mem_ranked.mp ranked))

end Plan

/-! ### Programs that are plans -/

/-- The program that is written for a request is read as the plan of its rules; applied to a table
it gives what the rules give, be it a labelled table or a fault. -/
theorem SynthesisRequest.parse_writePlan (r : SynthesisRequest)
    (h : r.rules.Numbers Double.Rereads) :
    ∃ p, Plan.parse r.writePlan.source = .ok p ∧ p = Plan.compile r.rules r.policy r.labels ∧
      ∀ f : Frame, p.apply f = f.label r.rules r.policy r.labels := by
  have plan := Plan.rereads_compile h r.policy r.labels
  exact ⟨_, plan.parse_print, rfl, fun _ => rfl⟩

/-- A request for rules with literals of every kind, among them a text that has to be escaped. -/
def mixedRequest : SynthesisRequest where
  attempt := 2
  rules := ⟨[
    ⟨"old", "Old stock", ⟨[⟨"age", .gt, .number (.ofNat 180)⟩, ⟨"sold", .ne, .bool true⟩]⟩, "sell",
      1, none⟩,
    ⟨"note", "Noted", ⟨[⟨"remark", .eq, .text "say \"no\"\n"⟩,
      ⟨"drift", .le, .number (.ofDecimal true 15 (-8))⟩]⟩, "keep\ttrue", -3, some "why"⟩]⟩
  schema := ⟨[], [], 0⟩
  policy := .priorityFirst
  labels := {}
  marker := "DONE"
  prior := some ⟨"first try", "no labels"⟩

theorem SynthesisRequest.parse_writePlan_mixed :
    mixedRequest.rules.Numbers Double.Rereads ∧ Plan.parse mixedRequest.writePlan.source =
      .ok (Plan.compile mixedRequest.rules .priorityFirst {}) := by
  have numbers : (Double.ofNat 180).Rereads ∧
      (Double.ofDecimal true 15 (-8)).Rereads :=
    ⟨⟨by decide +kernel, by decide +kernel⟩, ⟨by decide +kernel, by decide +kernel⟩⟩
  have rereads : mixedRequest.rules.Numbers Double.Rereads := by
    simp [RuleSet.Numbers, mixedRequest, Literal.Numbers, numbers]
  obtain ⟨p, parsed, rfl, -⟩ := mixedRequest.parse_writePlan rereads
  exact ⟨rereads, parsed⟩

end LabelForge
