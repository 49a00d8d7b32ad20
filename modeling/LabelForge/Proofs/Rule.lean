import LabelForge.Rule.Document
import LabelForge.Proofs.Json.Real
import LabelForge.Proofs.Json.Record
import LabelForge.Proofs.Json.Spelling

/-!
# LabelForge.Proofs.Rule

**Clauses in documents.** A clause is decoded from its document.

Design points:

* A literal stands in a document without a tag and is told by the kind of its value. A number is
  written with a point or an exponent, so it is never taken for an integer.
* What is asked of the numbers of a rule set is a property of doubles: to be read back, or only to
  be doubles.
-/

namespace LabelForge

open Json Number

/-- Whether a property holds of the number of a literal, if it is one. -/
def Literal.Numbers (p : Double → Prop) : Literal → Prop
  | .number x => p x
  | _ => True

/-- Whether a property holds of all numbers with which a rule set compares. -/
def RuleSet.Numbers (p : Double → Prop) (s : RuleSet) : Prop :=
  ∀ r ∈ s.rules, ∀ c ∈ r.condition.all, c.value.Numbers p

theorem Literal.Numbers.mono {p q : Double → Prop} (imp : ∀ x, p x → q x) {l : Literal}
    (h : l.Numbers p) : l.Numbers q := by
  cases l with
  | number x => exact imp x h
  | _ => trivial

/-! ### Clauses -/

theorem decode_operator (o : Operator) : Operator.decoder (ofText o.symbol) = .ok o := by
  cases o <;> rfl

theorem decode_literal {l : Literal} (h : l.Numbers Double.Rereads) :
    Literal.decoder l.toJson = .ok l := by
  cases l with
  | bool b => rfl
  | text s => rfl
  | number x =>
      cases x with
      | finite s n => rfl
      | _ => cases h.finite

theorem complete_literal {q : Numeral → Prop} {l : Literal}
    (h : l.Numbers fun x => q (.real x)) : l.toJson.Complete q := by
  cases l with
  | bool b => trivial
  | text s => exact complete_ofText s
  | number x =>
      cases x with
      | finite s n => exact h
      | _ => trivial

namespace Clause

variable {c : Clause}

/-- The fields of a clause with their documents. -/
def fields (c : Clause) : List (Field × Json) := [
  (.required "column" asText, ofText c.column),
  (.required "op" Operator.decoder, ofText c.op.symbol),
  (.required "value" Literal.decoder, c.value.toJson)]

/-- A clause is decoded from its document. -/
theorem decode_toJson (h : c.value.Numbers Double.Rereads) : Clause.decoder c.toJson = .ok c := by
  have distinct : (c.fields.map (·.1.name)).Nodup := by
    show List.Nodup ["column", "op", "value"]
    decide
  have column : asText (ofText c.column) = .ok c.column := rfl
  have checks : ∀ p ∈ c.fields, p.1.check p.2 = .ok () := by
    simp only [fields, List.forall_mem_cons]
    exact ⟨required_check _ column, required_check _ (decode_operator c.op),
      required_check _ (decode_literal h), nofun⟩
  refine (gather_record_bind c.fields distinct checks _).trans ?_
  simp [fields, Field.required, Found.get, List.lookup_cons, bind, Except.bind, column,
    decode_operator, decode_literal h]
  rfl

theorem complete_toJson {q : Numeral → Prop} (h : c.value.Numbers fun x => q (.real x)) :
    c.toJson.Complete q := by
  refine complete_ofMembers ?_
  simp only [List.forall_mem_cons]
  exact ⟨complete_ofText _, complete_ofText _, complete_literal h, nofun⟩

end Clause

/-! ### Rule sets -/

section Complete

variable {q : Numeral → Prop}

theorem Condition.complete_toJson {c : Condition}
    (h : ∀ k ∈ c.all, k.value.Numbers fun x => q (.real x)) : c.toJson.Complete q := by
  refine complete_ofMembers ?_
  simp only [List.forall_mem_cons]
  exact ⟨complete_ofItems fun k mem => Clause.complete_toJson (h k mem), nofun⟩

theorem Rule.complete_toJson {r : Rule} (int : q (.int r.priority))
    (h : ∀ k ∈ r.condition.all, k.value.Numbers fun x => q (.real x)) : r.toJson.Complete q := by
  refine complete_ofMembers ?_
  simp only [List.forall_mem_append, List.forall_mem_cons]
  refine ⟨⟨complete_ofText _, complete_ofText _, Condition.complete_toJson h, complete_ofText _,
    int, nofun⟩, ?_⟩
  cases r.description with
  | none => nofun
  | some d => exact List.forall_mem_cons.mpr ⟨complete_ofText d, nofun⟩

/-- The document of a rule set is complete. -/
theorem RuleSet.complete_toJson {s : RuleSet} (int : ∀ r ∈ s.rules, q (.int r.priority))
    (h : s.Numbers fun x => q (.real x)) : s.toJson.Complete q := by
  refine complete_ofMembers ?_
  simp only [List.forall_mem_cons]
  exact ⟨complete_ofItems fun r mem => Rule.complete_toJson (int r mem) (h r mem), nofun⟩

end Complete

/-! ### Rule sets are told apart by their documents -/

theorem Literal.toJson_injective {l l' : Literal} (h : l.Numbers Double.Representable)
    (h' : l'.Numbers Double.Representable) (same : l.toJson = l'.toJson) : l = l' := by
  cases l with
  | bool b =>
      cases l' with
      | bool b' => rw [Json.bool.inj same]
      | number x => cases x <;> cases same
      | text s => cases same
  | text s =>
      cases l' with
      | bool b' => cases same
      | number x => cases x <;> cases same
      | text s' => rw [Option.some.inj (Json.text.inj same)]
  | number x =>
      cases x with
      | finite negative units =>
          cases l' with
          | bool b' => cases same
          | number y =>
              cases y with
              | finite negative' units' => rw [Numeral.real.inj (Json.number.inj same)]
              | _ => exact h'.elim
          | text s => cases same
      | _ => exact h.elim

theorem Clause.toJson_injective {c c' : Clause} (h : c.value.Numbers Double.Representable)
    (h' : c'.value.Numbers Double.Representable) (same : c.toJson = c'.toJson) : c = c' := by
  obtain ⟨column, op, value⟩ := c
  obtain ⟨column', op', value'⟩ := c'
  simp only [Clause.toJson, ofMembers, Members.ofList, Json.object.injEq, Members.cons.injEq,
    true_and, and_true] at same
  obtain ⟨columns, ops, values⟩ := same
  obtain rfl := ofText_injective columns
  obtain rfl := injective_of_decode decode_operator ops
  obtain rfl := Literal.toJson_injective h h' values
  rfl

theorem Condition.toJson_injective {c c' : Condition}
    (h : ∀ k ∈ c.all, k.value.Numbers Double.Representable)
    (h' : ∀ k ∈ c'.all, k.value.Numbers Double.Representable) (same : c.toJson = c'.toJson) :
    c = c' := by
  simp only [Condition.toJson, ofMembers, Members.ofList, Json.object.injEq, Members.cons.injEq,
    true_and, and_true] at same
  have clauses := ofItems_injective
    (fun k mem k' mem' => Clause.toJson_injective (h k mem) (h' k' mem')) same
  exact congrArg Condition.mk clauses

theorem Rule.toJson_injective {r r' : Rule}
    (h : ∀ k ∈ r.condition.all, k.value.Numbers Double.Representable)
    (h' : ∀ k ∈ r'.condition.all, k.value.Numbers Double.Representable)
    (same : r.toJson = r'.toJson) : r = r' := by
  obtain ⟨id, name, condition, action, priority, description⟩ := r
  obtain ⟨id', name', condition', action', priority', description'⟩ := r'
  simp only [Rule.toJson, ofMembers, List.cons_append, List.nil_append, Members.ofList,
    Json.object.injEq, Members.cons.injEq, true_and] at same
  obtain ⟨ids, names, conditions, actions, priorities, descriptions⟩ := same
  obtain rfl := ofText_injective ids
  obtain rfl := ofText_injective names
  obtain rfl := Condition.toJson_injective h h' conditions
  obtain rfl := ofText_injective actions
  obtain rfl := Numeral.int.inj (Json.number.inj priorities)
  cases description with
  | none =>
      cases description' with
      | none => rfl
      | some d => cases descriptions
  | some d =>
      cases description' with
      | none => cases descriptions
      | some d' => rw [ofText_injective (Members.cons.inj descriptions).2.1]

theorem RuleSet.toJson_injective {s s' : RuleSet} (h : s.Numbers Double.Representable)
    (h' : s'.Numbers Double.Representable) (same : s.toJson = s'.toJson) : s = s' := by
  simp only [RuleSet.toJson, ofMembers, Members.ofList, Json.object.injEq, Members.cons.injEq,
    true_and, and_true] at same
  have rules := ofItems_injective
    (fun r mem r' mem' => Rule.toJson_injective (h r mem) (h' r' mem')) same
  exact congrArg RuleSet.mk rules

end LabelForge
