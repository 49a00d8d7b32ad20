import LabelForge.Proofs.Json.Field
import LabelForge.Proofs.Json.Spelling
import LabelForge.Proofs.Labelling
import LabelForge.Proofs.Number.Rounding
import LabelForge.Rule.Document

/-!
# LabelForge.Proofs.IntegerClause

**Integers in clauses.** An integer that is written as the value of a clause becomes the nearest
double, and so does the cell that it is compared with. The clause holds as it would of the integers,
unless these are different and have the same double: then they count as equal.

Design points:

* Where the value of a clause stands in the text of a rule set is said by `valueDocument?`, for all
  the ways in which a rule set, a rule and a clause may be written.
* A negative zero is no integer for the reader of documents. It compares like zero.
-/

namespace LabelForge

open Json Number

/-! ### Where the value of a clause is written -/

namespace RuleSet

/-- The documents of the rules of a rule set: the items under `rules` if the object form can be
read, otherwise the items of the array. -/
def ruleDocuments (j : Json) : List Json :=
  match wrappedDecoder j with
  | .ok _ => ((j.field? ["rules"] "rules").map items).getD []
  | .error _ => j.items

/-- The document of the value of a clause, by the places of the rule and of the clause in it. -/
def valueDocument? (j : Json) (rule clause : Nat) : Option Json := do
  let r ← (ruleDocuments j)[rule]?
  let condition ← r.field? ["id", "name", "condition", "action", "priority", "description"]
    "condition"
  let clauses ← condition.field? ["all"] "all"
  let c ← clauses.items[clause]?
  c.field? ["column", "op", "value"] "value"

end RuleSet

theorem Clause.decoder_eq_ok {j : Json} {c : Clause} (h : Clause.decoder j = .ok c) :
    ∃ v, j.field? ["column", "op", "value"] "value" = some v ∧ Literal.decoder v = .ok c.value := by
  simp only [Clause.decoder, bind_eq_ok, pure_eq_ok] at h
  obtain ⟨found, gathered, column, -, op, -, value, decoded, rfl⟩ := h
  exact get_eq_ok (by decide) gathered decoded

theorem Condition.decoder_eq_ok {j : Json} {c : Condition} (h : Condition.decoder j = .ok c)
    {k : Nat} {clause : Clause} (listed : c.all[k]? = some clause) :
    ∃ clauses v, j.field? ["all"] "all" = some clauses ∧ clauses.items[k]? = some v ∧
      Clause.decoder v = .ok clause := by
  simp only [Condition.decoder, bind_eq_ok, pure_eq_ok] at h
  obtain ⟨found, gathered, all, decoded, rfl⟩ := h
  have some_clause : all ≠ [] := by
    rintro rfl
    cases listed
  obtain ⟨clauses, stands, list⟩ := getD_eq_ok (by decide) gathered decoded some_clause
  obtain ⟨v, item, decoded⟩ := asList_eq_ok list listed
  exact ⟨clauses, v, stands, item, decoded⟩

theorem Rule.decoder_eq_ok {j : Json} {r : Rule} (h : Rule.decoder j = .ok r)
    (conditional : r.condition ≠ .always) :
    ∃ v, j.field? ["id", "name", "condition", "action", "priority", "description"] "condition" =
      some v ∧ Condition.decoder v = .ok r.condition := by
  simp only [Rule.decoder, bind_eq_ok, pure_eq_ok] at h
  obtain ⟨found, gathered, id, -, name, -, condition, decoded, action, -, priority, -,
    description, -, rfl⟩ := h
  exact getD_eq_ok (by decide) gathered decoded conditional

namespace RuleSet

variable {s : RuleSet} {i : Nat} {r : Rule}

/-- A rule is decoded from the document at its place. -/
theorem decoder_eq_ok {j : Json} (h : decoder j = .ok s) (rule : s.rules[i]? = some r) :
    ∃ v, (ruleDocuments j)[i]? = some v ∧ Rule.decoder v = .ok r := by
  simp only [decoder, bind_eq_ok] at h
  obtain ⟨-, -, h⟩ := h
  unfold ruleDocuments
  cases wrapped : wrappedDecoder j with
  | ok s' =>
      rw [wrapped] at h
      cases h
      simp only [wrappedDecoder, bind_eq_ok, pure_eq_ok] at wrapped
      obtain ⟨found, gathered, rules, decoded, rfl⟩ := wrapped
      obtain ⟨v, stands, list⟩ := get_eq_ok (by decide) gathered decoded
      simp only [List.map_cons, List.map_nil, Field.required] at stands
      simpa [stands] using asList_eq_ok list rule
  | error e =>
      rw [wrapped] at h
      cases bare : bareDecoder j with
      | ok s' =>
          rw [bare] at h
          cases h
          simp only [bareDecoder, bind_eq_ok, pure_eq_ok] at bare
          obtain ⟨rules, list, rfl⟩ := bare
          exact asList_eq_ok list rule
      | error e => rw [bare] at h; cases h

/-- The literal of a clause is decoded from what stands in the document as the value of the
clause. -/
theorem decode_value {j : Json} (h : decoder j = .ok s) (rule : s.rules[i]? = some r) {k : Nat}
    {c : Clause} (clause : r.condition.all[k]? = some c) :
    ∃ v, valueDocument? j i k = some v ∧ Literal.decoder v = .ok c.value := by
  obtain ⟨rv, rule_stands, rule_decoded⟩ := decoder_eq_ok h rule
  have conditional : r.condition ≠ .always := by
    intro always
    rw [always] at clause
    cases clause
  obtain ⟨cv, condition_stands, condition_decoded⟩ := Rule.decoder_eq_ok rule_decoded conditional
  obtain ⟨all, kv, all_stand, clause_stands, clause_decoded⟩ :=
    Condition.decoder_eq_ok condition_decoded clause
  obtain ⟨v, value_stands, value_decoded⟩ := Clause.decoder_eq_ok clause_decoded
  refine ⟨v, ?_, value_decoded⟩
  simp [valueDocument?, rule_stands, condition_stands, all_stand, clause_stands, value_stands]

theorem parse_eq_ok {text : String} (h : parse text = .ok s) :
    decoder (Json.read text).value = .ok s := by
  simp only [parse, Json.decode, bind_eq_ok] at h
  obtain ⟨s', decoded, rest⟩ := h
  split at rest
  · cases rest
  · cases rest
    exact decoded

end RuleSet

/-! ### Integers in documents -/

namespace Json

/-- The integer of a sign and digits. -/
def integerOf (negative : Bool) (digits : List Char) : Int :=
  if negative then -(digitsValue digits : Int) else digitsValue digits

/-- Whether a number was written as the integer: a sign and digits, and nothing behind them. -/
def Numeral.Writes (n : Int) (v : Numeral) : Prop :=
  ∃ negative digits, n = integerOf negative digits ∧ v = integerNumeral negative digits

/-- An integer of 64 bits is read as that integer, but for a negative zero. -/
theorem Numeral.Writes.value {n : Int} {v : Numeral} (h : v.Writes n) (low : -(2 ^ 63) ≤ n)
    (high : n < 2 ^ 63) : v = .int n ∨ n = 0 ∧ v = .real (.finite true 0) := by
  obtain ⟨negative, digits, rfl, rfl⟩ := h
  simp only [integerOf] at low high ⊢
  generalize size : digitsValue digits = m at low high ⊢
  have small : ¬ m > maxInteger := by
    rw [maxInteger]
    cases negative <;> simp at low high <;> omega
  rw [integerNumeral, size]
  simp only [if_neg small]
  cases negative with
  | false => exact .inl rfl
  | true =>
      simp only [if_true] at low ⊢
      by_cases zero : m = 0
      · right
        subst zero
        have negated : (Double.ofNat 0).neg = .finite true 0 := by
          rw [Double.ofNat_zero]
          rfl
        exact ⟨rfl, congrArg Numeral.real negated⟩
      · left
        have within : (m == 0 || decide (m > 2 ^ 63)) = false := by simp; omega
        simp [within]

end Json

/-- A literal that is decoded from an integer is compared like the nearest double. -/
theorem Literal.decode_integer {v : Numeral} {n : Int} {l : Literal} (written : v.Writes n)
    (low : -(2 ^ 63) ≤ n) (high : n < 2 ^ 63) (decoded : Literal.decoder (.number v) = .ok l) :
    ∃ d, l = .number d ∧ ∀ e : Double, e.cmp d = e.cmp (.ofInt n) := by
  rcases written.value low high with rfl | ⟨rfl, rfl⟩
  · cases decoded
    exact ⟨_, rfl, fun _ => rfl⟩
  · cases decoded
    exact ⟨_, rfl, fun e => e.cmp_negative_zero⟩

/-! ### Comparisons of integers -/

/-- Whether two integers stand in the relation that an operator names. -/
def Operator.Relates : Operator → Int → Int → Prop
  | .eq, x, n => x = n
  | .ne, x, n => x ≠ n
  | .gt, x, n => n < x
  | .ge, x, n => n ≤ x
  | .lt, x, n => x < n
  | .le, x, n => x ≤ n

theorem Operator.holds_compare (op : Operator) (x n : Int) :
    op.holds (compare x n) = true ↔ op.Relates x n := by
  rw [op.holds_iff]
  cases op <;>
    simp only [Accepts, Relates, ne_eq, Int.compare_eq_eq, Int.compare_eq_lt, Int.compare_eq_gt] <;>
    omega

/-- A clause with the nearest double of an integer holds on a cell of a column of integers as it
would of the integers, except that integers with one double count as equal. -/
theorem Clause.holds_integer {c : Clause} {width : IntWidth} {x n : Int} {d : Double}
    (value : c.value = .number d) (nearest : ∀ e : Double, e.cmp d = e.cmp (.ofInt n)) :
    c.holds (.int width) (.int x) = true ↔
      c.op.Relates x (if Double.ofInt x = Double.ofInt n then x else n) := by
  have compared : c.holds (.int width) (.int x) = c.op.holds ((Double.ofInt x).cmp (.ofInt n)) := by
    rw [← nearest]
    unfold Clause.holds
    rw [value]
  rw [compared, Double.cmp_ofInt, ← Operator.holds_compare]
  split
  · rw [Int.compare_eq_eq.2 rfl]
  · rfl

namespace RuleSet

/-- **Integers in clauses.** Let the value of a clause be written as an integer of 64 bits, and let
a column of integers have a value in a row. The clause of the compiled plan holds there exactly if
its operator relates the value to the integer, where the integer counts as the value if the two have
the same nearest double. Different integers have different doubles unless both need more than 53
bits. -/
theorem integer_clause {text : String} {s : RuleSet} (parsed : parse text = .ok s) {i k : Nat}
    {r : Rule} {c : Clause} (rule : s.rules[i]? = some r) (clause : r.condition.all[k]? = some c)
    {v : Numeral} (stands : valueDocument? (Json.read text).value i k = some (.number v)) {n : Int}
    (written : v.Writes n) (low : -(2 ^ 63) ≤ n) (high : n < 2 ^ 63) (policy : TieBreak)
    (labels : Labels) {f : Frame} {width : IntWidth} {row : Nat} {x : Int}
    (typed : f.typeOf c.column = .int width) (cell : f.cell c.column row = .int x) :
    (r.id, c) ∈ (Plan.compile s policy labels).clauses ∧
      (c.holdsOn ((Plan.compile s policy labels).prepared f) row = true ↔
        c.op.Relates x (if Double.ofInt x = Double.ofInt n then x else n)) ∧
      (Double.ofInt x = Double.ofInt n → x ≠ n → 2 ^ 53 ≤ x.natAbs ∧ 2 ^ 53 ≤ n.natAbs) := by
  obtain ⟨v', stands', decoded⟩ := decode_value (parse_eq_ok parsed) rule clause
  cases stands.symm.trans stands'
  obtain ⟨d, value, nearest⟩ := Literal.decode_integer written low high decoded
  refine ⟨?_, ?_, ?_⟩
  · have ranked := TieBreak.mem_ranked (p := policy) (a := (r, i)).2 rule
    exact Plan.mem_clauses (r := Plan.ofRule r) (List.mem_map.2 ⟨_, ranked, rfl⟩)
      (List.mem_of_getElem? clause)
  · rw [Plan.holdsOn_prepared, Clause.holdsOn, typed, cell]
    exact Clause.holds_integer value nearest
  · intro same other
    refine ⟨Nat.not_lt.1 fun short => other (Double.ofInt_inj short same), ?_⟩
    exact Nat.not_lt.1 fun short => other (Double.ofInt_inj short same.symm).symm

end RuleSet

/-- A rule that asks for an integer of 54 bits. -/
def longIdText : String :=
  "[\x7b\"id\":\"A\",\"name\":\"A\",\"action\":\"hit\",\"condition\":" ++
    "\x7b\"all\":[\x7b\"column\":\"id\",\"op\":\"==\",\"value\":9007199254740993\x7d]\x7d\x7d]"

/-- The clause of that rule. -/
def longIdClause : Clause := ⟨"id", .eq, .number (.ofInt 9007199254740993)⟩

/-- The rules of that text. -/
def longIdRules : RuleSet := ⟨[⟨"A", "A", ⟨[longIdClause]⟩, "hit", 0, none⟩]⟩

/-- A table with the integer before that one. -/
def longIds : Frame := ⟨1, [⟨"id", .int .i64, [.int 9007199254740992]⟩], by decide, by decide⟩

theorem parse_longIdText : RuleSet.parse longIdText = .ok longIdRules := by
  have found : (RuleSet.parse longIdText).toOption = some longIdRules := by decide +kernel
  exact toOption_eq_some.mp found

theorem value_longIdText :
    RuleSet.valueDocument? (Json.read longIdText).value 0 0 =
      some (.number (.int 9007199254740993)) := by
  decide +kernel

theorem RuleSet.integer_clause_longId :
    longIdClause.holdsOn ((Plan.compile longIdRules .priorityFirst {}).prepared longIds) 0 = true ↔
      longIdClause.op.Relates 9007199254740992
        (if Double.ofInt 9007199254740992 = Double.ofInt 9007199254740993 then 9007199254740992
          else 9007199254740993) :=
  (RuleSet.integer_clause parse_longIdText rfl rfl value_longIdText
    ⟨false, "9007199254740993".toList, by decide +kernel, by decide +kernel⟩ (by decide) (by decide)
    .priorityFirst {} rfl rfl).2.1

/-- The integers differ, and the clause that asks whether they are equal holds. -/
theorem confused_longId :
    RuleSet.parse longIdText = .ok longIdRules ∧
      RuleSet.valueDocument? (Json.read longIdText).value 0 0 =
        some (.number (.int 9007199254740993)) ∧
      longIds.cell "id" 0 = .int 9007199254740992 ∧
      longIdClause.holdsOn ((Plan.compile longIdRules .priorityFirst {}).prepared longIds) 0 =
        true ∧
      ¬ longIdClause.op.Relates 9007199254740992 9007199254740993 := by
  refine ⟨parse_longIdText, value_longIdText, rfl, ?_, ?_⟩
  · rw [Plan.holdsOn_prepared]
    decide +kernel
  · simp [longIdClause, Operator.Relates]

end LabelForge
