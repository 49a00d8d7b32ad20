import LabelForge.Proofs.IntegerClause
import LabelForge.Proofs.Json.Depth
import LabelForge.Proofs.Json.Range
import LabelForge.Proofs.Json.Skip
import LabelForge.Proofs.Rule

/-!
# LabelForge.Proofs.RuleDocument

**The documents of a rule set.** A rule set can be written in many ways: as an object or as a bare
array, with records as objects or as arrays, with operators by symbol or by name, with defaults left
out and with fields that nobody asks for. What is printed is one way. It is read back as the same
rule set, so documents that were read once and printed stay as they are.

Design points:

* What was read has priorities of 64 bits and finite numbers, wherever it stood in the document.
  Nothing else is needed to print it, but that its numbers are read back.
* The array under `rules` is nested one level deeper than the bare array. Rules that are nested as
  deep as a bare array allows are therefore refused in the object form.
-/

namespace LabelForge

open Json Number

/-! ### What is read -/

theorem Literal.Numbers.number {p : Double → Prop} {x : Double} (h : p x) :
    (Literal.number x).Numbers p := h

/-- A literal has a number in range, if its document has. -/
theorem Literal.numbers_decoder {j : Json} {l : Literal} (h : j.Numbers Numeral.InRange)
    (decoded : Literal.decoder j = .ok l) : l.Numbers Double.Representable := by
  cases j with
  | number n =>
      cases n with
      | int i =>
          cases decoded
          exact .number (Double.representable_ofInt h)
      | real x =>
          cases decoded
          exact .number h
      | overflow => cases decoded
  | text content =>
      cases content with
      | none => cases decoded
      | some s =>
          cases decoded
          trivial
  | bool b =>
      cases decoded
      trivial
  | _ => cases decoded

theorem asInt_eq_ok {low high i : Int} {j : Json} (h : asInt low high j = .ok i) :
    low ≤ i ∧ i ≤ high := by
  unfold asInt at h
  split at h
  · split at h
    · rename_i within
      cases h
      simpa using within
    · cases h
  · cases h

/-- A rule that is decoded has a priority of 64 bits; so has the default. -/
theorem Rule.priority_decoder {j : Json} {r : Rule} (h : Rule.decoder j = .ok r) :
    -(2 ^ 63) ≤ r.priority ∧ r.priority < 2 ^ 63 := by
  simp only [Rule.decoder, bind_eq_ok, pure_eq_ok] at h
  obtain ⟨found, -, id, -, name, -, condition, -, action, -, priority, decoded, description, -,
    rfl⟩ := h
  show -(2 ^ 63) ≤ priority ∧ priority < 2 ^ 63
  unfold Found.getD at decoded
  split at decoded
  · have := asInt_eq_ok decoded
    omega
  · cases decoded
    decide

namespace RuleSet

variable {s : RuleSet} {text : String}

/-- What holds of the numbers of a document holds of the values of its clauses. -/
theorem numbers_valueDocument {p : Numeral → Prop} {j v : Json} {i k : Nat} (h : j.Numbers p)
    (found : valueDocument? j i k = some v) : v.Numbers p := by
  simp only [valueDocument?, bind, Option.bind_eq_some_iff] at found
  obtain ⟨r, rule, condition, stands, clauses, list, c, clause, value⟩ := found
  have rule : r.Numbers p := by
    have mem := List.mem_of_getElem? rule
    unfold ruleDocuments at mem
    split at mem
    · cases rules : j.field? ["rules"] "rules" with
      | none =>
          rw [rules] at mem
          cases mem
      | some array =>
          rw [rules] at mem
          exact (h.field? rules).items mem
    · exact h.items mem
  exact (((rule.field? stands).field? list).items (List.mem_of_getElem? clause)).field? value

/-- The numbers of a rule set that was read are finite. -/
theorem numbers_parse (parsed : parse text = .ok s) : s.Numbers Double.Representable := by
  intro r mem c listed
  obtain ⟨i, rule⟩ := List.getElem?_of_mem mem
  obtain ⟨k, clause⟩ := List.getElem?_of_mem listed
  obtain ⟨v, stands, decoded⟩ := decode_value (parse_eq_ok parsed) rule clause
  exact Literal.numbers_decoder (numbers_valueDocument (numbers_read text) stands) decoded

/-- The priorities of a rule set that was read are integers of 64 bits. -/
theorem priorities_parse (parsed : parse text = .ok s) :
    ∀ r ∈ s.rules, -(2 ^ 63) ≤ r.priority ∧ r.priority < 2 ^ 63 := by
  intro r mem
  obtain ⟨i, rule⟩ := List.getElem?_of_mem mem
  obtain ⟨v, -, decoded⟩ := decoder_eq_ok (parse_eq_ok parsed) rule
  exact Rule.priority_decoder decoded

end RuleSet

/-! ### What is printed -/

theorem Condition.decode_toJson {c : Condition}
    (h : ∀ k ∈ c.all, k.value.Numbers Double.Rereads) : Condition.decoder c.toJson = .ok c := by
  have clauses : asList Clause.decoder (ofItems (c.all.map Clause.toJson)) = .ok c.all :=
    asList_ofItems fun k mem => Clause.decode_toJson (h k mem)
  refine (gather_record_bind [(.defaulted "all" (asList Clause.decoder),
    ofItems (c.all.map Clause.toJson))] (by simp) ?_ _).trans ?_
  · simp only [List.forall_mem_singleton]
    exact Decoder.check_eq_ok clauses
  · simp [Field.defaulted, Found.getD, clauses, bind, Except.bind]
    rfl

theorem asInt64_ofInt {i : Int} (low : -(2 ^ 63) ≤ i) (high : i < 2 ^ 63) :
    asInt64 (ofInt i) = .ok i := by
  have range : (decide (-(2 ^ 63) ≤ i) && decide (i ≤ 2 ^ 63 - 1)) = true := by
    simp only [Bool.and_eq_true, decide_eq_true_eq]
    omega
  rw [asInt64, ofInt, asInt, if_pos range]

namespace Rule

variable {r : Rule}

/-- The fields that are asked for in the document of a rule. -/
def fields : List Field :=
  [.required "id" asText, .required "name" asText, .defaulted "condition" Condition.decoder,
    .required "action" asText, .defaulted "priority" asInt64,
    .defaulted "description" (asOption asText)]

/-- The members of the document of a rule. -/
def members (r : Rule) : List (String × Json) :=
  [("id", ofText r.id), ("name", ofText r.name), ("condition", r.condition.toJson),
    ("action", ofText r.action), ("priority", ofInt r.priority)] ++
  match r.description with
  | none => []
  | some d => [("description", ofText d)]

theorem toJson_eq (r : Rule) : r.toJson = ofMembers r.members := by
  obtain ⟨id, name, condition, action, priority, description⟩ := r
  cases description <;> rfl

/-- A rule is decoded from its document, with or without a description. -/
theorem decode_toJson (low : -(2 ^ 63) ≤ r.priority) (high : r.priority < 2 ^ 63)
    (h : ∀ k ∈ r.condition.all, k.value.Numbers Double.Rereads) :
    Rule.decoder r.toJson = .ok r := by
  have text (s : String) : asText (ofText s) = .ok s := rfl
  have note (s : String) : asOption asText (ofText s) = .ok (some s) := rfl
  have condition := Condition.decode_toJson h
  have priority := asInt64_ofInt low high
  have gathered : gather fields r.toJson = .ok r.members := by
    rw [toJson_eq]
    refine gather_ofMembers ?_ ?_ ?_
    · unfold members
      cases r.description <;> simp
    · simp only [members, List.forall_mem_append, List.forall_mem_cons]
      refine ⟨⟨⟨_, rfl, required_check _ (text _)⟩, ⟨_, rfl, required_check _ (text _)⟩,
        ⟨_, rfl, Decoder.check_eq_ok condition⟩, ⟨_, rfl, required_check _ (text _)⟩,
        ⟨_, rfl, Decoder.check_eq_ok priority⟩, nofun⟩, ?_⟩
      cases r.description with
      | none => nofun
      | some d =>
          simp only [List.forall_mem_singleton]
          exact ⟨_, rfl, Decoder.check_eq_ok (note d)⟩
    · simp [fields, Field.required, Field.defaulted, members, List.lookup_cons]
  rw [fields] at gathered
  unfold Rule.decoder
  rw [gathered]
  -- a description that is missing is the default
  obtain ⟨_, _, _, _, _, description⟩ := r
  cases description <;>
    simp [members, Found.get, Found.getD, List.lookup_cons, bind, Except.bind, text, note,
      condition, priority] <;> rfl

end Rule

/-! How deep the document of a rule set is nested: two levels for the rule set, one for a rule, two
for a condition, and one for a clause. -/

theorem Clause.depth_toJson (c : Clause) : c.toJson.depth ≤ 1 := by
  refine depth_ofMembers_le.mpr ?_
  have value : c.value.toJson.depth = 0 := by
    rcases c.value with _ | (_ | _ | _) | _ <;> rfl
  simp [ofText, depth, value]

theorem Condition.depth_toJson (c : Condition) : c.toJson.depth ≤ 3 := by
  refine depth_ofMembers_le.mpr ?_
  simp only [List.forall_mem_singleton]
  refine depth_ofItems_le.mpr ?_
  simp only [List.forall_mem_map]
  exact fun k _ => k.depth_toJson

theorem Rule.depth_toJson (r : Rule) : r.toJson.depth ≤ 4 := by
  rw [toJson_eq]
  refine depth_ofMembers_le.mpr ?_
  simp only [members, List.forall_mem_append, List.forall_mem_cons]
  refine ⟨⟨Nat.zero_le _, Nat.zero_le _, r.condition.depth_toJson, Nat.zero_le _, Nat.zero_le _,
    nofun⟩, ?_⟩
  cases r.description with
  | none => nofun
  | some d => exact List.forall_mem_singleton.mpr (Nat.zero_le _)

theorem RuleSet.depth_toJson (s : RuleSet) : s.toJson.depth ≤ 6 := by
  refine depth_ofMembers_le.mpr ?_
  simp only [List.forall_mem_singleton]
  refine depth_ofItems_le.mpr ?_
  simp only [List.forall_mem_map]
  exact fun r _ => r.depth_toJson

namespace RuleSet

variable {s : RuleSet} {text : String}

/-! ### Two shapes -/

/-- A document is accepted if it passes a strict look and one of the two shapes fits. -/
theorem decoder_iff {j : Json} : decoder j = .ok s ↔ j.Sound ∧ j.depth ≤ maxDepth ∧
    (wrappedDecoder j = .ok s ∨ (∃ e, wrappedDecoder j = .error e) ∧ bareDecoder j = .ok s) := by
  rw [← and_assoc, ← verify_eq_ok, decoder]
  cases verify maxDepth j with
  | error f => simp [bind, Except.bind]
  | ok =>
      simp only [bind, Except.bind, true_and]
      cases wrappedDecoder j with
      | ok s' =>
          refine ⟨.inl, ?_⟩
          rintro (same | ⟨⟨e, failed⟩, -⟩)
          · exact same
          · cases failed
      | error e =>
          -- the other shape is tried, and its fault counts
          cases bareDecoder j with
          | ok s' => simp [pure, Except.pure]
          | error e' => simp

theorem map_mk_eq_ok {rules : Except Fault (List Rule)} :
    rules.map RuleSet.mk = .ok s ↔ rules = .ok s.rules := by
  cases rules with
  | error e => simp [Except.map]
  | ok rules =>
      constructor
      · rintro ⟨⟩
        rfl
      · rintro ⟨⟩
        rfl

theorem bareDecoder_eq (j : Json) : bareDecoder j = (asList Rule.decoder j).map RuleSet.mk := by
  unfold bareDecoder
  cases asList Rule.decoder j <;> rfl

/-- What stands under `rules` is decoded like the bare array. -/
theorem wrappedDecoder_ofMembers (rules : Json) :
    wrappedDecoder (ofMembers [("rules", rules)]) =
      (asList Rule.decoder rules).map RuleSet.mk := by
  cases decoded : asList Rule.decoder rules with
  | error e =>
      simp [wrappedDecoder, gather, ofMembers, Members.ofList, Members.gather, Field.required,
        Decoder.check, decoded, Except.map, bind, Except.bind]
  | ok rs =>
      have found : gather [.required "rules" (asList Rule.decoder)] (ofMembers [("rules", rules)]) =
          .ok [("rules", rules)] := by
        refine gather_ofMembers (by simp) ?_ (by simp [Field.required])
        simp only [List.forall_mem_singleton]
        exact ⟨_, rfl, required_check _ decoded⟩
      simp [wrappedDecoder, found, Found.get, decoded, bind, Except.bind, Except.map]
      rfl

/-- A rule set is decoded from its document. -/
theorem decode_toJson (priorities : ∀ r ∈ s.rules, -(2 ^ 63) ≤ r.priority ∧ r.priority < 2 ^ 63)
    (h : s.Numbers Double.Rereads) : decoder s.toJson = .ok s := by
  have rules : asList Rule.decoder (ofItems (s.rules.map Rule.toJson)) = .ok s.rules :=
    asList_ofItems fun r mem =>
      Rule.decode_toJson (priorities r mem).1 (priorities r mem).2 (h r mem)
  have wrapped : wrappedDecoder s.toJson = .ok s := by
    rw [toJson, wrappedDecoder_ofMembers, rules]
    rfl
  have sound : s.toJson.Sound := by
    refine complete_toJson (fun r _ => ?_) fun r _ c _ => ?_
    · show Numeral.int r.priority ≠ .overflow
      simp only [ne_eq, reduceCtorEq, not_false_eq_true]
    · cases c.value with
      | number x =>
          show Numeral.real x ≠ .overflow
          simp only [ne_eq, reduceCtorEq, not_false_eq_true]
      | _ => trivial
  have checked : verify maxDepth s.toJson = .ok () :=
    (verify_eq_ok ..).mpr ⟨sound, Nat.le_trans s.depth_toJson (by decide)⟩
  simp only [decoder, checked, wrapped, bind, Except.bind]
  rfl

theorem plain_toJson (priorities : ∀ r ∈ s.rules, -(2 ^ 63) ≤ r.priority ∧ r.priority < 2 ^ 63)
    (h : s.Numbers Double.Rereads) : s.toJson.Plain := by
  refine complete_toJson (fun r mem => ?_) fun r mem c listed =>
    (h r mem c listed).mono fun _ => Numeral.Legible.real
  obtain ⟨low, high⟩ := priorities r mem
  exact .int low (by omega)

/-- What was read is read back from what is printed for it. -/
theorem parse_print (parsed : parse text = .ok s)
    (rereads : s.Numbers fun x => x.isFinite = true → x.Rereads) : parse s.print = .ok s := by
  have priorities := priorities_parse parsed
  have numbers : s.Numbers Double.Rereads := by
    intro r mem c listed
    have finite := numbers_parse parsed r mem c listed
    have rereads := rereads r mem c listed
    generalize c.value = l at finite rereads ⊢
    cases l with
    | number x => exact rereads (Double.Representable.isFinite finite)
    | _ => trivial
  rw [parse, Json.decode, print, read_pretty (plain_toJson priorities numbers)]
  simp only [decode_toJson priorities numbers, bind, Except.bind]
  rfl

/-- An array of objects is no record with rules, as its first field would have to be a list. -/
theorem wrappedDecoder_ofItems {js : List Json} (objects : ∀ j ∈ js, ∃ ms, j = .object ms) :
    ∃ e, wrappedDecoder (ofItems js) = .error e := by
  cases js with
  | nil => exact ⟨.mismatch, rfl⟩
  | cons j js =>
      obtain ⟨ms, rfl⟩ := objects j (List.mem_cons_self ..)
      exact ⟨.mismatch, rfl⟩

/-- What is accepted as a bare array of objects. -/
theorem decoder_ofItems {js : List Json} (objects : ∀ j ∈ js, ∃ ms, j = .object ms) :
    decoder (ofItems js) = .ok s ↔ (ofItems js).Sound ∧ (∀ j ∈ js, j.depth ≤ 126) ∧
      asList Rule.decoder (ofItems js) = .ok s.rules := by
  obtain ⟨e, wrapped⟩ := wrappedDecoder_ofItems objects
  have deep : (ofItems js).depth ≤ maxDepth ↔ ∀ j ∈ js, j.depth ≤ 126 := depth_ofItems_le
  rw [decoder_iff, deep, wrapped, bareDecoder_eq, map_mk_eq_ok]
  simp

/-- What is accepted with that array under `rules`. -/
theorem decoder_ofMembers {js : List Json} :
    decoder (ofMembers [("rules", ofItems js)]) = .ok s ↔ (ofItems js).Sound ∧
      (∀ j ∈ js, j.depth ≤ 125) ∧ asList Rule.decoder (ofItems js) = .ok s.rules := by
  have deep : (ofMembers [("rules", ofItems js)]).depth ≤ maxDepth ↔ ∀ j ∈ js, j.depth ≤ 125 := by
    refine depth_ofMembers_le.trans ?_
    simp only [List.forall_mem_singleton]
    exact depth_ofItems_le
  have sound : (ofMembers [("rules", ofItems js)]).Sound ↔ (ofItems js).Sound := by
    show (some "rules").isSome ∧ (ofItems js).Sound ∧ True ↔ _
    simp
  have object : asList Rule.decoder (ofMembers [("rules", ofItems js)]) = .error .mismatch := rfl
  rw [decoder_iff, deep, sound, wrappedDecoder_ofMembers, bareDecoder_eq, map_mk_eq_ok,
    map_mk_eq_ok, object]
  simp

/-- A text with nothing behind its value is decoded like the value. -/
theorem parse_of_read {j : Json} (read : Json.read text = ⟨j, false⟩) :
    parse text = .ok s ↔ decoder j = .ok s := by
  rw [parse, Json.decode, read]
  cases decoder j with
  | error e =>
      constructor
      · rintro ⟨⟩
      · rintro ⟨⟩
  | ok s' => exact Iff.rfl

/-- **The documents of a rule set are stable.** What was read from a text, in whatever way it was
written, is read back from what is printed for it, if its numbers are. And a list of objects is read
alike as a bare array and under `rules`: both texts are accepted, with the same rules, or both are
refused. Only objects that are nested more than 125 levels deep are refused under `rules`, whether
or not the bare array of them is accepted. -/
theorem documents_stable :
    (∀ (text : String) (s : RuleSet), parse text = .ok s →
      (s.Numbers fun x => x.isFinite = true → x.Rereads) → parse s.print = .ok s) ∧
    ∀ (js : List Json) (bare wrapped : String), (∀ j ∈ js, ∃ ms, j = .object ms) →
      Json.read bare = ⟨ofItems js, false⟩ →
      Json.read wrapped = ⟨ofMembers [("rules", ofItems js)], false⟩ →
      ∀ s, parse wrapped = .ok s ↔ parse bare = .ok s ∧ ∀ j ∈ js, j.depth ≤ 125 := by
  refine ⟨fun text s => parse_print, ?_⟩
  intro js bare wrapped objects readBare readWrapped s
  rw [parse_of_read readBare, parse_of_read readWrapped, decoder_ofItems objects, decoder_ofMembers]
  constructor
  · rintro ⟨sound, shallow, rules⟩
    exact ⟨⟨sound, fun j mem => Nat.le_succ_of_le (shallow j mem), rules⟩, shallow⟩
  · rintro ⟨⟨sound, -, rules⟩, shallow⟩
    exact ⟨sound, shallow, rules⟩

end RuleSet

/-- Two rules: one is written as an array, with an operator by its name, the other one has a member
that nobody asks for. -/
def looseText : String :=
  "[[\"A\",\"Old\",[[[\"age\",\"gt\",180]]],\"sell\"]," ++
    "\x7b\"id\":\"B\",\"name\":\"New\",\"action\":\"keep\",\"since\":[2024]\x7d]"

/-- The rules of that text. -/
def looseRules : RuleSet := ⟨[
  ⟨"A", "Old", ⟨[⟨"age", .gt, .number (.ofInt 180)⟩]⟩, "sell", 0, none⟩,
  ⟨"B", "New", .always, "keep", 0, none⟩]⟩

/-- An array in an array and so on. -/
def nested : Nat → Json
  | 0 => ofItems []
  | n + 1 => ofItems [nested n]

/-- A rule with such an array as a member that nobody asks for. -/
def nestedRule (n : Nat) : Json :=
  ofMembers [("id", ofText "A"), ("name", ofText "A"), ("action", ofText "keep"),
    ("deep", nested n)]

/-- The rule of that document. -/
def nestedRules : RuleSet := ⟨[⟨"A", "A", .always, "keep", 0, none⟩]⟩

theorem complete_nested {p : Numeral → Prop} (n : Nat) : (nested n).Complete p := by
  induction n with
  | zero => trivial
  | succ n ih => exact ⟨ih, trivial⟩

theorem complete_nestedRule {p : Numeral → Prop} (n : Nat) :
    (ofItems [nestedRule n]).Complete p := by
  refine ⟨complete_ofMembers ?_, trivial⟩
  simp only [List.forall_mem_cons]
  exact ⟨complete_ofText _, complete_ofText _, complete_ofText _, complete_nested n, nofun⟩

theorem depth_nested (n : Nat) : (nested n).depth = n + 1 := by
  induction n with
  | zero => rfl
  | succ n ih =>
      show max (nested n).depth 0 + 1 = n + 1 + 1
      rw [ih, Nat.max_zero]

theorem depth_nestedRule (n : Nat) : (nestedRule n).depth = n + 2 := by
  show max 0 (max 0 (max 0 (max (nested n).depth 0))) + 1 = n + 2
  simp only [depth_nested, Nat.max_zero, Nat.zero_max]

/-- The member is passed over, so it does not matter to the rule. -/
theorem decode_nestedRule (n : Nat) :
    asList Rule.decoder (ofItems [nestedRule n]) = .ok nestedRules.rules := by
  have passed : skip (nested n) = .ok () := skip_of_whole _ (complete_nested n)
  have decoded : Rule.decoder (nestedRule n) = .ok ⟨"A", "A", .always, "keep", 0, none⟩ := by
    have gathered : gather Rule.fields (nestedRule n) =
        .ok [("id", ofText "A"), ("name", ofText "A"), ("action", ofText "keep")] := by
      simp [Rule.fields, nestedRule, gather, ofMembers, Members.ofList, Members.gather,
        Field.required, Field.defaulted, Decoder.check, asText, ofText, passed, List.lookup_cons,
        bind, Except.bind, Except.map]
      rfl
    rw [Rule.fields] at gathered
    unfold Rule.decoder
    rw [gathered]
    rfl
  show (do let a ← Rule.decoder (nestedRule n); _) = _
  rw [decoded]
  rfl

/-- The bare array of that rule. -/
theorem parse_nestedRule {n : Nat} (shallow : n ≤ 124) :
    RuleSet.parse (ofItems [nestedRule n]).pretty = .ok nestedRules := by
  rw [RuleSet.parse_of_read (read_pretty (complete_nestedRule n)),
    RuleSet.decoder_ofItems (by simp [nestedRule, ofMembers])]
  refine ⟨complete_nestedRule n, ?_, decode_nestedRule n⟩
  simp only [List.forall_mem_singleton, depth_nestedRule]
  omega

theorem RuleSet.documents_stable_loose :
    RuleSet.parse looseText = .ok looseRules ∧ RuleSet.parse looseRules.print = .ok looseRules ∧
      RuleSet.parse (ofMembers [("rules", ofItems [nestedRule 123])]).pretty = .ok nestedRules := by
  have parsed : RuleSet.parse looseText = .ok looseRules :=
    toOption_eq_some.mp (by decide +kernel)
  have reread : (Double.ofInt 180).Rereads := ⟨by decide +kernel, by decide +kernel⟩
  have numbers : looseRules.Numbers fun x => x.isFinite = true → x.Rereads := by
    simp [RuleSet.Numbers, looseRules, Literal.Numbers, Condition.always, reread]
  have plain : (ofMembers [("rules", ofItems [nestedRule 123])]).Plain :=
    complete_ofMembers (by simpa using complete_nestedRule 123)
  obtain ⟨printed, shapes⟩ := RuleSet.documents_stable
  refine ⟨parsed, printed _ _ parsed numbers, ?_⟩
  refine (shapes [nestedRule 123] _ _ ?_ (read_pretty (complete_nestedRule 123))
    (read_pretty plain) _).mpr ⟨parse_nestedRule (by decide), ?_⟩
  · simp [nestedRule, ofMembers]
  · simp [depth_nestedRule]

/-- One level deeper the rule is still accepted in the bare array, and refused under `rules`. -/
theorem RuleSet.parse_wrapped_nested :
    (∃ ms, nestedRule 124 = .object ms) ∧
      Json.read (ofItems [nestedRule 124]).pretty = ⟨ofItems [nestedRule 124], false⟩ ∧
      Json.read (ofMembers [("rules", ofItems [nestedRule 124])]).pretty =
        ⟨ofMembers [("rules", ofItems [nestedRule 124])], false⟩ ∧
      RuleSet.parse (ofItems [nestedRule 124]).pretty = .ok nestedRules ∧
      ∀ s, RuleSet.parse (ofMembers [("rules", ofItems [nestedRule 124])]).pretty ≠ .ok s := by
  have plain : (ofMembers [("rules", ofItems [nestedRule 124])]).Plain :=
    complete_ofMembers (by simpa using complete_nestedRule 124)
  have read := read_pretty plain
  refine ⟨⟨_, rfl⟩, read_pretty (complete_nestedRule 124), read, parse_nestedRule (by decide), ?_⟩
  intro s accepted
  rw [RuleSet.parse_of_read read, RuleSet.decoder_ofMembers] at accepted
  have shallow := accepted.2.1 (nestedRule 124) (List.mem_singleton_self _)
  rw [depth_nestedRule] at shallow
  omega

end LabelForge
