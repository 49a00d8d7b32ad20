import LabelForge.Json.Decoder

/-!
# LabelForge.Proofs.Json.Record

**Records and lists are read back.** An object with exactly the fields of a record, in their order
and each with a value that its decoder takes, is gathered as it stands; an array of values that
their decoder takes is decoded as the list of them.
-/

namespace LabelForge.Json

variable {α : Type}

theorem asNat_ofNat {bits n : Nat} (h : n < 2 ^ bits) : asNat bits (ofNat n) = .ok n := by
  have high : (n : Int) ≤ 2 ^ bits - 1 := by
    have : (n : Int) < 2 ^ bits := by exact_mod_cast h
    omega
  have range : (decide ((0 : Int) ≤ n) && decide ((n : Int) ≤ 2 ^ bits - 1)) = true := by
    simp [high]
  rw [asNat, ofNat, asInt, if_pos range]
  rfl

/-- A value that is decoded passes the check of its decoder. -/
theorem Decoder.check_eq_ok {d : Decoder α} {j : Json} {a : α} (h : d j = .ok a) :
    d.check j = .ok () := by
  rw [Decoder.check, h]
  rfl

/-- A value that is decoded passes the check of its field. -/
theorem required_check (name : String) {d : Decoder α} {j : Json} {a : α} (h : d j = .ok a) :
    (Field.required name d).check j = .ok () :=
  d.check_eq_ok h

/-- Items that are decoded one by one are decoded as a list. -/
theorem asList_ofItems {d : Decoder α} {encode : α → Json} {as : List α}
    (h : ∀ a ∈ as, d (encode a) = .ok a) : asList d (ofItems (as.map encode)) = .ok as := by
  show (Items.ofList (as.map encode)).decode d = .ok as
  induction as with
  | nil => rfl
  | cons a as ih =>
      have rest := ih fun b mem => h b (List.mem_cons_of_mem _ mem)
      simp only [List.map_cons, Items.ofList, Items.decode, h a (List.mem_cons_self ..), rest]
      rfl

/-- Lists are told apart by their documents if their elements are. -/
theorem ofItems_injective {encode : α → Json} {as bs : List α}
    (h : ∀ a ∈ as, ∀ b ∈ bs, encode a = encode b → a = b)
    (same : ofItems (as.map encode) = ofItems (bs.map encode)) : as = bs := by
  replace same : Items.ofList (as.map encode) = Items.ofList (bs.map encode) := Json.array.inj same
  induction as generalizing bs with
  | nil =>
      cases bs with
      | nil => rfl
      | cons b bs => cases same
  | cons a as ih =>
      cases bs with
      | nil => cases same
      | cons b bs =>
          obtain ⟨head, tail⟩ := Items.cons.inj same
          have rest := ih (fun a' mem b' mem' =>
            h a' (List.mem_cons_of_mem _ mem) b' (List.mem_cons_of_mem _ mem')) tail
          rw [h a (List.mem_cons_self ..) b (List.mem_cons_self ..) head, rest]

/-- What is decoded from a document is told by it. -/
theorem injective_of_decode {d : Decoder α} {encode : α → Json} (h : ∀ a, d (encode a) = .ok a)
    {a b : α} (same : encode a = encode b) : a = b :=
  Except.ok.inj ((h a).symm.trans (same ▸ h b))

theorem ofText_injective {s t : String} (same : ofText s = ofText t) : s = t :=
  injective_of_decode (d := asText) (fun _ => rfl) same

/-- A field that comes up once is not among those found before. -/
theorem lookup_of_nodup {found ms : List (String × Json)} {key : String} {j : Json}
    (distinct : ((found ++ (key, j) :: ms).map Prod.fst).Nodup) : found.lookup key = none := by
  rw [List.lookup_eq_none_iff]
  intro p mem
  rw [List.map_append, List.nodup_append] at distinct
  have other : p.1 ≠ key := distinct.2.2 p.1 (List.mem_map_of_mem mem) key (by simp)
  simpa using other.symm

/-- A field that comes up first is gathered behind those found before. -/
theorem Members.gather_field {fields : List Field} {field : Field} {found ms : List (String × Json)}
    {key : String} {j : Json} (rest : Members)
    (distinct : ((found ++ (key, j) :: ms).map Prod.fst).Nodup)
    (named : fields.find? (·.name == key) = some field) (check : field.check j = .ok ()) :
    (cons (some key) j rest).gather fields found = rest.gather fields (found ++ [(key, j)]) := by
  simp only [Members.gather, named, lookup_of_nodup distinct, check]
  rfl

/-- The members that are left are gathered behind those found before. -/
theorem Members.gather_ofList {fields : List Field} {found : Found} (ms : List (String × Json))
    (distinct : ((found ++ ms).map Prod.fst).Nodup)
    (known : ∀ p ∈ ms, ∃ field, fields.find? (·.name == p.1) = some field ∧
      field.check p.2 = .ok ()) :
    (Members.ofList ms).gather fields found = .ok (found ++ ms) := by
  induction ms generalizing found with
  | nil => simp [Members.ofList, Members.gather]
  | cons p ms ih =>
      obtain ⟨key, j⟩ := p
      obtain ⟨field, named, checks⟩ := known (key, j) (List.mem_cons_self ..)
      rw [Members.ofList, Members.gather_field _ distinct named checks,
        List.append_cons found (key, j) ms]
      rw [List.append_cons] at distinct
      exact ih distinct fun p mem => known p (List.mem_cons_of_mem _ mem)

/-- A field is found by its name. -/
theorem find?_name {fields : List Field} (distinct : (fields.map Field.name).Nodup)
    {field : Field} (mem : field ∈ fields) :
    fields.find? (fun f => f.name == field.name) = some field := by
  induction fields with
  | nil => cases mem
  | cons first fields ih =>
      rw [List.map_cons, List.nodup_cons] at distinct
      rcases List.mem_cons.mp mem with rfl | later
      · exact List.find?_cons_of_pos (p := fun f : Field => f.name == field.name)
          (beq_self_eq_true _)
      · have other : first.name ≠ field.name :=
          fun same => distinct.1 (same ▸ List.mem_map_of_mem later)
        rw [List.find?_cons_of_neg (by simpa using other)]
        exact ih distinct.2 later

/-- An object with different members is gathered if all of them are fields, each with a value that
its decoder takes, and no field is missing that must be there. -/
theorem gather_ofMembers {fields : List Field} {ms : List (String × Json)}
    (distinct : (ms.map Prod.fst).Nodup)
    (known : ∀ p ∈ ms, ∃ field, fields.find? (·.name == p.1) = some field ∧
      field.check p.2 = .ok ())
    (complete : fields.all (fun f => f.absence != .never || (ms.lookup f.name).isSome) = true) :
    gather fields (ofMembers ms) = .ok ms := by
  have gathered : (Members.ofList ms).gather fields [] = .ok ([] ++ ms) :=
    Members.gather_ofList ms distinct known
  rw [List.nil_append] at gathered
  simp only [gather, ofMembers, gathered]
  exact if_pos complete

/-- An object with one member for every field of a record, in their order, is gathered. -/
theorem gather_record (spec : List (Field × Json)) (distinct : (spec.map (·.1.name)).Nodup)
    (checks : ∀ p ∈ spec, p.1.check p.2 = .ok ()) :
    gather (spec.map Prod.fst) (ofMembers (spec.map fun p => (p.1.name, p.2))) =
      .ok (spec.map fun p => (p.1.name, p.2)) := by
  have names : ((spec.map Prod.fst).map Field.name).Nodup := by
    rw [List.map_map]
    exact distinct
  have keys : ((spec.map fun p => (p.1.name, p.2)).map Prod.fst).Nodup := by
    rw [List.map_map]
    exact distinct
  refine gather_ofMembers keys ?_ ?_
  · intro p mem
    obtain ⟨q, listed, rfl⟩ := List.mem_map.mp mem
    exact ⟨q.1, find?_name names (List.mem_map_of_mem listed), checks q listed⟩
  · rw [List.all_eq_true]
    intro f mem
    obtain ⟨q, listed, rfl⟩ := List.mem_map.mp mem
    rw [Bool.or_eq_true, List.lookup_isSome_iff]
    exact .inr ⟨_, List.mem_map_of_mem listed, beq_self_eq_true _⟩

/-- What is done with the fields of a record is done with the members of its object. -/
theorem gather_record_bind (spec : List (Field × Json)) (distinct : (spec.map (·.1.name)).Nodup)
    (checks : ∀ p ∈ spec, p.1.check p.2 = .ok ()) (next : Found → Except Fault α) :
    gather (spec.map Prod.fst) (ofMembers (spec.map fun p => (p.1.name, p.2))) >>= next =
      next (spec.map fun p => (p.1.name, p.2)) := by
  rw [gather_record spec distinct checks]
  rfl

end LabelForge.Json
