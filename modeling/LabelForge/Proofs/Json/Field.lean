import LabelForge.Json.Query

/-!
# LabelForge.Proofs.Json.Field

**Where the parts of a decoded value stand in its document.** What is decoded for a field of a
record stands under the name of the field, or at its place if the record is written as an array;
what is decoded for an element of a list is the item at its place.

Design points:

* `field?` says where a field stands without asking whether the record can be decoded. If it can, no
  field is written twice and the one that `field?` finds is the one that was decoded.
-/

namespace LabelForge.Json

variable {α : Type}

/-- The value of a field of a record with the given fields, written as an object or as an array. -/
def field? (names : List String) (name : String) : Json → Option Json
  | .object members => members.toList.lookup name
  | .array items => (names.zip items.toList).lookup name
  | _ => none

theorem bind_eq_ok {ε β : Type} {x : Except ε α} {f : α → Except ε β} {b : β} :
    x >>= f = .ok b ↔ ∃ a, x = .ok a ∧ f a = .ok b := by
  cases x <;> simp [bind, Except.bind]

theorem pure_eq_ok {ε : Type} {a b : α} : (pure a : Except ε α) = .ok b ↔ a = b := by
  simp [pure, Except.pure]

theorem toOption_eq_some {ε : Type} {x : Except ε α} {a : α} :
    x.toOption = some a ↔ x = .ok a := by
  cases x <;> simp [Except.toOption]

/-! ### Lists -/

/-- Items that are decoded to a list are decoded one by one. -/
theorem Items.decode_eq_ok {d : Decoder α} (items : Items) {as : List α}
    (h : items.decode d = .ok as) {k : Nat} {a : α} (element : as[k]? = some a) :
    ∃ j, items.toList[k]? = some j ∧ d j = .ok a := by
  cases items with
  | done => cases h; cases element
  | stopped stop => cases h
  | cons j rest =>
      simp only [Items.decode, bind_eq_ok, pure_eq_ok] at h
      obtain ⟨first, decoded, others, later, rfl⟩ := h
      cases k with
      | zero => cases element; exact ⟨j, rfl, decoded⟩
      | succ k => exact rest.decode_eq_ok later element

theorem asList_eq_ok {d : Decoder α} {j : Json} {as : List α} (h : asList d j = .ok as)
    {k : Nat} {a : α} (element : as[k]? = some a) : ∃ v, j.items[k]? = some v ∧ d v = .ok a := by
  cases j with
  | array items => exact items.decode_eq_ok h element
  | _ => cases h

/-! ### Records -/

/-- What is gathered from an object under the name of a field is its first member of that name. -/
theorem Members.lookup_gather {fields : List Field} {name : String} (ms : Members)
    (known : fields.find? (·.name == name) ≠ none) {before found : Found}
    (h : ms.gather fields before = .ok found) :
    found.lookup name = (before.lookup name).or (ms.toList.lookup name) := by
  cases ms with
  | done => cases h; simp [Members.toList]
  | stopped stop => cases h
  | cons key j rest =>
      cases key with
      | none => cases h
      | some key =>
          rw [Members.gather] at h
          rw [Members.toList, List.lookup_cons]
          cases field : fields.find? (·.name == key) with
          | none =>
              -- the member is skipped, and it is another one
              have other : (name == key) = false := by
                rw [beq_eq_false_iff_ne]
                rintro rfl
                exact known field
              rw [field] at h
              simp only [bind_eq_ok] at h
              obtain ⟨-, -, gathered⟩ := h
              rw [rest.lookup_gather known gathered, other]
          | some f =>
              rw [field] at h
              cases fresh : before.lookup key with
              | some earlier =>
                  rw [fresh] at h
                  cases h
              | none =>
                  rw [fresh] at h
                  simp only [Option.isSome_none, Bool.false_eq_true, if_false, bind_eq_ok] at h
                  obtain ⟨-, -, gathered⟩ := h
                  rw [rest.lookup_gather known gathered, List.lookup_append, List.lookup_cons,
                    List.lookup_nil]
                  cases same : name == key with
                  | false => simp
                  | true =>
                      rw [beq_iff_eq] at same
                      rw [same, fresh]
                      rfl

/-- What is gathered from an array are its items with the names of the fields in order. -/
theorem Items.gather_eq_ok {fields : List Field} (items : Items) {before found : Found}
    (h : items.gather before fields = .ok found) :
    found = before ++ (fields.map Field.name).zip items.toList := by
  cases items with
  | done =>
      cases fields with
      | nil => cases h; simp [Items.toList]
      | cons field fields =>
          rw [Items.gather] at h
          · split at h <;> cases h
            simp [Items.toList]
          · nofun
  | stopped stop => cases fields <;> cases h
  | cons j rest =>
      cases fields with
      | nil => cases h
      | cons field fields =>
          simp only [Items.gather, bind_eq_ok] at h
          obtain ⟨-, -, gathered⟩ := h
          rw [rest.gather_eq_ok gathered, List.append_assoc]
          rfl

/-- What is gathered for a field is what stands there in the document. -/
theorem lookup_gather {fields : List Field} {name : String} {j : Json} {found : Found}
    (known : fields.find? (·.name == name) ≠ none) (h : gather fields j = .ok found) :
    found.lookup name = j.field? (fields.map Field.name) name := by
  cases j with
  | object ms =>
      simp only [gather, bind_eq_ok] at h
      obtain ⟨gathered, all, complete⟩ := h
      split at complete
      · cases complete
        rw [ms.lookup_gather known all]
        rfl
      · cases complete
  | array items => rw [items.gather_eq_ok h]; rfl
  | _ => cases h

/-- The value of a field of a record is decoded from what stands there in the document. -/
theorem get_eq_ok {fields : List Field} {name : String} {j : Json} {found : Found} {d : Decoder α}
    {a : α} (known : fields.find? (·.name == name) ≠ none) (h : gather fields j = .ok found)
    (value : found.get name d = .ok a) :
    ∃ v, j.field? (fields.map Field.name) name = some v ∧ d v = .ok a := by
  rw [Found.get, lookup_gather known h] at value
  cases stands : j.field? (fields.map Field.name) name with
  | none => rw [stands] at value; cases value
  | some v => rw [stands] at value; exact ⟨v, rfl, value⟩

/-- The same of a field with a default, unless it is the default. -/
theorem getD_eq_ok {fields : List Field} {name : String} {j : Json} {found : Found} {d : Decoder α}
    {a default : α} (known : fields.find? (·.name == name) ≠ none)
    (h : gather fields j = .ok found) (value : found.getD name d default = .ok a)
    (other : a ≠ default) :
    ∃ v, j.field? (fields.map Field.name) name = some v ∧ d v = .ok a := by
  rw [Found.getD, lookup_gather known h] at value
  cases stands : j.field? (fields.map Field.name) name with
  | none => rw [stands] at value; exact absurd (Except.ok.inj value).symm other
  | some v => rw [stands] at value; exact ⟨v, rfl, value⟩

end LabelForge.Json
