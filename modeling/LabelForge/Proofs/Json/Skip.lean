import LabelForge.Json.Query
import LabelForge.Proofs.Json.Record
import LabelForge.Proofs.Json.Spelling
import Mathlib.Data.List.Forall2

/-!
# LabelForge.Proofs.Json.Skip

**Members nobody asked for do not matter.** A document that was written out in full is passed over
whatever it is, and from an object the fields of a record are gathered as if it had no other members
(`gather_object`).
-/

namespace LabelForge.Json

/-- A document that was written out in full. -/
abbrev Whole (j : Json) : Prop := j.Complete fun _ => True

/-- Members that were written out in full. -/
abbrev Members.Whole (ms : Members) : Prop := ms.Complete fun _ => True

mutual

/-- What has a text is written out in full. -/
theorem Spells.whole {cs : List Char} {j : Json} (h : Spells cs j) : j.Whole := by
  cases h with
  | text => rfl
  | array h => exact h.whole
  | object h => exact h.whole
  | _ => exact trivial

theorem SpellsItems.whole {first : Bool} {cs : List Char} {items : Items}
    (h : SpellsItems first cs items) : items.Complete fun _ => True := by
  cases h with
  | done => exact trivial
  | first _ head tail => exact ⟨head.whole, tail.whole⟩
  | next _ _ head tail => exact ⟨head.whole, tail.whole⟩

theorem SpellsMembers.whole {first : Bool} {cs : List Char} {members : Members}
    (h : SpellsMembers first cs members) : members.Whole := by
  cases h with
  | done => exact trivial
  | first _ _ _ _ head tail => exact ⟨rfl, head.whole, tail.whole⟩
  | next _ _ _ _ _ head tail => exact ⟨rfl, head.whole, tail.whole⟩

end

theorem Written.whole {text : String} {j : Json} (h : Written text j) : j.Whole := by
  obtain ⟨_, _, _, -, -, -, spelled⟩ := h.parts
  exact spelled.whole

mutual

/-- What is written out in full is passed over. -/
theorem skip_of_whole (j : Json) (whole : j.Whole) : skip j = .ok () := by
  cases j with
  | array items => exact skipItems_of_whole items whole
  | object members => exact skipMembers_of_whole members whole
  | broken => exact whole.elim
  | _ => rfl

theorem skipItems_of_whole (items : Items) (whole : items.Complete fun _ => True) :
    skipItems items = .ok () := by
  cases items with
  | done => rfl
  | stopped => exact whole.elim
  | cons j rest =>
      rw [skipItems, skip_of_whole j whole.1]
      exact skipItems_of_whole rest whole.2

theorem skipMembers_of_whole (members : Members) (whole : members.Whole) :
    skipMembers members = .ok () := by
  cases members with
  | done => rfl
  | stopped => exact whole.elim
  | cons key j rest =>
      rw [skipMembers, skip_of_whole j whole.2.1]
      exact skipMembers_of_whole rest whole.2.2

end

/-! ### Lists -/

/-- Items are decoded in order if each of them is. -/
theorem Items.decode_whole {α : Type} {d : Decoder α} {Tells : Json → α → Prop}
    (decodes : ∀ {j a}, Tells j a → j.Whole → d j = .ok a) (items : Items) {as : List α}
    (told : List.Forall₂ Tells items.toList as) (whole : items.Complete fun _ => True) :
    items.decode d = .ok as := by
  cases items with
  | done =>
      cases told
      rfl
  | stopped => exact whole.elim
  | cons j rest =>
      cases told with
      | cons head tail =>
          simp only [Items.decode, decodes head whole.1, rest.decode_whole decodes tail whole.2]
          rfl

/-! ### Records -/

/-- The members that are fields of a record. -/
def Members.known (fields : List Field) (ms : Members) : List (String × Json) :=
  ms.toList.filter fun p => (fields.find? (·.name == p.1)).isSome

/-- The fields of a record are gathered behind those found before, without the other members. -/
theorem Members.gather_whole {fields : List Field} (ms : Members) (whole : ms.Whole) (found : Found)
    (distinct : ((found ++ ms.known fields).map Prod.fst).Nodup)
    (checks : ∀ p ∈ ms.known fields, ∃ field, fields.find? (·.name == p.1) = some field ∧
      field.check p.2 = .ok ()) :
    ms.gather fields found = .ok (found ++ ms.known fields) := by
  cases ms with
  | done => simp [Members.gather, Members.known, Members.toList]
  | stopped => exact whole.elim
  | cons key j rest =>
      obtain ⟨key, rfl⟩ := Option.isSome_iff_exists.1 whole.1
      cases named : fields.find? (·.name == key) with
      | none =>
          have same : (cons (some key) j rest).known fields = rest.known fields := by
            simp [Members.known, Members.toList, named]
          rw [same] at distinct checks ⊢
          simp only [Members.gather, named, skip_of_whole j whole.2.1]
          exact rest.gather_whole whole.2.2 found distinct checks
      | some field =>
          have split : (cons (some key) j rest).known fields = (key, j) :: rest.known fields := by
            simp [Members.known, Members.toList, named]
          rw [split] at distinct checks ⊢
          have check : field.check j = .ok () := by
            obtain ⟨f, same, checked⟩ := checks (key, j) (List.mem_cons_self ..)
            rw [named] at same
            rwa [Option.some.inj same]
          rw [rest.gather_field distinct named check,
            List.append_cons found (key, j) (rest.known fields)]
          rw [List.append_cons] at distinct
          exact rest.gather_whole whole.2.2 _ distinct fun p mem =>
            checks p (List.mem_cons_of_mem _ mem)

/-- From an object the fields of a record are gathered, whatever other members it has. -/
theorem gather_object {fields : List Field} {ms : Members} (whole : ms.Whole)
    (distinct : ((ms.known fields).map Prod.fst).Nodup)
    (checks : ∀ p ∈ ms.known fields, ∃ field, fields.find? (·.name == p.1) = some field ∧
      field.check p.2 = .ok ())
    (there : ∀ field ∈ fields, field.absence = .never →
      ((ms.known fields).lookup field.name).isSome = true) :
    gather fields (.object ms) = .ok (ms.known fields) := by
  have complete : (fields.all fun f =>
      f.absence != .never || ((ms.known fields).lookup f.name).isSome) = true := by
    rw [List.all_eq_true]
    intro field mem
    by_cases never : field.absence = .never
    · rw [there field mem never, Bool.or_true]
    · simp [never]
  have gathered := ms.gather_whole whole [] distinct checks
  rw [List.nil_append] at gathered
  simp only [gather, gathered]
  exact if_pos complete

/-! ### Records of one field -/

/-- The values of the members with a name, in order. -/
def Members.valuesOf (ms : Members) (name : String) : List Json :=
  (ms.toList.filter (·.1 == name)).map Prod.snd

theorem Members.Whole.mem {ms : Members} (whole : ms.Whole) {p : String × Json}
    (mem : p ∈ ms.toList) : p.2.Whole := by
  cases ms with
  | done => cases mem
  | stopped => exact whole.elim
  | cons key j rest =>
      obtain ⟨key, rfl⟩ := Option.isSome_iff_exists.1 whole.1
      rcases List.mem_cons.1 mem with rfl | later
      · exact whole.2.1
      · exact Members.Whole.mem whole.2.2 later

/-- The only value under a name was written out in full. -/
theorem Members.Whole.value {ms : Members} (whole : ms.Whole) {name : String} {j : Json}
    (once : ms.valuesOf name = [j]) : j.Whole := by
  have mem : j ∈ ms.valuesOf name := once ▸ List.mem_singleton_self j
  obtain ⟨p, listed, rfl⟩ := List.mem_map.1 mem
  exact whole.mem (List.mem_filter.1 listed).1

theorem Members.known_singleton (ms : Members) (field : Field) :
    ms.known [field] = (ms.valuesOf field.name).map fun j => (field.name, j) := by
  have keep : ∀ p : String × Json,
      ([field].find? (·.name == p.1)).isSome = (p.1 == field.name) := by
    intro p
    rw [List.find?_singleton, Bool.beq_comm]
    split <;> simp_all
  have restore : ∀ p ∈ ms.toList.filter (·.1 == field.name), (field.name, p.2) = p := by
    intro p mem
    rw [← beq_iff_eq.1 (List.mem_filter.1 mem).2]
  rw [Members.known, Members.valuesOf, List.map_map]
  simp only [keep]
  exact (List.map_id _).symm.trans (List.map_congr_left fun p mem => (restore p mem).symm)

/-- A field is gathered if it is there once. -/
theorem gather_once {field : Field} {ms : Members} {j : Json} (whole : ms.Whole)
    (once : ms.valuesOf field.name = [j]) (check : field.check j = .ok ()) :
    gather [field] (.object ms) = .ok [(field.name, j)] := by
  have known : ms.known [field] = [(field.name, j)] := by
    rw [ms.known_singleton, once]
    rfl
  rw [← known]
  refine gather_object whole (by simp [known]) ?_ ?_
  · intro p mem
    rw [known, List.mem_singleton] at mem
    rw [mem]
    exact ⟨field, by simp, check⟩
  · intro f mem _
    rw [List.mem_singleton.1 mem, known, List.lookup_cons_self]
    rfl

/-- A field that may be left out can be missing. -/
theorem gather_missing {field : Field} {ms : Members} (whole : ms.Whole)
    (missing : ms.valuesOf field.name = []) (absence : field.absence ≠ .never) :
    gather [field] (.object ms) = .ok [] := by
  have known : ms.known [field] = [] := by
    rw [ms.known_singleton, missing]
    rfl
  rw [← known]
  refine gather_object whole (by simp [known]) ?_ ?_
  · intro p mem
    rw [known] at mem
    cases mem
  · intro f mem never
    rw [List.mem_singleton.1 mem] at never
    exact absurd never absence

end LabelForge.Json
