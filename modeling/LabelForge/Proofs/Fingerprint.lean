import LabelForge.Fingerprint
import LabelForge.Proofs.Artifact
import LabelForge.Proofs.Json.Compact
import LabelForge.Proofs.Rule
import LabelForge.Proofs.Text.Utf8

/-!
# LabelForge.Proofs.Fingerprint

**A fingerprint stands for one setting.** The document that is digested for a fingerprint can be
taken apart in only one way, and its parts tell everything that a program depends on. So two
settings have the same fingerprint only if SHA-256 gives the same digest for two messages.

Design points:

* Of the numbers in the rules it is only asked that they are doubles; no two doubles are printed
  alike (`Double.documentText_injective`).
-/

namespace LabelForge

open Json Number

/-! ### Digests -/

namespace Sha256

/-- The value of a string of hexadecimal digits. -/
def hexValue (ds : List Char) : Nat :=
  ds.foldl (fun n c => n * 16 + (Text.hexValue? c).getD 0) 0

theorem hexValue_toDigits (n : Nat) : hexValue (Nat.toDigits 16 n) = n := by
  have digit : ∀ d < 16, hexValue [Nat.digitChar d] = d := by decide
  induction n using Nat.strongRecOn with
  | ind n ih =>
    by_cases small : n < 16
    · rw [Nat.toDigits_of_lt_base small, digit n small]
    · have last := digit (n % 16) (Nat.mod_lt n (by decide))
      rw [Nat.toDigits_of_base_le (by decide) (by omega), hexValue, List.foldl_append, ← hexValue,
        ih (n / 16) (by omega)]
      simp only [hexValue, List.foldl_cons, List.foldl_nil] at last ⊢
      omega

theorem hexValue_hexWord (w : UInt32) : hexValue (hexWord w) = w.toNat := by
  have zeros (k : Nat) (ds : List Char) : hexValue (List.replicate k '0' ++ ds) = hexValue ds := by
    induction k with
    | zero => rfl
    | succ k ih => exact ih
  rw [hexWord, zeros, hexValue_toDigits]

/-- Words are written with as many digits each, and so are told by their digits. -/
theorem flatMap_hexWord_injective {ws vs : List UInt32} (length : ws.length = vs.length)
    (same : ws.flatMap hexWord = vs.flatMap hexWord) : ws = vs := by
  induction ws generalizing vs with
  | nil =>
      cases vs with
      | nil => rfl
      | cons v vs => cases length
  | cons w ws ih =>
      cases vs with
      | nil => cases length
      | cons v vs =>
          rw [List.flatMap_cons, List.flatMap_cons] at same
          obtain ⟨digits, others⟩ :=
            List.append_inj same ((length_hexWord w).trans (length_hexWord v).symm)
          have word : w.toNat = v.toNat := by
            rw [← hexValue_hexWord w, digits, hexValue_hexWord]
          rw [UInt32.toNat_inj.mp word, ih (Nat.succ.inj length) others]

/-- The text of a digest tells the digest. -/
theorem hex_eq_iff (m m' : Text.Bytes) : hex m = hex m' ↔ digest m = digest m' := by
  constructor
  · intro same
    have words := flatMap_hexWord_injective (by rfl) (String.ofList_inj.mp same)
    simp only [List.cons.injEq, and_true] at words
    obtain ⟨a, b, c, d, e, f, g, h⟩ := words
    generalize digest m = s at *
    generalize digest m' = t at *
    obtain ⟨⟩ := s
    obtain ⟨⟩ := t
    simp only at a b c d e f g h
    rw [a, b, c, d, e, f, g, h]
  · intro same
    rw [hex, hex, same]

/-- Two messages for which SHA-256 gives the same digest. -/
structure Collision (m m' : Text.Bytes) : Prop where
  differ : m ≠ m'
  digest : digest m = digest m'

end Sha256

/-! ### Keys -/

theorem decode_policy (p : TieBreak) : asWord TieBreak.words (ofText p.label) = .ok p := by
  cases p <;> rfl

theorem decode_columnType (t : ColumnType) : asWord ColumnType.words (ofText t.label) = .ok t := by
  cases t <;> rfl

theorem SchemaColumn.toJson_injective {c c' : SchemaColumn} (same : c.toJson = c'.toJson) :
    c = c' := by
  obtain ⟨name, type⟩ := c
  obtain ⟨name', type'⟩ := c'
  simp only [SchemaColumn.toJson, ofMembers, Members.ofList, Json.object.injEq, Members.cons.injEq,
    true_and, and_true] at same
  obtain rfl := ofText_injective same.1
  obtain rfl := injective_of_decode decode_columnType same.2
  rfl

theorem Labels.toJson_injective {l l' : Labels} (same : l.toJson = l'.toJson) : l = l' := by
  obtain ⟨statusColumn, defaultLabel⟩ := l
  obtain ⟨statusColumn', defaultLabel'⟩ := l'
  simp only [Labels.toJson, ofMembers, Members.ofList, Json.object.injEq, Members.cons.injEq,
    true_and, and_true] at same
  obtain rfl := ofText_injective same.1
  obtain rfl := ofText_injective same.2
  rfl

namespace FingerprintKey

variable {k k' : FingerprintKey}

/-- The document of a key is complete. -/
theorem exact_toJson (h : k.rules.Numbers Double.Representable) : k.toJson.Exact := by
  refine complete_ofMembers ?_
  simp only [List.forall_mem_cons]
  refine ⟨RuleSet.complete_toJson (fun _ _ => trivial) h, complete_ofItems fun c _ => ?_,
    complete_ofText _, complete_ofMembers ?_, complete_ofText _, nofun⟩
  · refine complete_ofMembers ?_
    simp only [List.forall_mem_cons]
    exact ⟨complete_ofText _, complete_ofText _, nofun⟩
  · simp only [List.forall_mem_cons]
    exact ⟨complete_ofText _, complete_ofText _, nofun⟩

/-- The document of a key tells all its parts. -/
theorem toJson_injective (h : k.rules.Numbers Double.Representable)
    (h' : k'.rules.Numbers Double.Representable) (same : k.toJson = k'.toJson) : k = k' := by
  obtain ⟨rules, columns, policy, labels, language⟩ := k
  obtain ⟨rules', columns', policy', labels', language'⟩ := k'
  simp only [FingerprintKey.toJson, ofMembers, Members.ofList, Json.object.injEq,
    Members.cons.injEq, true_and, and_true] at same
  obtain ⟨ruleSets, columnLists, policies, labelings, languages⟩ := same
  obtain rfl := RuleSet.toJson_injective h h' ruleSets
  obtain rfl := ofItems_injective (fun _ _ _ _ => SchemaColumn.toJson_injective) columnLists
  obtain rfl := injective_of_decode decode_policy policies
  obtain rfl := Labels.toJson_injective labelings
  obtain rfl := injective_of_decode decode_language languages
  rfl

/-- Keys with the same compact text are equal in all their parts. Keys with the same fingerprint
are equal, too, unless their texts are a collision of SHA-256. -/
theorem separated (k k' : FingerprintKey) (h : k.rules.Numbers Double.Representable)
    (h' : k'.rules.Numbers Double.Representable) :
    (k.toJson.compact = k'.toJson.compact → k = k') ∧
    (Fingerprint.ofKey k = Fingerprint.ofKey k' → k = k' ∨
      Sha256.Collision (Text.bytesOf k.toJson.compact) (Text.bytesOf k'.toJson.compact)) := by
  have texts (same : k.toJson.compact = k'.toJson.compact) : k = k' :=
    toJson_injective h h' ((exact_toJson h).compact_injective (exact_toJson h') same)
  refine ⟨texts, fun same => ?_⟩
  by_cases equal : k = k'
  · exact .inl equal
  · exact .inr {
      differ := fun bytes => equal (texts (Text.bytesOf_injective bytes))
      digest := (Sha256.hex_eq_iff _ _).mp (Fingerprint.mk.inj same) }

/-- A key with a rule that compares with a literal. -/
def ofLiteral (l : Literal) : FingerprintKey where
  rules := ⟨[⟨"old", "Old stock", ⟨[⟨"age", .gt, l⟩]⟩, "sell", 1, none⟩]⟩
  columns := [⟨"age", .integer⟩]
  policy := .specificityFirst
  labels := {}
  language := .labelPlan

/-- A literal that is a natural number is a double, unless it is too great. -/
theorem numbers_ofLiteral (n : Nat) (finite : (Double.ofNat n).isFinite = true) :
    (ofLiteral (.number (.ofNat n))).rules.Numbers Double.Representable := by
  simp only [RuleSet.Numbers, ofLiteral, List.forall_mem_singleton, Literal.Numbers]
  exact Double.representable_ofUnits finite

/-- A number and its text are told apart. -/
theorem separated_kinds :
    (ofLiteral (.number (.ofNat 180))).rules.Numbers Double.Representable ∧
      (ofLiteral (.text "180.0")).rules.Numbers Double.Representable ∧
        (ofLiteral (.number (.ofNat 180))).toJson.compact ≠
          (ofLiteral (.text "180.0")).toJson.compact := by
  have number := numbers_ofLiteral 180 (by decide +kernel)
  have text : (ofLiteral (.text "180.0")).rules.Numbers Double.Representable := by
    simp [RuleSet.Numbers, ofLiteral, Literal.Numbers]
  have differ : ofLiteral (.number (.ofNat 180)) ≠ ofLiteral (.text "180.0") := by decide +kernel
  exact ⟨number, text, fun same => differ ((separated _ _ number text).1 same)⟩

end FingerprintKey

end LabelForge
