import LabelForge.Policy
import LabelForge.Program
import LabelForge.Rule.Document
import LabelForge.Schema
import LabelForge.Sha256

/-!
# LabelForge.Fingerprint

**The address of a verified program.** Everything a program depends on (the rules, the columns
with their types, the tie-break policy, the labels and the program's language) is written into
one document, the *key*; the fingerprint is the SHA-256 digest of its compact text.

Design points:

* Sample rows and row counts are left out, so one program serves every table with its columns.
* A fingerprint is kept in lower-case hexadecimal digits; upper-case input is accepted.
-/

namespace LabelForge

open Json

/-- The digest that addresses a verified program. -/
@[ext] structure Fingerprint where
  text : String
  isHex : Sha256.IsHex text
  deriving DecidableEq, Repr

/-- What a program depends on. -/
structure FingerprintKey where
  rules : RuleSet
  columns : List SchemaColumn
  policy : TieBreak
  labels : Labels
  language : Language
  deriving DecidableEq, Repr

/-- The document of the labels. -/
def Labels.toJson (l : Labels) : Json :=
  .ofMembers [("status_column", .ofText l.statusColumn), ("default_label", .ofText l.defaultLabel)]

/-- Decodes labels. -/
def Labels.decoder : Decoder Labels := fun j => do
  let found ← gather [.required "status_column" asText, .required "default_label" asText] j
  return {
    statusColumn := ← found.get "status_column" asText
    defaultLabel := ← found.get "default_label" asText }

/-- The document that is digested. -/
def FingerprintKey.toJson (k : FingerprintKey) : Json :=
  .ofMembers [
    ("rules", k.rules.toJson),
    ("columns", .ofItems (k.columns.map SchemaColumn.toJson)),
    ("policy", .ofText k.policy.label),
    ("labels", k.labels.toJson),
    ("language", .ofText k.language.label)]

namespace Fingerprint

/-- The fingerprint of a key. -/
def ofKey (k : FingerprintKey) : Fingerprint :=
  ⟨Sha256.hexOfText k.toJson.compact, Sha256.isHex_hex _⟩

/-- The fingerprint of a rule set, the columns of a table and the settings. -/
def compute (rules : RuleSet) (schema : SchemaDigest) (policy : TieBreak) (labels : Labels)
    (language : Language) : Fingerprint :=
  ofKey ⟨rules, schema.columns, policy, labels, language⟩

/-- Whether a character is a hexadecimal digit. -/
def isHexDigit (c : Char) : Bool :=
  c.isDigit || ('a' ≤ c && c ≤ 'f') || ('A' ≤ c && c ≤ 'F')

/-- What holds of the first characters of ASCII holds of all hexadecimal digits. -/
theorem of_isHexDigit {p : Char → Prop} {c : Char} (h : isHexDigit c = true)
    (all : ∀ n < 103, isHexDigit (Char.ofNat n) = true → p (Char.ofNat n)) : p c := by
  have small : c.toNat < 103 := by
    simp only [isHexDigit, Char.isDigit, Bool.or_eq_true, Bool.and_eq_true, decide_eq_true_eq,
      Char.le_def, UInt32.le_iff_toNat_le, ge_iff_le] at h
    change (48 ≤ c.toNat ∧ c.toNat ≤ 57 ∨ 97 ≤ c.toNat ∧ c.toNat ≤ 102) ∨
      65 ≤ c.toNat ∧ c.toNat ≤ 70 at h
    omega
  rw [← Char.ofNat_toNat c] at h ⊢
  exact all _ small h

theorem isHexDigit_toLower {c : Char} (h : isHexDigit c = true) :
    Sha256.isHexDigit c.toLower = true :=
  @of_isHexDigit (fun c => Sha256.isHexDigit c.toLower = true) c h (by decide)

/-- The digits of a digest are written in lower case. -/
theorem isHexDigit_of_digest {c : Char} (h : Sha256.isHexDigit c = true) :
    isHexDigit c = true ∧ c.toLower = c := by
  have digit : isHexDigit c = true := by
    rw [Sha256.isHexDigit] at h
    rw [isHexDigit, h, Bool.true_or]
  have lower : Sha256.isHexDigit c = true → c.toLower = c :=
    @of_isHexDigit (fun c => Sha256.isHexDigit c = true → c.toLower = c) c digit (by decide)
  exact ⟨digit, lower h⟩

/-- The fingerprint of a text of 64 hexadecimal digits. -/
def parse? (s : String) : Option Fingerprint :=
  let cs := s.toList
  if h : cs.length = 64 ∧ cs.all isHexDigit = true then
    some {
      text := .ofList (cs.map Char.toLower)
      isHex := {
        length := by rw [String.toList_ofList, List.length_map, h.1]
        digits := by
          intro c mem
          rw [String.toList_ofList, List.mem_map] at mem
          obtain ⟨c, mem, rfl⟩ := mem
          exact isHexDigit_toLower (List.all_eq_true.mp h.2 c mem) } }
  else none

/-- The text of a fingerprint is read as that fingerprint. -/
@[simp] theorem parse?_text (f : Fingerprint) : parse? f.text = some f := by
  have digits : f.text.toList.all isHexDigit = true :=
    List.all_eq_true.mpr fun c mem => (isHexDigit_of_digest (f.isHex.digits c mem)).1
  have lower : f.text.toList.map Char.toLower = f.text.toList.map id :=
    List.map_congr_left fun c mem => (isHexDigit_of_digest (f.isHex.digits c mem)).2
  obtain ⟨text, isHex⟩ := f
  simp only [parse?, dif_pos (And.intro isHex.length digits), lower, List.map_id,
    String.ofList_toList]

/-- The message for a text that is no fingerprint. -/
def invalidMessage (value : String) : String :=
  s!"fingerprint '{value}' is not a sha-256 digest"

/-- The fingerprint of a text, or what is wrong with the text. -/
def ofText (value : String) : Except String Fingerprint :=
  match parse? value with
  | some f => .ok f
  | none => .error (invalidMessage value)

@[simp] theorem ofText_text (f : Fingerprint) : ofText f.text = .ok f := by
  rw [ofText, parse?_text]

/-- The first twelve digits. -/
def short (f : Fingerprint) : String :=
  .ofList (f.text.toList.take 12)

/-- Decodes a fingerprint. A document with a text that is none has another shape; its fault does not
repeat what is wrong with the text. -/
def decoder : Decoder Fingerprint := fun j => do
  (ofText (← asText j)).mapError fun _ => .mismatch

end Fingerprint

end LabelForge
