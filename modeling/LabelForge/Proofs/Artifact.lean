import LabelForge.Artifact
import LabelForge.Proofs.Json.Record
import LabelForge.Proofs.Json.Spelling
import LabelForge.Proofs.Tally

/-!
# LabelForge.Proofs.Artifact

**A manifest survives its file.** What is printed for a manifest is read back as that manifest,
provided its numbers fit their fields, its counts are sorted, and its moment survives its text.
-/

namespace LabelForge

open Json

/-- The moment that the others are counted from survives its text. -/
theorem Moment.parse?_epoch : Moment.parse? (Moment.mk 0 0).text = some ⟨0, 0⟩ := by
  decide +kernel

/-- What the fields of a manifest can hold, and a moment that is read back from its text. -/
structure Manifest.Storable (m : Manifest) : Prop where
  attempt : m.attempt < 2 ^ 32
  ruleCount : m.ruleCount < 2 ^ 64
  rowCount : m.rowCount < 2 ^ 64
  sorted : m.distribution.Sorted
  counts : ∀ p ∈ m.distribution, p.2 < 2 ^ 64
  moment : Moment.parse? m.promotedAt.text = some m.promotedAt

variable {m : Manifest}

theorem decode_language (l : Language) : asWord Language.words (ofText l.label) = .ok l := by
  cases l <;> rfl

theorem decode_fingerprint (f : Fingerprint) : Fingerprint.decoder (ofText f.text) = .ok f := by
  simp only [Fingerprint.decoder, ofText, asText, bind, Except.bind, f.ofText_text]
  rfl

theorem decode_moment {t : Moment} (h : Moment.parse? t.text = some t) :
    Moment.decoder (ofText t.text) = .ok t := by
  simp only [Moment.decoder, ofText, asText, bind, Except.bind, h]
  rfl

/-- The object of counts is read as its pairs. -/
theorem decode_counts {t : Tally} (counts : ∀ p ∈ t, p.2 < 2 ^ 64) :
    (Members.ofList (t.map fun p => (p.1, ofNat p.2))).decode (asNat 64) = .ok t := by
  induction t with
  | nil => rfl
  | cons p t ih =>
      have rest := ih fun q mem => counts q (List.mem_cons_of_mem _ mem)
      simp only [List.map_cons, Members.ofList, Members.decode,
        asNat_ofNat (counts p (List.mem_cons_self ..)), rest]
      rfl

theorem decode_tally {t : Tally} (sorted : t.Sorted) (counts : ∀ p ∈ t, p.2 < 2 ^ 64) :
    Tally.decoder t.toJson = .ok t := by
  rw [Tally.decoder, Tally.toJson, ofMembers, asPairs, decode_counts counts]
  exact congrArg Except.ok sorted.ofPairs

/-- The fields of a manifest with their documents. -/
def Manifest.fields (m : Manifest) : List (Field × Json) := [
  (.required "fingerprint" Fingerprint.decoder, ofText m.fingerprint.text),
  (.required "language" (asWord Language.words), ofText m.language.label),
  (.required "attempt" (asNat 32), ofNat m.attempt),
  (.required "source_sha256" asText, ofText m.sourceDigest),
  (.required "promoted_at" Moment.decoder, ofText m.promotedAt.text),
  (.required "rule_count" (asNat 64), ofNat m.ruleCount),
  (.required "observed_row_count" (asNat 64), ofNat m.rowCount),
  (.required "label_distribution" Tally.decoder, m.distribution.toJson)]

/-- Every field of a manifest is taken by its decoder. -/
theorem Manifest.Storable.checks (h : m.Storable) : ∀ p ∈ m.fields, p.1.check p.2 = .ok () := by
  simp only [Manifest.fields, List.forall_mem_cons]
  refine ⟨?_, ?_, ?_, ?_, ?_, ?_, ?_, ?_, nofun⟩
  · exact required_check _ (decode_fingerprint m.fingerprint)
  · exact required_check _ (decode_language m.language)
  · exact required_check _ (asNat_ofNat h.attempt)
  · rfl
  · exact required_check _ (decode_moment h.moment)
  · exact required_check _ (asNat_ofNat h.ruleCount)
  · exact required_check _ (asNat_ofNat h.rowCount)
  · exact required_check _ (decode_tally h.sorted h.counts)

/-- A manifest is decoded from its document. -/
theorem Manifest.Storable.decode (h : m.Storable) : Manifest.decoder m.toJson = .ok m := by
  have distinct : (m.fields.map (·.1.name)).Nodup := by
    show List.Nodup ["fingerprint", "language", "attempt", "source_sha256", "promoted_at",
      "rule_count", "observed_row_count", "label_distribution"]
    decide
  refine (gather_record_bind m.fields distinct h.checks _).trans ?_
  have text : asText (ofText m.sourceDigest) = .ok m.sourceDigest := rfl
  simp [Manifest.fields, Field.required, Found.get, List.lookup_cons, bind, Except.bind, text,
    decode_fingerprint, decode_language, decode_moment h.moment, asNat_ofNat h.attempt,
    asNat_ofNat h.ruleCount, asNat_ofNat h.rowCount, decode_tally h.sorted h.counts]
  rfl

/-- The document of a manifest is complete. -/
theorem Manifest.Storable.plain (h : m.Storable) : m.toJson.Plain := by
  refine complete_ofMembers ?_
  simp only [List.forall_mem_cons]
  refine ⟨complete_ofText _, complete_ofText _, plain_ofNat ?_, complete_ofText _,
    complete_ofText _, plain_ofNat h.ruleCount, plain_ofNat h.rowCount, complete_ofMembers ?_,
    nofun⟩
  · exact Nat.lt_trans h.attempt (by decide)
  · intro p mem
    obtain ⟨q, counted, rfl⟩ := List.mem_map.mp mem
    exact plain_ofNat (h.counts q counted)

/-- A manifest is read back from what is printed for it. -/
theorem Manifest.Storable.parse_print (h : m.Storable) : Manifest.parse m.print = .ok m := by
  rw [Manifest.parse, Json.decode, Manifest.print, read_pretty h.plain]
  simp only [h.decode, bind, Except.bind]
  rfl

end LabelForge
