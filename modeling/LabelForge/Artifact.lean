import LabelForge.Fingerprint
import LabelForge.Moment
import LabelForge.Tally

/-!
# LabelForge.Artifact

**Verified programs.** A program that was run and whose output passed every check is kept with a
*manifest*: its fingerprint, the attempt on which it passed, the digest of its text, and what its
output looked like.

Design points:

* An artifact is *intact* if the digest of its text is the one in the manifest.
* The manifest is a document with its fields in a fixed order; reading it back gives the same
  manifest, with the time of promotion in UTC.
-/

namespace LabelForge

open Json

/-- What is recorded about a verified program. -/
structure Manifest where
  fingerprint : Fingerprint
  language : Language
  /-- The attempt on which the program passed. -/
  attempt : Nat
  sourceDigest : String
  promotedAt : Moment
  ruleCount : Nat
  rowCount : Nat
  distribution : Tally
  deriving DecidableEq, Repr

/-- A verified program with its manifest. -/
structure Artifact where
  manifest : Manifest
  source : String
  deriving DecidableEq, Repr

/-- Whether the text still has the recorded digest. -/
def Artifact.isIntact (a : Artifact) : Bool :=
  Sha256.hexOfText a.source == a.manifest.sourceDigest

/-- The fingerprint of an artifact. -/
def Artifact.fingerprint (a : Artifact) : Fingerprint := a.manifest.fingerprint

/-! ### Documents -/

/-- Decodes a moment. -/
def Moment.decoder : Decoder Moment := fun j => do
  match Moment.parse? (← asText j) with
  | some m => return m
  | none => throw .mismatch

/-- Decodes a manifest. -/
def Manifest.decoder : Decoder Manifest := fun j => do
  let language := asWord Language.words
  let found ← gather [.required "fingerprint" Fingerprint.decoder, .required "language" language,
    .required "attempt" (asNat 32), .required "source_sha256" asText,
    .required "promoted_at" Moment.decoder, .required "rule_count" (asNat 64),
    .required "observed_row_count" (asNat 64), .required "label_distribution" Tally.decoder] j
  return {
    fingerprint := ← found.get "fingerprint" Fingerprint.decoder
    language := ← found.get "language" language
    attempt := ← found.get "attempt" (asNat 32)
    sourceDigest := ← found.get "source_sha256" asText
    promotedAt := ← found.get "promoted_at" Moment.decoder
    ruleCount := ← found.get "rule_count" (asNat 64)
    rowCount := ← found.get "observed_row_count" (asNat 64)
    distribution := ← found.get "label_distribution" Tally.decoder }

/-- Decodes an artifact. -/
def Artifact.decoder : Decoder Artifact := fun j => do
  let found ← gather [.required "manifest" Manifest.decoder, .required "source_text" asText] j
  return {
    manifest := ← found.get "manifest" Manifest.decoder
    source := ← found.get "source_text" asText }

/-- Reads a manifest. -/
def Manifest.parse (text : String) : Except Fault Manifest :=
  Json.decode Manifest.decoder text

/-- The document of a manifest. -/
def Manifest.toJson (m : Manifest) : Json :=
  .ofMembers [
    ("fingerprint", .ofText m.fingerprint.text),
    ("language", .ofText m.language.label),
    ("attempt", .ofNat m.attempt),
    ("source_sha256", .ofText m.sourceDigest),
    ("promoted_at", .ofText m.promotedAt.text),
    ("rule_count", .ofNat m.ruleCount),
    ("observed_row_count", .ofNat m.rowCount),
    ("label_distribution", m.distribution.toJson)]

/-- The text of a manifest's file. -/
def Manifest.print (m : Manifest) : String :=
  m.toJson.pretty

/-- The document of an artifact. -/
def Artifact.toJson (a : Artifact) : Json :=
  .ofMembers [("manifest", a.manifest.toJson), ("source_text", .ofText a.source)]

end LabelForge
