import LabelForge.Proofs.Sandbox.Capture
import LabelForge.Proofs.Text.Lenient

/-!
# LabelForge.Proofs.Sandbox.Verbatim

**Output within the limit.** Nothing is lost of a stream within the limit, but head and tail are
decoded apart even so. A text comes through as it is unless the middle of the limit lies inside one
of its characters. That character is replaced then, by one mark for its part in the head and one for
each of its bytes in the tail; everything else is as it was.
-/

namespace LabelForge.Capture

open Text (Bytes Straddled bytesOf lenient)

variable {limit : Nat} {pieces : List Bytes} {s : String}

/-- The text of a stream within the limit is read in two halves. -/
theorem toList_ofPieces_within (stream : pieces.flatten = bytesOf s)
    (within : (bytesOf s).length ≤ limit) : (ofPieces limit pieces).toList =
      lenient ((bytesOf s).take (limit / 2)) ++ lenient ((bytesOf s).drop (limit / 2)) := by
  obtain ⟨head, tail⟩ := (cut limit (bytesOf s)).halves_of_within within
  rw [ofPieces_eq_text, stream, Cut.toList_text_within _ within, head, tail]

theorem ofPieces_eq_iff (stream : pieces.flatten = bytesOf s)
    (within : (bytesOf s).length ≤ limit) :
    ofPieces limit pieces = s ↔ ¬ Nonempty (Straddled s (limit / 2)) := by
  rw [← String.toList_inj, toList_ofPieces_within stream within]
  exact Text.lenient_halves_iff s (limit / 2)

/-- **A text within the limit comes through as it is, unless the middle of the limit lies inside one
of its characters.** If it does, that character alone is replaced. -/
theorem captured_verbatim_iff (limit : Nat) (pieces : List Bytes) (s : String)
    (stream : pieces.flatten = bytesOf s) (within : (bytesOf s).length ≤ limit) :
    (ofPieces limit pieces = s ↔ ¬ Nonempty (Straddled s (limit / 2))) ∧
      ∀ c : Straddled s (limit / 2), ofPieces limit pieces = .ofList c.halves := by
  refine ⟨ofPieces_eq_iff stream within, fun c => ?_⟩
  rw [← String.toList_inj, toList_ofPieces_within stream within, c.lenient_halves,
    String.toList_ofList]

/-- The middle of the limit lies between the two characters. -/
theorem captured_verbatim_accent : [[97, 195], [169]].flatten = bytesOf "aé" ∧
    (bytesOf "aé").length ≤ 3 ∧ ofPieces 3 [[97, 195], [169]] = "aé" := by
  have stream : [[97, 195], [169]].flatten = bytesOf "aé" := by decide
  have within : (bytesOf "aé").length ≤ 3 := by decide
  have whole : ¬ Nonempty (Straddled "aé" (3 / 2)) := (Text.lenient_halves_iff _ _).1 (by decide)
  exact ⟨stream, within, (captured_verbatim_iff 3 _ "aé" stream within).1.2 whole⟩

/-- A text of one character that is as long as the limit allows. -/
theorem garbled_accent : [[195, 169]].flatten = bytesOf "é" ∧ (bytesOf "é").length ≤ 2 ∧
    ofPieces 2 [[195, 169]] = "\ufffd\ufffd" ∧ ofPieces 2 [[195, 169]] ≠ "é" := by
  decide

end LabelForge.Capture
