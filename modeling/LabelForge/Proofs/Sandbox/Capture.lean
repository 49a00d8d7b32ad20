import LabelForge.Sandbox.Capture

/-!
# LabelForge.Proofs.Sandbox.Capture

**What is kept of a stream.** A capture is fed with the pieces in which a stream happens to arrive.
The text that it ends with depends on the stream alone: it is that of the first half of the limit
and of the last half, with a note between them if the stream is longer than the limit.

Two pieces that follow each other do the same as the two in one (`push_push`). This needs no
invariant of the capture: of a tail that has forgotten its oldest bytes, and of the whole tail, the
latest bytes are the same whatever is added. So a stream is as good as a stream in one piece.
-/

namespace LabelForge.Capture

open Text (Bytes lenient lenientText)

/-! ### The latest bytes -/

/-- The latest `n` bytes, or all if there are fewer. -/
def latest (n : Nat) (bytes : Bytes) : Bytes :=
  bytes.drop (bytes.length - n)

theorem length_latest (n : Nat) (bytes : Bytes) : (latest n bytes).length = min n bytes.length := by
  rw [latest, List.length_drop]
  omega

/-- Bytes that are not among the latest may be forgotten before others are added. -/
theorem latest_append (n : Nat) (older newer : Bytes) :
    latest n (latest n older ++ newer) = latest n (older ++ newer) := by
  have forgotten : latest n older ++ newer = (older ++ newer).drop (older.length - n) :=
    (List.drop_append_of_le_length (Nat.sub_le ..)).symm
  have all : older.length - n + ((older ++ newer).length - (older.length - n) - n) =
      (older ++ newer).length - n := by
    rw [List.length_append]
    omega
  rw [forgotten, latest, List.length_drop, List.drop_drop, all, latest]

/-! ### Pieces that follow each other -/

attribute [ext] Capture

section Push

variable (c : Capture) (piece : Bytes)

theorem headLimit_push : (c.push piece).headLimit = c.headLimit := rfl

theorem tailLimit_push : (c.push piece).tailLimit = c.tailLimit := rfl

theorem head_push :
    (c.push piece).head = c.head ++ piece.take (c.headLimit - c.head.length) := rfl

theorem tail_push : (c.push piece).tail =
    latest c.tailLimit (c.tail ++ piece.drop (c.headLimit - c.head.length)) := rfl

theorem truncated_push : (c.push piece).truncated = true ↔ c.truncated = true ∨
    c.tailLimit < (c.tail ++ piece.drop (c.headLimit - c.head.length)).length := by
  simp only [push, Bool.or_eq_true, decide_eq_true_eq, Nat.sub_pos_iff_lt]

end Push

/-- What the first of two pieces leaves of the room in the head is left for the second one. -/
theorem room_push (c : Capture) (piece : Bytes) :
    c.headLimit - (c.push piece).head.length = c.headLimit - c.head.length - piece.length := by
  rw [head_push, List.length_append, List.length_take]
  omega

/-- Two pieces do the same as the two in one. -/
theorem push_push (c : Capture) (a b : Bytes) : (c.push a).push b = c.push (a ++ b) := by
  have tails : c.tail ++ (a ++ b).drop (c.headLimit - c.head.length) =
      c.tail ++ a.drop (c.headLimit - c.head.length) ++
        b.drop (c.headLimit - c.head.length - a.length) := by
    rw [List.drop_append, List.append_assoc]
  have head : ((c.push a).push b).head = (c.push (a ++ b)).head := by
    rw [head_push, headLimit_push, room_push, head_push, head_push, List.take_append,
      List.append_assoc]
  have tail : ((c.push a).push b).tail = (c.push (a ++ b)).tail := by
    rw [tail_push, headLimit_push, room_push, tailLimit_push, tail_push, latest_append, tail_push,
      tails]
  have truncated : ((c.push a).push b).truncated = (c.push (a ++ b)).truncated := by
    -- bytes are missing if some were forgotten with the first piece, or are with the second
    rw [Bool.eq_iff_iff, truncated_push, truncated_push, truncated_push, headLimit_push, room_push,
      tailLimit_push, tail_push, tails, or_assoc]
    refine or_congr_right ?_
    simp only [List.length_append, length_latest]
    omega
  exact Capture.ext rfl head tail truncated

/-- Pieces do the same as all of them in one, by induction on the pieces. -/
theorem foldl_push (c : Capture) (first : Bytes) (pieces : List Bytes) :
    pieces.foldl push (c.push first) = c.push (first ++ pieces.flatten) := by
  induction pieces generalizing first with
  | nil => rw [List.foldl_nil, List.flatten_nil, List.append_nil]
  | cons piece pieces ih =>
      rw [List.foldl_cons, push_push, ih, List.flatten_cons, List.append_assoc]

/-! ### Streams -/

/-- A stream cut into what the head keeps of it, what is lost, and what the tail keeps. The head has
as much of its half of the limit as there is, and the tail as much of what follows. -/
structure Cut (limit : Nat) (stream : Bytes) where
  head : Bytes
  lost : Bytes
  tail : Bytes
  whole : head ++ lost ++ tail = stream
  length_head : head.length = min (limit / 2) stream.length
  length_tail : tail.length = min (limit - limit / 2) (stream.length - head.length)

/-- The cut of a stream. -/
def cut (limit : Nat) (stream : Bytes) : Cut limit stream where
  head := stream.take (limit / 2)
  lost := (stream.drop (limit / 2)).take
    ((stream.drop (limit / 2)).length - (limit - limit / 2))
  tail := latest (limit - limit / 2) (stream.drop (limit / 2))
  whole := by rw [latest, List.append_assoc, List.take_append_drop, List.take_append_drop]
  length_head := List.length_take
  length_tail := by
    rw [length_latest, List.length_drop, List.length_take]
    omega

namespace Cut

variable {limit : Nat} {stream : Bytes}

/-- The text of what is kept, with the note in the place of what is lost of a stream that is longer
than the limit. -/
def text (c : Cut limit stream) : String :=
  lenientText c.head ++ (if limit < stream.length then note else "") ++ lenientText c.tail

/-- As many bytes are kept as the limit says, or all. -/
theorem length_kept (c : Cut limit stream) :
    c.head.length + c.tail.length = min limit stream.length := by
  have head := c.length_head
  have tail := c.length_tail
  omega

/-- Nothing is lost of a stream within the limit. -/
theorem lost_eq_nil_iff (c : Cut limit stream) : c.lost = [] ↔ stream.length ≤ limit := by
  have kept := c.length_kept
  have whole := congrArg List.length c.whole
  simp only [List.length_append] at whole
  rw [← List.length_eq_zero_iff]
  omega

theorem append_of_within (c : Cut limit stream) (within : stream.length ≤ limit) :
    c.head ++ c.tail = stream := by
  have whole := c.whole
  rwa [c.lost_eq_nil_iff.2 within, List.append_nil] at whole

/-- A stream within the limit is cut in the middle of the limit. -/
theorem halves_of_within (c : Cut limit stream) (within : stream.length ≤ limit) :
    c.head = stream.take (limit / 2) ∧ c.tail = stream.drop (limit / 2) := by
  have whole := c.append_of_within within
  have head := c.length_head
  have size := congrArg List.length whole
  rw [List.length_append] at size
  have left : c.head.take (limit / 2) = c.head := List.take_of_length_le (by omega)
  have right : c.tail.take (limit / 2 - c.head.length) = [] := by
    rw [← List.length_eq_zero_iff, List.length_take]
    omega
  have first : (c.head ++ c.tail).take (limit / 2) = c.head := by
    rw [List.take_append, left, right, List.append_nil]
  have parts := List.take_append_drop (limit / 2) stream
  rw [whole] at first
  rw [first] at parts
  exact ⟨first.symm, List.append_cancel_left (whole.trans parts.symm)⟩

theorem toList_text_within (c : Cut limit stream) (within : stream.length ≤ limit) :
    c.text.toList = lenient c.head ++ lenient c.tail := by
  rw [text, if_neg (Nat.not_lt.2 within), lenientText, lenientText]
  simp only [String.toList_append, String.toList_ofList, String.toList_empty, List.append_nil]

theorem toList_text_longer (c : Cut limit stream) (longer : limit < stream.length) :
    c.text.toList = lenient c.head ++ (note.toList ++ lenient c.tail) := by
  rw [text, if_pos longer, lenientText, lenientText]
  simp only [String.toList_append, String.toList_ofList, List.append_assoc]

end Cut

/-- A stream in one piece leaves what is kept of its cut. -/
theorem push_stream (limit : Nat) (stream : Bytes) :
    push { limit } stream =
      ⟨limit, (cut limit stream).head, (cut limit stream).tail,
        decide (limit < stream.length)⟩ := by
  have truncated : (push { limit } stream).truncated = decide (limit < stream.length) := by
    rw [Bool.eq_iff_iff, truncated_push, decide_eq_true_iff]
    simp only [tailLimit, headLimit, List.length_nil, Nat.sub_zero, List.nil_append,
      List.length_drop, Bool.false_eq_true, false_or]
    omega
  rw [← truncated]
  rfl

/-- The text of a stream in any pieces is that of its cut. -/
theorem ofPieces_eq_text (limit : Nat) (pieces : List Bytes) :
    ofPieces limit pieces = (cut limit pieces.flatten).text := by
  have start : push { limit } [] = { limit } := by simp [push]
  rw [ofPieces, ← start, foldl_push, List.nil_append, push_stream, text, Cut.text]
  simp only [decide_eq_true_eq]

/-- **What is captured is a function of the stream.** Into whatever pieces a stream is split, and
whatever the limit is, the text is the lenient reading of the first half of the limit, the note if
and only if the stream is longer than the limit, and the lenient reading of the last half (which has
the odd byte) of what follows. No more bytes are kept than the limit says, and none is lost unless
there is the note. -/
theorem ofPieces_flatten (limit : Nat) (pieces : List Bytes) :
    ofPieces limit pieces = (cut limit pieces.flatten).text ∧
      (cut limit pieces.flatten).head.length + (cut limit pieces.flatten).tail.length =
        min limit pieces.flatten.length ∧
      ((cut limit pieces.flatten).lost = [] ↔ pieces.flatten.length ≤ limit) :=
  ⟨ofPieces_eq_text limit pieces, (cut limit pieces.flatten).length_kept,
    (cut limit pieces.flatten).lost_eq_nil_iff⟩

example : ofPieces 5 [[65, 66], [67, 68, 69, 70], [71]] =
    "AB\n[... output truncated ...]\nEFG" := by decide

end LabelForge.Capture
