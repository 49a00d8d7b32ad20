import LabelForge.Sandbox.Process
import LabelForge.Proofs.Sandbox.Capture
import LabelForge.Proofs.Text.Lines

/-!
# LabelForge.Proofs.Sandbox.Marker

**Looking for the marker in what was kept.** The marker is looked for among the lines of the
captured text, and these are not the lines of the output. Some lines of the output are kept whole
(`Cut.Keeps`). Others the capture makes itself (`Cut.Forges`): the note, and what is left of the
lines that the head ends in and the tail begins with. A program that printed the marker only as a
part of a line can be taken to be complete, therefore, if its output is longer than the limit
(`Sandbox.forged_done`), and in no other way but for faulty characters (`Sandbox.markerSeen_iff`).

The other way round there is nothing to fear: a marker on the last line is seen if there is room for
it in the tail (`Sandbox.markerSeen_of_lastLine`). The marker is of ASCII and the last byte before
it, if there is one, is a line feed, so neither can be drawn into a faulty sequence.
-/

namespace LabelForge

open Text (AtLineStart Bytes bytesOf lenient lenientText)

/-- A marker is seen if a line is the marker when it is trimmed. -/
theorem hasMarkerLine_iff {marker output : String} (nonempty : marker ≠ "") :
    hasMarkerLine marker output = true ↔
      ∃ line ∈ output.toList.splitOn '\n', Text.trimChars line = marker.toList := by
  rw [← Text.exists_mem_lines_iff nonempty, hasMarkerLine, List.any_eq_true]
  simp only [beq_iff_eq]

/-- A marker that is seen is a part of one line. -/
theorem unbroken_of_hasMarkerLine {marker output : String}
    (seen : hasMarkerLine marker output = true) : '\n' ∉ marker.toList := by
  by_cases nonempty : marker = ""
  · rw [nonempty]
    decide
  · obtain ⟨line, mem, marks⟩ := (hasMarkerLine_iff nonempty).1 seen
    rw [← marks]
    exact fun feed => Text.not_mem_of_mem_splitOn '\n' mem ((Text.trimChars_sublist line).mem feed)

namespace Capture.Cut

variable {limit : Nat} {stream : Bytes} (c : Cut limit stream)

/-! ### Lines of what is kept -/

/-- The line that the head ends in. -/
def lastLine : Bytes := (c.head.splitOn 0x0A).getLastD []

/-- The line that the tail begins with. -/
def firstLine : Bytes := (c.tail.splitOn 0x0A).headD []

/-- The lines of a stream that are kept whole, each on a line of its own. -/
inductive Keeps : Bytes → Prop where
  /-- It ends in the head. -/
  | early {line} (ended : line ∈ (c.head.splitOn 0x0A).dropLast) : Keeps line
  /-- It begins in the tail. -/
  | late {line} (begun : line ∈ (c.tail.splitOn 0x0A).tail) : Keeps line
  /-- It ends where the head does. -/
  | stopped (longer : limit < stream.length) (next : c.lost.head? = some 0x0A) : Keeps c.lastLine
  /-- It begins where the tail does. -/
  | fresh (longer : limit < stream.length) (previous : c.lost.getLast? = some 0x0A) :
    Keeps c.firstLine
  /-- It goes on from the head into the tail, and can be read as well in two parts. -/
  | across (within : stream.length ≤ limit)
      (legible : lenient (c.lastLine ++ c.firstLine) = lenient c.lastLine ++ lenient c.firstLine) :
    Keeps (c.lastLine ++ c.firstLine)

/-- The lines that only the capture makes. -/
inductive Forges : String → Prop where
  /-- The beginning of a line of which the rest is not in the head. -/
  | beginning (longer : limit < stream.length) (more : c.lost.head? ≠ some 0x0A) :
    Forges (lenientText c.lastLine)
  /-- The note. -/
  | noted (longer : limit < stream.length) : Forges "[... output truncated ...]"
  /-- The end of a line of which the rest is not in the tail. -/
  | ending (longer : limit < stream.length) (more : c.lost.getLast? ≠ some 0x0A) :
    Forges (lenientText c.firstLine)
  /-- A line with a faulty sequence where the head ends and the tail begins. -/
  | garbled (within : stream.length ≤ limit)
      (faulty : lenient (c.lastLine ++ c.firstLine) ≠ lenient c.lastLine ++ lenient c.firstLine) :
    Forges (lenientText c.lastLine ++ lenientText c.firstLine)

theorem split_head : c.head.splitOn 0x0A = (c.head.splitOn 0x0A).dropLast ++ [c.lastLine] := by
  have some := List.splitOn_ne_nil (0x0A : UInt8) c.head
  rw [lastLine, List.getLastD_eq_getLast?, List.getLast?_eq_some_getLast some, Option.getD_some,
    List.dropLast_concat_getLast some]

theorem split_tail : c.tail.splitOn 0x0A = c.firstLine :: (c.tail.splitOn 0x0A).tail := by
  rw [firstLine]
  cases split : c.tail.splitOn 0x0A with
  | nil => exact absurd split (List.splitOn_ne_nil _ _)
  | cons => rfl

/-- What is kept is a line of the stream. -/
theorem Keeps.mem {line : Bytes} (kept : c.Keeps line) : line ∈ stream.splitOn 0x0A := by
  have whole := c.whole
  cases kept with
  | early ended =>
      rw [← whole, List.append_assoc]
      exact Text.mem_splitOn_of_mem_dropLast _ ended _
  | late begun =>
      rw [← whole]
      exact Text.mem_splitOn_of_mem_tail _ begun _
  | stopped longer next =>
      obtain ⟨lost, split⟩ := List.head?_eq_some_iff.1 next
      rw [split, List.append_assoc, List.cons_append] at whole
      have lines := congrArg (List.splitOn 0x0A) whole
      rw [List.splitOn_append_cons_self, split_head c] at lines
      rw [← lines]
      exact List.mem_append_left _ (List.mem_append_right _ (List.mem_singleton_self _))
  | fresh longer previous =>
      obtain ⟨lost, split⟩ := List.getLast?_eq_some_iff.1 previous
      rw [split, ← List.append_assoc, List.append_assoc, List.singleton_append] at whole
      have lines := congrArg (List.splitOn 0x0A) whole
      rw [List.splitOn_append_cons_self, split_tail c] at lines
      rw [← lines]
      exact List.mem_append_right _ List.mem_cons_self
  | across within _ =>
      have lines := Text.mem_splitOn_across 0x0A c.head c.tail
      rwa [c.append_of_within within] at lines

/-- The lines of the text of a stream within the limit: head and tail share one. -/
theorem splitOn_text_within (within : stream.length ≤ limit) : c.text.toList.splitOn '\n' =
    (c.head.splitOn 0x0A).dropLast.map lenient ++
      (lenient c.lastLine ++ lenient c.firstLine) :: (c.tail.splitOn 0x0A).tail.map lenient := by
  rw [c.toList_text_within within, Text.splitOn_append, Text.splitOn_lenient, Text.splitOn_lenient,
    split_head, split_tail]
  simp only [List.map_append, List.map_cons, List.map_nil, List.dropLast_concat,
    List.getLastD_concat, List.modifyHead_cons, List.tail_cons]

/-- The lines of the text of a longer stream: those of the head, the note, and those of the tail. -/
theorem splitOn_text_longer (longer : limit < stream.length) : c.text.toList.splitOn '\n' =
    ((c.head.splitOn 0x0A).dropLast ++ [c.lastLine]).map lenient ++
      "[... output truncated ...]".toList ::
        (c.firstLine :: (c.tail.splitOn 0x0A).tail).map lenient := by
  have note : note.toList = '\n' :: "[... output truncated ...]".toList ++ ['\n'] := by decide
  have noFeed : '\n' ∉ "[... output truncated ...]".toList := by decide
  rw [c.toList_text_longer longer, note, List.cons_append, List.cons_append,
    List.splitOn_append_cons_self, List.append_assoc, List.singleton_append,
    List.splitOn_append_cons_self_of_not_mem noFeed, Text.splitOn_lenient, Text.splitOn_lenient,
    ← split_head, ← split_tail]

/-- Every line of the captured text is kept or made by the capture. -/
theorem kept_or_forged {line : List Char} (mem : line ∈ c.text.toList.splitOn '\n') :
    (∃ kept, c.Keeps kept ∧ lenient kept = line) ∨
      ∃ forged, c.Forges forged ∧ forged.toList = line := by
  rcases Nat.lt_or_ge limit stream.length with longer | within
  · simp only [c.splitOn_text_longer longer, List.mem_append, List.mem_cons, List.mem_map,
      List.not_mem_nil, or_false, or_and_right, exists_or, exists_eq_left] at mem
    rcases mem with (⟨kept, ended, rfl⟩ | rfl) | rfl | rfl | ⟨kept, begun, rfl⟩
    · exact .inl ⟨kept, .early ended, rfl⟩
    · by_cases next : c.lost.head? = some 0x0A
      · exact .inl ⟨_, .stopped longer next, rfl⟩
      · exact .inr ⟨_, .beginning longer next, Text.toList_lenientText _⟩
    · exact .inr ⟨_, .noted longer, rfl⟩
    · by_cases previous : c.lost.getLast? = some 0x0A
      · exact .inl ⟨_, .fresh longer previous, rfl⟩
      · exact .inr ⟨_, .ending longer previous, Text.toList_lenientText _⟩
    · exact .inl ⟨kept, .late begun, rfl⟩
  · simp only [c.splitOn_text_within within, List.mem_append, List.mem_cons, List.mem_map] at mem
    rcases mem with ⟨kept, ended, rfl⟩ | rfl | ⟨kept, begun, rfl⟩
    · exact .inl ⟨kept, .early ended, rfl⟩
    · by_cases legible :
        lenient (c.lastLine ++ c.firstLine) = lenient c.lastLine ++ lenient c.firstLine
      · exact .inl ⟨_, .across within legible, legible⟩
      · refine .inr ⟨_, .garbled within legible, ?_⟩
        rw [String.toList_append, Text.toList_lenientText, Text.toList_lenientText]
    · exact .inl ⟨kept, .late begun, rfl⟩

/-- What is kept can be found in the captured text. -/
theorem Keeps.shown {line : Bytes} (kept : c.Keeps line) :
    lenient line ∈ c.text.toList.splitOn '\n' := by
  cases kept with
  | early ended =>
      rcases Nat.lt_or_ge limit stream.length with longer | within
      · rw [c.splitOn_text_longer longer]
        exact List.mem_append_left _ (List.mem_map_of_mem (List.mem_append_left _ ended))
      · rw [c.splitOn_text_within within]
        exact List.mem_append_left _ (List.mem_map_of_mem ended)
  | late begun =>
      rcases Nat.lt_or_ge limit stream.length with longer | within
      · rw [c.splitOn_text_longer longer]
        exact List.mem_append_right _
          (List.mem_cons_of_mem _ (List.mem_map_of_mem (List.mem_cons_of_mem _ begun)))
      · rw [c.splitOn_text_within within]
        exact List.mem_append_right _ (List.mem_cons_of_mem _ (List.mem_map_of_mem begun))
  | stopped longer _ =>
      rw [c.splitOn_text_longer longer]
      exact List.mem_append_left _ (List.mem_map_of_mem List.mem_concat_self)
  | fresh longer _ =>
      rw [c.splitOn_text_longer longer]
      exact List.mem_append_right _ (List.mem_cons_of_mem _ List.mem_cons_self)
  | across within legible =>
      rw [legible, c.splitOn_text_within within]
      exact List.mem_append_right _ List.mem_cons_self

/-- So can what the capture makes. -/
theorem Forges.shown {line : String} (forged : c.Forges line) :
    line.toList ∈ c.text.toList.splitOn '\n' := by
  cases forged with
  | beginning longer _ =>
      rw [Text.toList_lenientText, c.splitOn_text_longer longer]
      exact List.mem_append_left _ (List.mem_map_of_mem List.mem_concat_self)
  | noted longer =>
      rw [c.splitOn_text_longer longer]
      exact List.mem_append_right _ List.mem_cons_self
  | ending longer _ =>
      rw [Text.toList_lenientText, c.splitOn_text_longer longer]
      exact List.mem_append_right _ (List.mem_cons_of_mem _ List.mem_cons_self)
  | garbled within _ =>
      rw [String.toList_append, Text.toList_lenientText, Text.toList_lenientText,
        c.splitOn_text_within within]
      exact List.mem_append_right _ List.mem_cons_self

/-! ### The last line -/

section LastLine

variable {before line : Bytes} (whole : stream = before ++ line)

include whole

end LastLine

end Capture.Cut

/-- A marker is seen on a line of its own that ends in one of the usual ways, or not at all. -/
theorem hasMarkerLine_of_lastLine {marker output : String} {before ending : List Char}
    (text : output.toList = before ++ (marker.toList ++ ending)) (fresh : AtLineStart '\n' before)
    (ends : ending = [] ∨ ending = ['\n'] ∨ ending = ['\r', '\n']) (nonempty : marker ≠ "")
    (unbroken : '\n' ∉ marker.toList) (solid : Text.trim marker = marker) :
    hasMarkerLine marker output = true := by
  have trimmed : Text.trimChars marker.toList = marker.toList := by
    rw [← String.toList_inj, Text.trim, String.toList_ofList] at solid
    exact solid
  rw [hasMarkerLine_iff nonempty, text]
  rcases ends with rfl | rfl | rfl
  · refine ⟨marker.toList, fresh.mem_splitOn ?_, trimmed⟩
    rw [List.append_nil, List.splitOn_eq_singleton unbroken]
    exact List.mem_singleton_self _
  · refine ⟨marker.toList, fresh.mem_splitOn ?_, trimmed⟩
    rw [List.splitOn_append_cons_self_of_not_mem unbroken]
    exact List.mem_cons_self
  · refine ⟨marker.toList ++ ['\r'], fresh.mem_splitOn ?_, ?_⟩
    · have unbroken : '\n' ∉ marker.toList ++ ['\r'] := by simpa using unbroken
      rw [List.append_cons, List.splitOn_append_cons_self_of_not_mem unbroken]
      exact List.mem_cons_self
    · rw [Text.trimChars_concat (by decide), trimmed]

namespace Sandbox

variable (s : Sandbox) (paths : Runtime.Paths) (p : Finished)

/-- It does not matter in which pieces the output has arrived. -/
theorem stdout_record {pieces : List Bytes} (arrived : pieces.flatten = p.stdout) :
    Capture.ofPieces s.limits.outputBytes pieces = (s.record paths p).stdout := by
  have one : (s.record paths p).stdout = Capture.ofPieces s.limits.outputBytes [p.stdout] := rfl
  rw [one, Capture.ofPieces_eq_text, Capture.ofPieces_eq_text, arrived, List.flatten_singleton]

theorem markerSeen_record : (s.record paths p).markerSeen =
    hasMarkerLine s.limits.marker (Capture.cut s.limits.outputBytes p.stdout).text := by
  simp only [record, Capture.ofPieces_eq_text]
  rw [List.flatten_singleton]

/-- A sandbox that keeps five bytes at each end and waits for a short line. -/
def terse : Sandbox where
  runtime := .python
  limits := { marker := "DONE", outputBytes := 10 }
  root := ⟨"/work"⟩

/-- The record of a program that printed something and ended well. -/
def terseRecord (stdout : Bytes) : Execution :=
  terse.record (terse.pathsIn ["work", "run"]) ⟨.exited 0, stdout, [], .ofMillis 1⟩

/-- **Where a marker that is seen comes from.** A marker is seen exactly if it is a line of the
output that is kept whole, or a line that the capture itself makes: the note, what is left of a line
that is cut where the head ends or the tail begins, or a line with a character that is cut where
they meet. Only the former is a line of the output. -/
theorem markerSeen_iff (nonempty : s.limits.marker ≠ "") :
    (∀ pieces : List Bytes, pieces.flatten = p.stdout →
      Capture.ofPieces s.limits.outputBytes pieces = (s.record paths p).stdout) ∧
    ((s.record paths p).markerSeen = true ↔
      (∃ line, (Capture.cut s.limits.outputBytes p.stdout).Keeps line ∧
        Text.trim (lenientText line) = s.limits.marker) ∨
      ∃ line, (Capture.cut s.limits.outputBytes p.stdout).Forges line ∧
        Text.trim line = s.limits.marker) ∧
    ∀ line, (Capture.cut s.limits.outputBytes p.stdout).Keeps line →
      line ∈ p.stdout.splitOn 0x0A := by
  refine ⟨fun _ => s.stdout_record paths p, ?_, fun _ kept => kept.mem⟩
  have trimmed (line : String) : Text.trim line = s.limits.marker ↔
      Text.trimChars line.toList = s.limits.marker.toList := by
    rw [Text.trim, ← String.toList_inj, String.toList_ofList]
  rw [markerSeen_record, hasMarkerLine_iff nonempty]
  simp only [trimmed, Text.toList_lenientText]
  constructor
  · rintro ⟨line, mem, marks⟩
    rcases Capture.Cut.kept_or_forged _ mem with ⟨kept, keeps, rfl⟩ | ⟨forged, forges, rfl⟩
    · exact .inl ⟨kept, keeps, marks⟩
    · exact .inr ⟨forged, forges, marks⟩
  · rintro (⟨kept, keeps, marks⟩ | ⟨forged, forges, marks⟩)
    · exact ⟨_, keeps.shown, marks⟩
    · exact ⟨_, forges.shown, marks⟩

/-- The marker ends in the head of what is kept. -/
theorem markerSeen_iff_terse : terse.limits.marker ≠ "" ∧
    (terseRecord (bytesOf "DONE\nnoise, noise")).markerSeen = true := by
  have nonempty : terse.limits.marker ≠ "" := by decide
  obtain ⟨-, seen, -⟩ := terse.markerSeen_iff (terse.pathsIn ["work", "run"])
    ⟨.exited 0, bytesOf "DONE\nnoise, noise", [], .ofMillis 1⟩ nonempty
  exact ⟨nonempty, seen.2 (.inl ⟨bytesOf "DONE", .early (by decide), by decide⟩)⟩

/-- A program that says that it is not done is taken to be done, as what it says is cut behind the
first word. -/
theorem forged_done : Text.isBlankText "DONE" = false ∧ '\n' ∉ "DONE".toList ∧
    terse.limits.marker = "DONE" ∧
    (terseRecord (bytesOf "DONE was not reached\n")).markerSeen = true ∧
    ∀ line ∈ (bytesOf "DONE was not reached\n").splitOn 0x0A,
      Text.trim (lenientText line) ≠ "DONE" := by
  decide

end Sandbox

end LabelForge
