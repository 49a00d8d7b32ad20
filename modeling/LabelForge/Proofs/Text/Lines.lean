import LabelForge.Text.Lines
import LabelForge.Proofs.Text.Lenient
import LabelForge.Proofs.Text.Trim
import Mathlib.Logic.Basic

/-!
# LabelForge.Proofs.Text.Lines

**Lines, of texts and of bytes.** A text is split where its line feeds are, and so are bytes; that
it does not matter which of the two is done first is `splitOn_lenient`. Where two lists are put
together, the last line of the first one goes on with the first line of the second one, and all
others stay (`splitOn_append`).

Every line feed of a text ends a line (`lines_feed`), wherever the text stands. A line is trimmed
before it is compared with anything. So the carriage return at its end does not
matter, nor does it whether nothing behind the last line feed counts as a line, unless the empty
line is what is looked for.
-/

namespace LabelForge.Text

theorem splitFeeds_eq_splitOn (cs : List Char) : splitFeeds cs = cs.splitOn '\n' := by
  induction cs with
  | nil => rfl
  | cons c cs ih =>
      rw [splitFeeds, ih, List.splitOn_cons_eq_if_modifyHead]
      split
      · rfl
      · cases split : cs.splitOn '\n' with
        | nil => exact absurd split (List.splitOn_ne_nil '\n' cs)
        | cons => rfl

/-! ### Lists that are put together -/

section Split

variable {α : Type} [BEq α] (x : α)

theorem splitOn_append (a b : List α) : (a ++ b).splitOn x =
    (a.splitOn x).dropLast ++ (b.splitOn x).modifyHead ((a.splitOn x).getLastD [] ++ ·) := by
  induction a with
  | nil =>
      rw [List.nil_append, List.splitOn_nil]
      cases b.splitOn x <;> rfl
  | cons y a ih =>
      obtain ⟨line, lines, split⟩ := List.exists_cons_of_ne_nil (List.splitOn_ne_nil x a)
      rw [List.cons_append, List.splitOn_cons_eq_if_modifyHead, List.splitOn_cons_eq_if_modifyHead,
        ih, split]
      split
      · rfl
      · cases lines with
        | nil => cases b.splitOn x <;> rfl
        | cons => rfl

/-- There is no separator in a line, by induction on what is split. -/
theorem not_mem_of_mem_splitOn [LawfulBEq α] {xs line : List α} (mem : line ∈ xs.splitOn x) :
    x ∉ line := by
  induction xs generalizing line with
  | nil =>
      rw [List.splitOn_nil, List.mem_singleton] at mem
      rw [mem]
      exact List.not_mem_nil
  | cons y xs ih =>
      obtain ⟨first, others, split⟩ := List.exists_cons_of_ne_nil (List.splitOn_ne_nil x xs)
      rw [List.splitOn_cons_eq_if_modifyHead, split] at mem
      rw [split] at ih
      split at mem
      · rcases List.mem_cons.1 mem with rfl | mem
        · exact List.not_mem_nil
        · exact ih mem
      · rename_i other
        rcases List.mem_cons.1 mem with rfl | mem
        · exact List.not_mem_cons_of_ne_of_not_mem (fun same => other (beq_iff_eq.2 same.symm))
            (ih List.mem_cons_self)
        · exact ih (List.mem_cons_of_mem _ mem)

/-- The lines that have ended stay, whatever follows. -/
theorem mem_splitOn_of_mem_dropLast {a line : List α} (ended : line ∈ (a.splitOn x).dropLast)
    (b : List α) : line ∈ (a ++ b).splitOn x := by
  rw [splitOn_append]
  exact List.mem_append_left _ ended

/-- The lines that begin behind a separator stay, whatever stands before. -/
theorem mem_splitOn_of_mem_tail {b line : List α} (begun : line ∈ (b.splitOn x).tail)
    (a : List α) : line ∈ (a ++ b).splitOn x := by
  rw [splitOn_append]
  cases split : b.splitOn x with
  | nil => simp [split] at begun
  | cons first lines =>
      rw [split, List.tail_cons] at begun
      exact List.mem_append_right _ (List.mem_cons_of_mem _ begun)

/-- The line that goes on from one list into the next. -/
theorem mem_splitOn_across (a b : List α) :
    (a.splitOn x).getLastD [] ++ (b.splitOn x).headD [] ∈ (a ++ b).splitOn x := by
  rw [splitOn_append]
  obtain ⟨first, lines, split⟩ := List.exists_cons_of_ne_nil (List.splitOn_ne_nil x b)
  rw [split]
  exact List.mem_append_right _ List.mem_cons_self

/-- A new line begins behind these elements: there are none, or the last one is a separator. -/
def AtLineStart (before : List α) : Prop := before = [] ∨ before.getLast? = some x

variable {x}

/-- The lines that are written from there on are lines of the whole. -/
theorem AtLineStart.mem_splitOn [ReflBEq α] {before rest line : List α}
    (fresh : AtLineStart x before) (mem : line ∈ rest.splitOn x) :
    line ∈ (before ++ rest).splitOn x := by
  rcases fresh with rfl | last
  · exact mem
  · obtain ⟨earlier, rfl⟩ := List.getLast?_eq_some_iff.1 last
    rw [List.append_assoc, List.singleton_append, List.splitOn_append_cons_self]
    exact List.mem_append_right _ mem

omit [BEq α]

/-- It is their own end that counts, unless there are none of them. -/
theorem AtLineStart.append {before rest : List α} (ends : AtLineStart x rest)
    (fresh : rest = [] → AtLineStart x before) : AtLineStart x (before ++ rest) := by
  rcases ends with rfl | last
  · rw [List.append_nil]
    exact fresh rfl
  · rw [AtLineStart, List.getLast?_append, last, Option.some_or]
    exact .inr rfl

end Split

/-- Bytes may be cut where a line begins, and a line of the text begins there. -/
theorem AtLineStart.read {before : Bytes} (fresh : AtLineStart 0x0A before) (rest : Bytes) :
    AtLineStart '\n' (lenient before) ∧
      lenient (before ++ rest) = lenient before ++ lenient rest := by
  rcases fresh with rfl | last
  · exact ⟨.inl rfl, rfl⟩
  · obtain ⟨earlier, rfl⟩ := List.getLast?_eq_some_iff.1 last
    have read : lenient (earlier ++ [0x0A]) = lenient earlier ++ ['\n'] :=
      lenient_append_lineFeed earlier []
    rw [read, List.append_assoc, List.append_assoc, List.singleton_append, List.singleton_append,
      lenient_append_lineFeed]
    exact ⟨.inr List.getLast?_concat, rfl⟩

/-- The lines of bytes are read one by one. -/
theorem splitOn_lenient (bytes : Bytes) :
    (lenient bytes).splitOn '\n' = (bytes.splitOn 0x0A).map lenient := by
  induction size : bytes.length using Nat.strongRecOn generalizing bytes with
  | ind n ih =>
      by_cases feed : 0x0A ∈ bytes
      · obtain ⟨before, rest, rfl⟩ := List.append_of_mem feed
        rw [List.length_append, List.length_cons] at size
        rw [lenient_append_lineFeed, List.splitOn_append_cons_self, List.splitOn_append_cons_self,
          List.map_append, ih _ (by omega) before rfl, ih _ (by omega) rest rfl]
      · have none : '\n' ∉ lenient bytes := fun mem =>
          feed (lineFeed_of_mem_lenientFrom Utf8State.reached_start mem)
        rw [List.splitOn_eq_singleton none, List.splitOn_eq_singleton feed]
        rfl

/-! ### The lines that line feeds end -/

/-- How many line feeds there are in a text. -/
def feeds (s : String) : Nat := s.toList.count '\n'

@[simp] theorem feeds_append (s t : String) : feeds (s ++ t) = feeds s + feeds t := by
  simp only [feeds, String.toList_append, List.count_append]

theorem feeds_eq_zero_iff {s : String} : feeds s = 0 ↔ '\n' ∉ s.toList :=
  List.count_eq_zero

/-- A line feed ends a line, and what is behind it is split as if nothing stood before. -/
theorem linesOfChars_feed (cs ds : List Char) : linesOfChars (cs ++ '\n' :: ds) =
    (cs.splitOn '\n').map dropReturn ++ linesOfChars ds := by
  obtain ⟨ended, last, split⟩ : ∃ ended last, ds.splitOn '\n' = ended ++ [last] :=
    ⟨_, _, (List.dropLast_concat_getLast (List.splitOn_ne_nil '\n' ds)).symm⟩
  simp only [linesOfChars, splitFeeds_eq_splitOn, List.splitOn_append_cons_self, split,
    ← List.append_assoc, List.dropLast_concat, List.getLastD_concat, List.map_append]

theorem toList_feed (s : String) : (s ++ "\n").toList = s.toList ++ ['\n'] := by
  rw [String.toList_append]
  rfl

/-- The lines of a text with a line feed behind it. -/
theorem lines_feed_eq (s : String) :
    lines (s ++ "\n") = ((s.toList.splitOn '\n').map dropReturn).map .ofList := by
  have nothing : linesOfChars [] = [] := rfl
  rw [lines, toList_feed, linesOfChars_feed, nothing, List.append_nil]

theorem lines_feed (s t : String) : lines (s ++ "\n" ++ t) = lines (s ++ "\n") ++ lines t := by
  have both : (s ++ "\n" ++ t).toList = s.toList ++ '\n' :: t.toList := by
    rw [String.toList_append, toList_feed, List.append_assoc, List.singleton_append]
  rw [lines_feed_eq, lines, lines, both, linesOfChars_feed, List.map_append]

theorem length_splitOn {α : Type} [BEq α] (x : α) (xs : List α) :
    (xs.splitOn x).length = xs.count x + 1 := by
  induction xs with
  | nil => rfl
  | cons y xs ih =>
      rw [List.splitOn_cons_eq_if_modifyHead, List.count_cons]
      split
      · rw [List.length_cons, ih]
      · rw [List.length_modifyHead, ih, Nat.add_zero]

/-- The last line feed ends a line, too. -/
theorem length_lines_feed (s : String) : (lines (s ++ "\n")).length = 1 + feeds s := by
  rw [lines_feed_eq, List.length_map, List.length_map, length_splitOn, Nat.add_comm, feeds]

/-- A text without line feeds is the line that is ended behind it. -/
theorem lines_feed_eq_singleton {s : String} (whole : '\n' ∉ s.toList)
    (last : s.toList.getLast? ≠ some '\r') : lines (s ++ "\n") = [s] := by
  have kept : dropReturn s.toList = s.toList := if_neg (mt beq_iff_eq.1 last)
  rw [lines_feed_eq, List.splitOn_eq_singleton whole, List.map_singleton, List.map_singleton, kept,
    String.ofList_toList]

/-- What stands between two line feeds anywhere in a text are lines of the text. -/
theorem lines_isInfix {s t : String} (h : ("\n" ++ s ++ "\n").toList <:+: t.toList) :
    lines (s ++ "\n") <:+: lines t := by
  obtain ⟨before, behind, whole⟩ := h
  have split : t.toList = before ++ '\n' :: (s.toList ++ '\n' :: behind) := by
    rw [← whole, String.toList_append, String.toList_append]
    simp
  rw [lines_feed_eq, lines, split, linesOfChars_feed, linesOfChars_feed]
  exact (List.infix_append' _ _ _).map _

/-! ### Lines that are trimmed -/

theorem trimChars_dropReturn (line : List Char) : trimChars (dropReturn line) = trimChars line := by
  unfold dropReturn
  split
  · rename_i returns
    obtain ⟨cs, rfl⟩ := List.getLast?_eq_some_iff.1 (beq_iff_eq.1 returns)
    rw [List.dropLast_concat, trimChars_concat (by decide)]
  · rfl

/-- Lines that are trimmed are compared with something that is not empty. -/
theorem exists_mem_lines_iff {s marker : String} (nonempty : marker ≠ "") :
    (∃ line ∈ lines s, trim line = marker) ↔
      ∃ line ∈ s.toList.splitOn '\n', trimChars line = marker.toList := by
  have meets (line : List Char) :
      trim (.ofList line) = marker ↔ trimChars line = marker.toList := by
    rw [trim, String.toList_ofList, ← String.toList_inj, String.toList_ofList]
  have nothing : trimChars [] ≠ marker.toList := by
    intro empty
    exact nonempty (String.toList_inj.1 empty.symm)
  obtain ⟨ended, last, split⟩ : ∃ ended last, s.toList.splitOn '\n' = ended ++ [last] :=
    ⟨_, _, (List.dropLast_concat_getLast (List.splitOn_ne_nil '\n' s.toList)).symm⟩
  simp only [lines, linesOfChars, splitFeeds_eq_splitOn, split, List.mem_map,
    exists_exists_and_eq_and, meets, List.dropLast_concat, List.getLastD_concat, List.mem_append,
    or_and_right, exists_or, trimChars_dropReturn, List.mem_singleton, exists_eq_left]
  refine or_congr_right ?_
  cases last with
  | nil => simpa using nothing
  | cons => simp

end LabelForge.Text
