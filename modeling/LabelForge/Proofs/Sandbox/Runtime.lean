import LabelForge.Sandbox.Process
import Mathlib.Data.List.Infix

/-!
# LabelForge.Proofs.Sandbox.Runtime

**Placeholders and paths.** A word of a command line in which no placeholder stands is passed on as
it is (`filled_of_free`). A word that is a placeholder becomes a path, and perhaps another text if
that path has later placeholders in it; but it is absolute in any case, as the directories of runs
are and filling in more paths does not touch a slash.
-/

namespace LabelForge

/-! ### Absolute paths -/

theorem FilePath.isAbsolute_iff {p : FilePath} :
    p.isAbsolute = true ↔ ∃ cs, p.text.toList = '/' :: cs := by
  rw [isAbsolute, beq_iff_eq, List.head?_eq_some_iff]

/-- What is below an absolute path is absolute. -/
theorem FilePath.isAbsolute_child {p : FilePath} (absolute : p.isAbsolute = true) (name : String) :
    (p.child name).isAbsolute = true := by
  obtain ⟨cs, text⟩ := isAbsolute_iff.1 absolute
  have nonempty : p.text.isEmpty = false := by
    rw [Bool.eq_false_iff, ne_eq, String.isEmpty_iff, ← String.toList_inj, text]
    exact List.cons_ne_nil _ _
  rw [child, join, nonempty, Bool.or_false]
  split
  · assumption
  · refine isAbsolute_iff.2 ?_
    split
    · exact ⟨_, by rw [String.toList_append, text, List.cons_append]⟩
    · exact ⟨_, by rw [String.toList_append, String.toList_append, text, List.cons_append,
        List.cons_append]⟩

theorem Location.isAbsolute_path (l : Location) : l.path.isAbsolute = true := by
  cases l with
  | nil => decide
  | cons name l =>
      refine FilePath.isAbsolute_iff.2 ⟨name.shown.toList ++
        (String.join (l.map fun name => "/" ++ name.shown)).toList, ?_⟩
      have below : ¬ (name :: l).isEmpty = true := Bool.false_ne_true
      rw [path, if_neg below, List.map_cons, String.join_cons, String.toList_append,
        String.toList_append]
      rfl

namespace Runtime

/-! ### Words without placeholders -/

/-- The names of the placeholders. -/
def placeholderNames : List String := ["program", "input", "output", "workdir"]

/-- A word in which no placeholder stands. -/
def Free (word : String) : Prop :=
  ∀ name ∈ placeholderNames, ¬ (placeholder name).toList <:+: word.toList

instance (word : String) : Decidable (Free word) :=
  inferInstanceAs (Decidable (∀ name ∈ placeholderNames, _))

/-- A word with the paths of a run in the place of its placeholders. -/
def filled (paths : Paths) (word : String) : String :=
  fill "workdir" paths.workdir (fill "output" paths.output (fill "input" paths.input
    (fill "program" paths.program word)))

theorem render_eq_map (r : Runtime) (paths : Paths) :
    r.render paths = r.command.map (filled paths) := rfl

section Fill

variable {name word : String} (value : FilePath)

/-- By induction on the fuel, which does not matter if there is nothing to replace. -/
theorem replaceChars_of_not_infix {pattern cs : List Char} (absent : ¬ pattern <:+: cs)
    (by_ : List Char) (fuel : Nat) : replaceChars pattern by_ fuel cs = cs := by
  induction fuel generalizing cs with
  | zero => rfl
  | succ fuel ih =>
      cases cs with
      | nil => rfl
      | cons c cs =>
          have here : ¬ pattern.isPrefixOf (c :: cs) = true := fun starts =>
            absent (List.isPrefixOf_iff_prefix.1 starts).isInfix
          have behind : ¬ pattern <:+: cs := fun occurs =>
            absent (occurs.trans (List.suffix_cons c cs).isInfix)
          rw [replaceChars, if_neg here, ih behind]

theorem fill_of_not_infix (absent : ¬ (placeholder name).toList <:+: word.toList) :
    fill name value word = word := by
  rw [fill, replaceChars_of_not_infix absent, String.ofList_toList]

theorem toList_placeholder (name : String) :
    (placeholder name).toList = '\x7b' :: (name.toList ++ ['\x7d']) := by
  rw [placeholder, String.toList_append, String.toList_append]
  rfl

/-- A placeholder becomes the path that it stands for. -/
theorem fill_placeholder (name : String) : fill name value (placeholder name) = value.text := by
  have whole : (placeholder name).toList.isPrefixOf (placeholder name).toList = true :=
    List.isPrefixOf_iff_prefix.2 (List.prefix_refl _)
  rw [fill, ← String.toList_inj, String.toList_ofList]
  rw [toList_placeholder] at whole ⊢
  rw [List.length_cons, replaceChars, if_pos whole, List.drop_length]
  cases (name.toList ++ ['\x7d']).length <;> exact List.append_nil _

/-- A slash is no placeholder, so it stays where it is. -/
theorem isAbsolute_fill (absolute : FilePath.isAbsolute ⟨word⟩ = true) :
    FilePath.isAbsolute ⟨fill name value word⟩ = true := by
  obtain ⟨cs, text⟩ := FilePath.isAbsolute_iff.1 absolute
  simp only at text
  have other : ¬ (placeholder name).toList.isPrefixOf ('/' :: cs) = true := by
    rw [toList_placeholder, List.isPrefixOf_cons_cons]
    exact Bool.false_ne_true
  have begins : (fill name value word).toList = '/' ::
      replaceChars (placeholder name).toList value.text.toList cs.length cs := by
    rw [fill, text, String.toList_ofList, List.length_cons, replaceChars, if_neg other]
  exact FilePath.isAbsolute_iff.2 ⟨_, begins⟩

end Fill

variable (paths : Paths)

theorem filled_of_free {word : String} (free : Free word) : filled paths word = word := by
  have absent {name : String} (mem : name ∈ placeholderNames) (value : FilePath) :
      fill name value word = word := fill_of_not_infix value (free name mem)
  rw [filled, absent (by decide), absent (by decide), absent (by decide), absent (by decide)]

/-- The operands of a run are absolute paths. -/
theorem isAbsolute_filled {word : String} (operand : word ∈ operands)
    (program : paths.program.isAbsolute = true) (input : paths.input.isAbsolute = true)
    (output : paths.output.isAbsolute = true) :
    FilePath.isAbsolute ⟨filled paths word⟩ = true := by
  obtain rfl | rfl | rfl : word = placeholder "program" ∨ word = placeholder "input" ∨
      word = placeholder "output" := by
    simpa only [operands, List.map_cons, List.map_nil, List.mem_cons, List.not_mem_nil,
      or_false] using operand
  -- a path that was filled in is itself searched for the placeholders that come later
  · rw [filled, fill_placeholder]
    exact isAbsolute_fill _ (isAbsolute_fill _ (isAbsolute_fill _ program))
  · rw [filled, fill_of_not_infix paths.program (by decide), fill_placeholder]
    exact isAbsolute_fill _ (isAbsolute_fill _ input)
  · rw [filled, fill_of_not_infix paths.program (by decide),
      fill_of_not_infix paths.input (by decide), fill_placeholder]
    exact isAbsolute_fill _ output

end Runtime

/-- So are those of a sandbox, whatever its directory is called. -/
theorem Sandbox.isAbsolute_operand (s : Sandbox) (directory : Location) {word : String}
    (operand : word ∈ Runtime.operands) :
    FilePath.isAbsolute ⟨Runtime.filled (s.pathsIn directory) word⟩ = true := by
  have below (name : String) : (directory.path.child name).isAbsolute = true :=
    FilePath.isAbsolute_child directory.isAbsolute_path name
  exact Runtime.isAbsolute_filled _ operand (below _) (below _) (below _)

end LabelForge
