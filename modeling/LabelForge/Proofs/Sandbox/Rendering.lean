import LabelForge.Proofs.Sandbox.Placeholder

/-!
# LabelForge.Proofs.Sandbox.Rendering

**A command line is filled in one kind of placeholders after the other.** Rendering makes four
passes over a word, one for each kind, and a later pass also sees the paths that came in before.
This is the same as filling in all placeholders at once where none strays, and with absolute paths
only there.

Design points:

* A pass leaves the placeholders of other kinds as they are, because no two overlap.
* An absolute path has a slash and no placeholder has one. Every stray placeholder that is filled in
  therefore makes too many slashes, and no later pass takes them away again (`Exceeds`).
-/

namespace LabelForge

namespace Runtime

/-! ### One pass -/

/-- The text with one kind of placeholders filled in. -/
def fillChars (paths : Paths) (h : Hole) (cs : List Char) : List Char :=
  replaceChars h.chars (paths.path h).text.toList cs.length cs

/-- How often a placeholder stands in a text. -/
def Hole.count (h : Hole) : List Char → Nat
  | [] => 0
  | c :: cs => (if h.chars <+: c :: cs then 1 else 0) + h.count cs

/-- More fuel than there are characters changes nothing. -/
theorem replaceChars_fuel {pattern : List Char} (nonempty : pattern ≠ []) (by_ : List Char)
    {fuel fuel' : Nat} {cs : List Char} (enough : cs.length ≤ fuel) (enough' : cs.length ≤ fuel') :
    replaceChars pattern by_ fuel cs = replaceChars pattern by_ fuel' cs := by
  induction fuel generalizing fuel' cs with
  | zero =>
      rw [List.eq_nil_of_length_eq_zero (Nat.le_zero.1 enough)]
      cases fuel' <;> rfl
  | succ fuel ih =>
      cases cs with
      | nil => cases fuel' <;> rfl
      | cons c cs =>
          obtain ⟨fuel', rfl⟩ : ∃ n, fuel' = n + 1 := ⟨fuel' - 1, by simp at enough'; omega⟩
          have := List.length_pos_of_ne_nil nonempty
          simp only [List.length_cons] at enough enough'
          have shorter : ((c :: cs).drop pattern.length).length ≤ cs.length := by
            rw [List.length_drop, List.length_cons]
            omega
          rw [replaceChars, replaceChars, @ih fuel' cs (by omega) (by omega),
            @ih fuel' ((c :: cs).drop pattern.length) (by omega) (by omega)]

section Pass

variable (paths : Paths) (h : Hole)

@[simp] theorem fillChars_nil : fillChars paths h [] = [] := rfl

theorem fillChars_hole (cs : List Char) :
    fillChars paths h (h.chars ++ cs) = (paths.path h).text.toList ++ fillChars paths h cs := by
  have begins : h.chars.isPrefixOf (h.chars ++ cs) = true := by simp
  have rest : (h.chars ++ cs).drop h.chars.length = cs := List.drop_left
  have length : (h.chars ++ cs).length = h.chars.length + cs.length := List.length_append
  have nonempty := List.length_pos_of_ne_nil h.chars_ne_nil
  obtain ⟨c, tail, cons⟩ : ∃ c tail, h.chars ++ cs = c :: tail :=
    List.exists_cons_of_ne_nil (by simp [h.chars_ne_nil])
  rw [cons] at begins rest length ⊢
  rw [fillChars, List.length_cons, replaceChars, if_pos begins, rest]
  rw [List.length_cons] at length
  exact congrArg _ (replaceChars_fuel h.chars_ne_nil _ (by omega) (Nat.le_refl _))

theorem fillChars_cons {c : Char} {cs : List Char} (other : ¬ h.chars <+: c :: cs) :
    fillChars paths h (c :: cs) = c :: fillChars paths h cs := by
  rw [fillChars, List.length_cons, replaceChars, if_neg (by simpa using other)]
  rfl

/-- Characters in which no placeholder of the kind begins are kept. -/
theorem fillChars_append {front cs : List Char}
    (absent : ∀ before behind, front ++ cs = before ++ (h.chars ++ behind) →
      front.length ≤ before.length) :
    fillChars paths h (front ++ cs) = front ++ fillChars paths h cs := by
  induction front with
  | nil => rfl
  | cons c front ih =>
      have here : ¬ h.chars <+: c :: (front ++ cs) := by
        rintro ⟨behind, begins⟩
        have := absent [] behind begins.symm
        simp at this
      rw [List.cons_append, fillChars_cons paths h here, ih]
      · rfl
      · intro before behind stands
        have := absent (c :: before) behind (congrArg (c :: ·) stands)
        simpa using this

/-- What a pass finds, from left to right. -/
theorem fillChars_induction {motive : List Char → Prop} (nil : motive [])
    (hole : ∀ cs, motive cs → motive (h.chars ++ cs))
    (plain : ∀ c cs, ¬ h.chars <+: c :: cs → motive cs → motive (c :: cs)) (cs : List Char) :
    motive cs := by
  induction cs using scan_induction [h] with
  | nil => exact nil
  | hole q mem cs ih => exact List.mem_singleton.1 mem ▸ hole cs ih
  | plain c cs other ih => exact plain c cs (other h (List.mem_singleton.2 rfl)) ih

end Pass

/-! ### What a pass makes of a text -/

namespace Hole

variable {h q : Hole}

theorem count_le_append (h : Hole) (front cs : List Char) :
    h.count cs ≤ h.count (front ++ cs) := by
  induction front with
  | nil => exact Nat.le_refl _
  | cons c front ih =>
      rw [List.cons_append, count]
      omega

/-- A placeholder that begins in the first part of a text counts beside those of the rest. -/
theorem count_lt_append {front cs before behind : List Char}
    (stands : front ++ cs = before ++ (h.chars ++ behind)) (inside : before.length < front.length) :
    h.count cs < h.count (front ++ cs) := by
  induction before generalizing front with
  | nil =>
      obtain ⟨c, front, rfl⟩ := List.exists_cons_of_length_pos inside
      have begins : h.chars <+: c :: (front ++ cs) := by
        rw [← List.cons_append, stands]
        exact List.prefix_append _ _
      have := h.count_le_append front cs
      rw [List.cons_append, count, if_pos begins]
      omega
  | cons b before ih =>
      obtain ⟨c, front, rfl⟩ := List.exists_cons_of_length_pos (Nat.zero_lt_of_lt inside)
      have later := ih (List.cons.inj stands).2 (Nat.lt_of_succ_lt_succ inside)
      rw [List.cons_append, count]
      omega

/-- A placeholder holds no other one and ends where it ends. -/
theorem count_chars_append (h q : Hole) (cs : List Char) :
    h.count (q.chars ++ cs) = (if q = h then 1 else 0) + h.count cs := by
  have skipped (front : List Char) (free : '\x7b' ∉ front) :
      h.count (front ++ cs) = h.count cs := by
    induction front with
    | nil => rfl
    | cons c front ih =>
        obtain ⟨other, free⟩ := not_or.1 (List.mem_cons.not.1 free)
        have differs : ¬ h.chars <+: c :: (front ++ cs) := by
          rw [chars_eq, List.cons_prefix_cons]
          exact fun both => other both.1
        rw [List.cons_append, count, if_neg differs, ih free, Nat.zero_add]
  have begins : h.chars <+: q.chars ++ cs ↔ q = h :=
    ⟨fun begins => eq_of_both_begin (List.prefix_append _ _) begins,
      fun same => same ▸ List.prefix_append _ _⟩
  obtain ⟨c, tail, cons⟩ := List.exists_cons_of_ne_nil q.chars_ne_nil
  have rest := skipped q.chars.tail q.brace_not_mem_tail
  rw [cons, List.cons_append] at begins
  rw [cons, List.tail_cons] at rest
  rw [cons, List.cons_append, count, rest]
  simp only [begins]

end Hole

section Pass

variable {paths : Paths} {h q : Hole}

/-- A pass adds the slashes of the path for every placeholder that it finds. -/
theorem slashes_fillChars (paths : Paths) (h : Hole) (cs : List Char) :
    (fillChars paths h cs).count '/' =
      cs.count '/' + h.count cs * (paths.path h).text.toList.count '/' := by
  induction cs using fillChars_induction h with
  | nil => simp [Hole.count]
  | hole cs ih =>
      have none : h.chars.count '/' = 0 := List.count_eq_zero.2 h.slash_not_mem
      rw [fillChars_hole, List.count_append, ih, List.count_append, none, Hole.count_chars_append,
        if_pos rfl, Nat.add_mul]
      omega
  | plain c cs other ih =>
      rw [fillChars_cons paths h other, List.count_cons, ih, List.count_cons, Hole.count,
        if_neg other, Nat.zero_add]
      omega

/-- Characters without a brace are not touched by a pass. -/
theorem prefix_fillChars {front cs : List Char} (free : '\x7b' ∉ front) (begins : front <+: cs) :
    front <+: fillChars paths h cs := by
  obtain ⟨rest, rfl⟩ := begins
  rw [fillChars_append]
  · exact List.prefix_append _ _
  · intro before behind stands
    by_contra inside
    exact free (Hole.brace_mem_of_inside stands (Nat.not_le.1 inside))

/-- A pass leaves the placeholders of other kinds where they are. -/
theorem count_le_fillChars (other : q ≠ h) (cs : List Char) :
    q.count cs ≤ q.count (fillChars paths h cs) := by
  induction cs using fillChars_induction h with
  | nil => exact Nat.le_refl _
  | hole cs ih =>
      rw [fillChars_hole, Hole.count_chars_append, if_neg (Ne.symm other), Nat.zero_add]
      exact ih.trans (q.count_le_append _ _)
  | plain c cs none ih =>
      have kept (begins : q.chars <+: c :: cs) : q.chars <+: c :: fillChars paths h cs := by
        have free := q.brace_not_mem_tail
        rw [Hole.chars_eq, List.tail_cons] at free
        rw [Hole.chars_eq, List.cons_prefix_cons] at begins ⊢
        exact ⟨begins.1, prefix_fillChars free begins.2⟩
      rw [fillChars_cons paths h none, Hole.count, Hole.count]
      by_cases begins : q.chars <+: c :: cs
      · rw [if_pos begins, if_pos (kept begins)]
        omega
      · rw [if_neg begins]
        omega

end Pass

/-! ### One pass over the pieces of a word -/

section Pieces

variable {paths : Paths} {passed : List Hole} {h : Hole} {ps : List Piece}

/-- A pass fills in the pieces of its kind, unless a placeholder of the kind strays. -/
theorem fillChars_spell (fresh : h ∉ passed) (none : ¬ StraysIn paths passed h ps) :
    fillChars paths h (spell paths passed ps) = spell paths (passed ++ [h]) ps := by
  induction ps with
  | nil => rfl
  | cons p ps ih =>
      have rest := ih fun strays => none (strays.tail fresh)
      rw [spell_cons, spell_cons]
      by_cases own : p = .hole h
      · subst own
        rw [Piece.chars_of_fresh fresh, fillChars_hole, rest, Piece.chars_concat_self]
      · rw [fillChars_append, rest, Piece.chars_concat own]
        intro before behind stands
        by_contra inside
        exact none (.here own stands (Nat.not_le.1 inside))

/-- A piece of the kind counts. -/
theorem count_spell_cons (paths : Paths) (fresh : h ∉ passed) (p : Piece) (ps : List Piece) :
    (if p = .hole h then 1 else 0) + h.count (spell paths passed ps) ≤
      h.count (spell paths passed (p :: ps)) := by
  rw [spell_cons]
  split
  case isTrue own =>
    rw [own, Piece.chars_of_fresh fresh, Hole.count_chars_append, if_pos rfl]
  case isFalse =>
    rw [Nat.zero_add]
    exact h.count_le_append _ _

/-- All pieces of a kind are found. -/
theorem count_pieces_le (paths : Paths) (fresh : h ∉ passed) (ps : List Piece) :
    ps.count (.hole h) ≤ h.count (spell paths passed ps) := by
  induction ps with
  | nil => exact Nat.le_refl _
  | cons p ps ih =>
      have counts := count_spell_cons paths fresh p ps
      rw [List.count_cons]
      simp only [beq_iff_eq]
      omega

/-- A stray placeholder is found besides the pieces of its kind. -/
theorem StraysIn.count_lt (fresh : h ∉ passed) (strays : StraysIn paths passed h ps) :
    ps.count (.hole h) < h.count (spell paths passed ps) := by
  induction ps with
  | nil => exact absurd strays not_straysIn_nil
  | cons p ps ih =>
      rw [List.count_cons]
      simp only [beq_iff_eq]
      obtain ⟨other, before, behind, stands, inside⟩ | tail := strays.here_or_tail fresh
      · have pieces := count_pieces_le paths fresh ps
        rw [spell_cons] at stands ⊢
        have more := Hole.count_lt_append stands inside
        rw [if_neg other]
        omega
      · have later := ih tail
        have counts := count_spell_cons paths fresh p ps
        omega

/-- The slashes of pieces when one more kind is filled in. -/
theorem slashes_spell_concat (fresh : h ∉ passed) (ps : List Piece) :
    (spell paths (passed ++ [h]) ps).count '/' = (spell paths passed ps).count '/' +
      ps.count (.hole h) * (paths.path h).text.toList.count '/' := by
  induction ps with
  | nil => simp
  | cons p ps ih =>
      rw [spell_cons, spell_cons, List.count_append, List.count_append, ih, List.count_cons]
      simp only [beq_iff_eq]
      by_cases own : p = .hole h
      · have none : h.chars.count '/' = 0 := List.count_eq_zero.2 h.slash_not_mem
        rw [if_pos own, own, Piece.chars_concat_self, Piece.chars_of_fresh fresh, none, Nat.add_mul]
        omega
      · rw [if_neg own, Piece.chars_concat own, Nat.add_zero]
        omega

end Pieces

/-! ### All passes -/

/-- The text after passes for some kinds, in this order. -/
def fillAll (paths : Paths) (kinds : List Hole) (cs : List Char) : List Char :=
  kinds.foldl (fun cs h => fillChars paths h cs) cs

theorem filled_eq_fillAll (paths : Paths) (word : String) :
    filled paths word = .ofList (fillAll paths Hole.all word.toList) := by
  simp [filled, fill, fillAll, fillChars, Hole.all, Hole.chars, Hole.name, Paths.path]

/-- Whether no placeholder strays by the time of its pass, in passes for some kinds after those for
others. -/
def Undisturbed (paths : Paths) (ps : List Piece) : List Hole → List Hole → Prop
  | _, [] => True
  | passed, h :: kinds => ¬ StraysIn paths passed h ps ∧ Undisturbed paths ps (passed ++ [h]) kinds

/-- A text with more slashes than the pieces come to, in which all pieces that are still to be
filled in are there. -/
structure Exceeds (paths : Paths) (ps : List Piece) (passed kinds : List Hole) (cs : List Char) :
    Prop where
  slashes : (spell paths passed ps).count '/' < cs.count '/'
  pieces : ∀ h ∈ kinds, ps.count (.hole h) ≤ h.count cs

section Passes

variable {paths : Paths} {ps : List Piece} {passed kinds : List Hole} {h : Hole} {cs : List Char}

theorem fresh_of_distinct (distinct : (passed ++ h :: kinds).Nodup) : h ∉ passed :=
  fun early => (List.nodup_append.1 distinct).2.2 h early h (List.mem_cons_self ..) rfl

theorem later_of_distinct (distinct : (passed ++ h :: kinds).Nodup) : h ∉ kinds :=
  (List.nodup_cons.1 (List.nodup_append.1 distinct).2.1).1

/-- If nothing strays, the passes fill in the pieces. -/
theorem fillAll_spell (distinct : (passed ++ kinds).Nodup)
    (undisturbed : Undisturbed paths ps passed kinds) :
    fillAll paths kinds (spell paths passed ps) = spell paths (passed ++ kinds) ps := by
  induction kinds generalizing passed with
  | nil => rw [List.append_nil]; rfl
  | cons h kinds ih =>
      have fresh : h ∉ passed := fresh_of_distinct distinct
      rw [List.append_cons] at distinct ⊢
      rw [fillAll, List.foldl_cons, fillChars_spell fresh undisturbed.1]
      exact ih distinct undisturbed.2

/-- A pass keeps a text with too many slashes so. -/
theorem Exceeds.fillChars (distinct : (passed ++ h :: kinds).Nodup)
    (exceeds : Exceeds paths ps passed (h :: kinds) cs) :
    Exceeds paths ps (passed ++ [h]) kinds (fillChars paths h cs) where
  slashes := by
    have fresh : h ∉ passed := fresh_of_distinct distinct
    have found := Nat.mul_le_mul_right ((paths.path h).text.toList.count '/')
      (exceeds.pieces h (List.mem_cons_self ..))
    have more := exceeds.slashes
    rw [slashes_spell_concat fresh, slashes_fillChars]
    omega
  pieces q mem := by
    have other : q ≠ h := by
      rintro rfl
      exact later_of_distinct distinct mem
    exact (exceeds.pieces q (List.mem_cons_of_mem _ mem)).trans (count_le_fillChars other cs)

theorem Exceeds.fillAll (distinct : (passed ++ kinds).Nodup)
    (exceeds : Exceeds paths ps passed kinds cs) :
    (spell paths (passed ++ kinds) ps).count '/' < (fillAll paths kinds cs).count '/' := by
  induction kinds generalizing passed cs with
  | nil => simpa [Runtime.fillAll] using exceeds.slashes
  | cons h kinds ih =>
      have next := exceeds.fillChars distinct
      rw [List.append_cons] at distinct ⊢
      exact ih distinct next

/-- The pass that fills in a stray placeholder makes too many slashes. -/
theorem StraysIn.exceeds (absolute : paths.Absolute) (distinct : (passed ++ h :: kinds).Nodup)
    (strays : StraysIn paths passed h ps) :
    Exceeds paths ps (passed ++ [h]) kinds (Runtime.fillChars paths h (spell paths passed ps)) where
  slashes := by
    have fresh : h ∉ passed := fresh_of_distinct distinct
    have slash : 0 < (paths.path h).text.toList.count '/' := by
      obtain ⟨cs, text⟩ := FilePath.isAbsolute_iff.1 (absolute h)
      rw [text, List.count_cons_self]
      exact Nat.succ_pos _
    have more := Nat.mul_lt_mul_of_pos_right (strays.count_lt fresh) slash
    rw [slashes_spell_concat fresh, slashes_fillChars]
    omega
  pieces q mem := by
    have other : q ≠ h := by
      rintro rfl
      exact later_of_distinct distinct mem
    have fresh : q ∉ passed := fun early =>
      (List.nodup_append.1 distinct).2.2 q early q (List.mem_cons_of_mem _ mem) rfl
    exact (count_pieces_le paths fresh ps).trans (count_le_fillChars other _)

/-- If absolute paths come where the pieces have placeholders, and nowhere else, then nothing
strays. -/
theorem undisturbed_of_fillAll (absolute : paths.Absolute) (distinct : (passed ++ kinds).Nodup)
    (same : Runtime.fillAll paths kinds (spell paths passed ps) =
      spell paths (passed ++ kinds) ps) : Undisturbed paths ps passed kinds := by
  induction kinds generalizing passed with
  | nil => exact trivial
  | cons h kinds ih =>
      have fresh : h ∉ passed := fresh_of_distinct distinct
      have none : ¬ StraysIn paths passed h ps := by
        intro strays
        have exceeds := strays.exceeds absolute distinct
        rw [List.append_cons] at distinct same
        have more := exceeds.fillAll distinct
        rw [← same] at more
        exact Nat.lt_irrefl _ more
      rw [List.append_cons] at distinct same
      rw [Runtime.fillAll, List.foldl_cons, fillChars_spell fresh none] at same
      exact ⟨none, ih distinct same⟩

end Passes

/-! ### The command line -/

theorem undisturbed_iff {paths : Paths} {word : String} :
    Undisturbed paths (pieces word) [] Hole.all ↔ ∀ h, h ≠ .program → ¬ Strays paths word h := by
  constructor
  · rintro ⟨-, input, output, workdir, -⟩ h later
    cases h with
    | program => exact absurd rfl later
    | input => exact input
    | output => exact output
    | workdir => exact workdir
  · intro none
    exact ⟨not_straysIn_pieces word, none .input (by decide), none .output (by decide),
      none .workdir (by decide), trivial⟩

/-- A word is filled in as if at once if no placeholder strays, and with absolute paths only
then. -/
theorem filled_eq_simultaneous (paths : Paths) (word : String) :
    ((∀ h, h ≠ .program → ¬ Strays paths word h) →
      filled paths word = simultaneous paths word) ∧
    (paths.Absolute → filled paths word = simultaneous paths word →
      ∀ h, h ≠ .program → ¬ Strays paths word h) := by
  have distinct : ([] ++ Hole.all).Nodup := by decide
  rw [filled_eq_fillAll, simultaneous, String.ofList_inj, ← spell_pieces paths word,
    ← undisturbed_iff]
  exact ⟨fillAll_spell distinct, fun absolute same => undisturbed_of_fillAll absolute distinct same⟩

/-- The words of a command line are filled in as if at once if no placeholder strays in them, and
with absolute paths only then. -/
theorem render_simultaneous (r : Runtime) (paths : Paths) :
    ((∀ word ∈ r.command, ∀ h, h ≠ .program → ¬ Strays paths word h) →
      r.render paths = r.command.map (simultaneous paths)) ∧
    (paths.Absolute → r.render paths = r.command.map (simultaneous paths) →
      ∀ word ∈ r.command, ∀ h, h ≠ .program → ¬ Strays paths word h) := by
  rw [render_eq_map, List.map_inj_left]
  constructor
  · intro none word mem
    exact (filled_eq_simultaneous paths word).1 (none word mem)
  · intro absolute same word mem
    exact (filled_eq_simultaneous paths word).2 absolute (same word mem)

/-- The runtime of a command line whose words have placeholders between braces. -/
def nestedRuntime : Runtime :=
  ⟨["/bin/sh", "\x7bin" ++ placeholder "program" ++ "put\x7d",
    placeholder "output" ++ placeholder "workdir"], "candidate.sh", []⟩

/-- The paths of a run in `/work`. -/
def plainPaths : Paths :=
  ⟨⟨"/work/candidate.sh"⟩, ⟨"/work/input.csv"⟩, ⟨"/work/output.csv"⟩, ⟨"/work"⟩⟩

theorem render_simultaneous_nested :
    plainPaths.Absolute ∧
      (∀ word ∈ nestedRuntime.command, ∀ h, h ≠ .program → ¬ Strays plainPaths word h) ∧
      nestedRuntime.render plainPaths = nestedRuntime.command.map (simultaneous plainPaths) := by
  have absolute : plainPaths.Absolute := by
    intro h
    cases h <;> decide
  have braceless : ∀ h, '\x7b' ∉ (plainPaths.path h).text.toList := by
    intro h
    cases h <;> decide
  obtain ⟨at_once, only⟩ := nestedRuntime.render_simultaneous plainPaths
  have same := at_once fun word _ h _ => not_strays_of_braceless absolute braceless word h
  exact ⟨absolute, only absolute same, same⟩

end Runtime

/-- The paths of a run are absolute. -/
theorem Sandbox.absolute_pathsIn (s : Sandbox) (directory : Location) :
    (s.pathsIn directory).Absolute := by
  have root := directory.isAbsolute_path
  intro h
  cases h with
  | workdir => exact root
  | _ => exact FilePath.isAbsolute_child root _

/-- A sandbox whose program file has the name of a placeholder. -/
def bracedSandbox : Sandbox where
  runtime := ⟨["/bin/sh", Runtime.placeholder "program"], Runtime.placeholder "input" ++ ".sh", []⟩
  limits := {}
  root := ⟨"/"⟩

/-- The path of the input gets into the name of the program, of which no file is there then. -/
theorem refilled_program :
    (bracedSandbox.pathsIn ["work"]).Absolute ∧
      bracedSandbox.runtime.render (bracedSandbox.pathsIn ["work"]) =
        ["/bin/sh", "/work//work/input.csv.sh"] ∧
      bracedSandbox.runtime.command.map (Runtime.simultaneous (bracedSandbox.pathsIn ["work"])) =
        ["/bin/sh", "/work/\x7binput\x7d.sh"] := by
  refine ⟨bracedSandbox.absolute_pathsIn _, ?_, ?_⟩
  · decide
  · decide

end LabelForge
