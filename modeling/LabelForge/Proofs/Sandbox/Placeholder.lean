import LabelForge.Proofs.Sandbox.Runtime

/-!
# LabelForge.Proofs.Sandbox.Placeholder

**Placeholders that no command line has.** `pieces` reads a word once from left to right, and
`simultaneous` puts a path in the place of every placeholder among its pieces. When one kind of
placeholders has been filled in, the text of a path may give rise to a placeholder of another kind:
it *strays* if it stands where the word has none, in the path or across its border.

Design points:

* No two placeholders overlap, so a placeholder strays inside one piece of the word, which is of
  another kind, or in the pieces behind that one (`StraysIn.here_or_tail`).
* The word itself has no stray placeholder, and absolute paths without braces bring none along.
-/

namespace LabelForge.Runtime

/-! ### Reading a word once -/

/-- The kinds of placeholders. -/
inductive Hole where
  | program
  | input
  | output
  | workdir
  deriving DecidableEq, Repr

namespace Hole

/-- The kinds in the order in which they are filled in. -/
def all : List Hole := [.program, .input, .output, .workdir]

def name : Hole → String
  | .program => "program"
  | .input => "input"
  | .output => "output"
  | .workdir => "workdir"

/-- The placeholder itself. -/
def chars (h : Hole) : List Char :=
  (placeholder h.name).toList

/-- The kinds that are filled in before. -/
def earlier (h : Hole) : List Hole :=
  all.takeWhile (· != h)

theorem mem_all (h : Hole) : h ∈ all := by
  cases h <;> decide

theorem not_mem_earlier (h : Hole) : h ∉ h.earlier := by
  cases h <;> decide

end Hole

/-- The path that a placeholder stands for. -/
def Paths.path (paths : Paths) : Hole → FilePath
  | .program => paths.program
  | .input => paths.input
  | .output => paths.output
  | .workdir => paths.workdir

/-- Paths that do not depend on the directory of a process. -/
def Paths.Absolute (paths : Paths) : Prop :=
  ∀ h, (paths.path h).isAbsolute = true

/-- A piece of a word. -/
inductive Piece where
  | plain (c : Char)
  | hole (h : Hole)
  deriving DecidableEq, Repr

/-- The placeholder that some characters begin with. -/
def hole? (cs : List Char) : Option Hole :=
  Hole.all.find? fun h => h.chars.isPrefixOf cs

/-- The pieces of some characters from left to right, of which the first ones may belong to a
placeholder that was read before. -/
def piecesFrom : Nat → List Char → List Piece
  | _, [] => []
  | covered + 1, _ :: cs => piecesFrom covered cs
  | 0, c :: cs =>
    match hole? (c :: cs) with
    | some h => .hole h :: piecesFrom (h.chars.length - 1) cs
    | none => .plain c :: piecesFrom 0 cs

/-- The pieces of a word. -/
def pieces (word : String) : List Piece :=
  piecesFrom 0 word.toList

/-- The text of a piece when some kinds of placeholders are filled in. -/
def Piece.chars (paths : Paths) (passed : List Hole) : Piece → List Char
  | .plain c => [c]
  | .hole h => if h ∈ passed then (paths.path h).text.toList else h.chars

/-- The text of pieces when some kinds of placeholders are filled in. -/
def spell (paths : Paths) (passed : List Hole) (ps : List Piece) : List Char :=
  ps.flatMap (Piece.chars paths passed)

/-- A word with the paths in the place of all its placeholders at once. -/
def simultaneous (paths : Paths) (word : String) : String :=
  .ofList (spell paths Hole.all (pieces word))

/-- Whether a placeholder stands in the text of pieces where no piece is this placeholder. -/
def StraysIn (paths : Paths) (passed : List Hole) (h : Hole) (ps : List Piece) : Prop :=
  ∃ before behind, spell paths passed ps = before ++ (h.chars ++ behind) ∧
    ∀ qs rs, ps = qs ++ .hole h :: rs → spell paths passed qs ≠ before

/-- Whether a placeholder stands where a word has none, by the time its kind is filled in. -/
def Strays (paths : Paths) (word : String) (h : Hole) : Prop :=
  StraysIn paths h.earlier h (pieces word)

/-! ### Placeholders do not overlap -/

namespace Hole

theorem chars_eq (h : Hole) : h.chars = '\x7b' :: (h.name.toList ++ ['\x7d']) :=
  toList_placeholder h.name

theorem chars_ne_nil (h : Hole) : h.chars ≠ [] := by
  rw [chars_eq]
  exact List.cons_ne_nil _ _

theorem brace_not_mem_tail (h : Hole) : '\x7b' ∉ h.chars.tail := by
  cases h <;> decide

theorem slash_not_mem (h : Hole) : '/' ∉ h.chars := by
  cases h <;> decide

/-- No placeholder begins with another one. -/
theorem eq_of_begins {q h : Hole} (begins : q.chars <+: h.chars) : q = h := by
  cases q <;> cases h <;> first | rfl | exact absurd begins (by decide)

/-- Characters begin with one placeholder at most. -/
theorem eq_of_both_begin {q h : Hole} {cs : List Char} (hq : q.chars <+: cs) (hh : h.chars <+: cs) :
    q = h := by
  rcases List.prefix_or_prefix_of_prefix hq hh with begins | begins
  · exact eq_of_begins begins
  · exact (eq_of_begins begins).symm

/-- What stands in a text that begins with a placeholder is this placeholder or stands behind it. -/
theorem at_start_or_behind {q h : Hole} {rest before behind : List Char}
    (same : q.chars ++ rest = before ++ (h.chars ++ behind)) :
    before = [] ∧ q = h ∨ ∃ more, before = q.chars ++ more := by
  rcases List.append_eq_append_iff.1 same with ⟨more, rfl, -⟩ | ⟨more, split, tail⟩
  · exact .inr ⟨more, rfl⟩
  · cases before with
    | nil =>
        have begins : h.chars <+: q.chars ++ rest := ⟨behind, same.symm⟩
        exact .inl ⟨rfl, eq_of_both_begin (List.prefix_append _ _) begins⟩
    | cons b before =>
        cases more with
        | nil => exact .inr ⟨[], by rw [split, List.append_nil, List.append_nil]⟩
        | cons c more =>
            -- the placeholder would begin behind the brace of the first one
            have brace : c = '\x7b' := by
              rw [chars_eq, List.cons_append, List.cons_append] at tail
              exact (List.cons.inj tail).1.symm
            refine absurd ?_ q.brace_not_mem_tail
            rw [split, List.cons_append, List.tail_cons, brace]
            exact List.mem_append_right _ (List.mem_cons_self ..)

/-- Characters in which a placeholder begins have a brace among them. -/
theorem brace_mem_of_inside {h : Hole} {front rest before behind : List Char}
    (stands : front ++ rest = before ++ (h.chars ++ behind))
    (inside : before.length < front.length) : '\x7b' ∈ front := by
  have brace : (front ++ rest)[before.length]? = some '\x7b' := by
    rw [stands, List.getElem?_append_right (Nat.le_refl _), Nat.sub_self, chars_eq]
    rfl
  rw [List.getElem?_append_left inside] at brace
  exact List.mem_of_getElem? brace

end Hole

/-- A text is read from left to right: it begins with a placeholder of some kinds, or with a
character that is none of their beginnings. -/
theorem scan_induction (kinds : List Hole) {motive : List Char → Prop} (nil : motive [])
    (hole : ∀ h ∈ kinds, ∀ cs, motive cs → motive (h.chars ++ cs))
    (plain : ∀ c cs, (∀ h ∈ kinds, ¬ h.chars <+: c :: cs) → motive cs → motive (c :: cs))
    (cs : List Char) : motive cs := by
  induction size : cs.length using Nat.strongRecOn generalizing cs with
  | ind n ih =>
      by_cases starts : ∃ h ∈ kinds, h.chars <+: cs
      · obtain ⟨h, mem, rest, rfl⟩ := starts
        refine hole h mem rest (ih rest.length ?_ rest rfl)
        have := List.length_pos_of_ne_nil h.chars_ne_nil
        rw [List.length_append] at size
        omega
      · cases cs with
        | nil => exact nil
        | cons c cs =>
            refine plain c cs (fun h mem begins => starts ⟨h, mem, begins⟩) (ih cs.length ?_ cs rfl)
            rw [List.length_cons] at size
            omega

/-! ### The pieces of a word -/

theorem hole?_of_prefix {h : Hole} {cs : List Char} (begins : h.chars <+: cs) :
    hole? cs = some h := by
  cases found : hole? cs with
  | none =>
      have absent := List.find?_eq_none.1 found h h.mem_all
      exact absurd (List.isPrefixOf_iff_prefix.2 begins) absent
  | some q =>
      have starts := List.find?_some found
      rw [Hole.eq_of_both_begin (List.isPrefixOf_iff_prefix.1 starts) begins]

theorem piecesFrom_covered (n : Nat) (cs : List Char) :
    piecesFrom n cs = piecesFrom 0 (cs.drop n) := by
  induction n generalizing cs with
  | zero => rfl
  | succ n ih =>
      cases cs with
      | nil => rfl
      | cons c cs => exact ih cs

theorem piecesFrom_hole (h : Hole) (cs : List Char) :
    piecesFrom 0 (h.chars ++ cs) = .hole h :: piecesFrom 0 cs := by
  have found : hole? (h.chars ++ cs) = some h := hole?_of_prefix (List.prefix_append _ _)
  obtain ⟨c, tail, chars⟩ := List.exists_cons_of_ne_nil h.chars_ne_nil
  rw [chars, List.cons_append] at found ⊢
  rw [piecesFrom, found]
  simp [piecesFrom_covered, chars]

theorem piecesFrom_plain {c : Char} {cs : List Char} (other : ∀ h : Hole, ¬ h.chars <+: c :: cs) :
    piecesFrom 0 (c :: cs) = .plain c :: piecesFrom 0 cs := by
  have none : hole? (c :: cs) = none := by
    refine List.find?_eq_none.2 fun h _ => ?_
    simpa using other h
  rw [piecesFrom, none]

section Spell

variable {paths : Paths} {passed : List Hole} {h : Hole} {p : Piece} {ps : List Piece}

@[simp] theorem spell_nil : spell paths passed [] = [] := rfl

theorem spell_cons : spell paths passed (p :: ps) = p.chars paths passed ++ spell paths passed ps :=
  rfl

theorem Piece.chars_of_fresh (fresh : h ∉ passed) : (Piece.hole h).chars paths passed = h.chars :=
  if_neg fresh

/-- Only the pieces of one kind change when this kind is filled in, too. -/
theorem Piece.chars_concat (other : p ≠ .hole h) :
    p.chars paths (passed ++ [h]) = p.chars paths passed := by
  cases p with
  | plain c => rfl
  | hole q =>
      have ne : q ≠ h := fun same => other (same ▸ rfl)
      simp [Piece.chars, ne]

theorem Piece.chars_concat_self : (Piece.hole h).chars paths (passed ++ [h]) =
    (paths.path h).text.toList := by
  simp [Piece.chars]

/-- With nothing filled in, pieces are the word that they are pieces of. -/
theorem spell_pieces (paths : Paths) (word : String) :
    spell paths [] (pieces word) = word.toList := by
  rw [pieces]
  induction word.toList using scan_induction Hole.all with
  | nil => rfl
  | hole h _ cs ih => rw [piecesFrom_hole, spell_cons, ih, Piece.chars_of_fresh List.not_mem_nil]
  | plain c cs other ih =>
      rw [piecesFrom_plain fun h => other h h.mem_all, spell_cons, ih]
      rfl

/-! ### Stray placeholders -/

/-- A placeholder that begins inside a piece of another kind strays. -/
theorem StraysIn.here {before behind : List Char} (other : p ≠ .hole h)
    (stands : spell paths passed (p :: ps) = before ++ (h.chars ++ behind))
    (inside : before.length < (p.chars paths passed).length) :
    StraysIn paths passed h (p :: ps) := by
  refine ⟨before, behind, stands, fun qs rs split same => ?_⟩
  cases qs with
  | nil => exact other (List.cons.inj split).1
  | cons q qs =>
      rw [← (List.cons.inj split).1] at same
      have length := congrArg List.length same
      rw [spell_cons, List.length_append] at length
      omega

/-- A placeholder that strays in the pieces behind the first one strays in all of them. -/
theorem StraysIn.tail (fresh : h ∉ passed) (strays : StraysIn paths passed h ps) :
    StraysIn paths passed h (p :: ps) := by
  obtain ⟨before, behind, stands, unowned⟩ := strays
  refine ⟨p.chars paths passed ++ before, behind, ?_, fun qs rs split same => ?_⟩
  · rw [spell_cons, stands, List.append_assoc]
  · cases qs with
    | nil =>
        -- the first piece is the placeholder itself, which is not empty
        rw [(List.cons.inj split).1, Piece.chars_of_fresh fresh] at same
        exact absurd (List.append_eq_nil_iff.1 same.symm).1 h.chars_ne_nil
    | cons q qs =>
        obtain ⟨rfl, rest⟩ := List.cons.inj split
        rw [spell_cons] at same
        exact unowned qs rs rest (List.append_cancel_left same)

/-- A placeholder that strays behind the first piece strays in the pieces behind it. -/
theorem StraysIn.behind {more behind : List Char}
    (stands : spell paths passed (p :: ps) = p.chars paths passed ++ more ++ (h.chars ++ behind))
    (unowned : ∀ qs rs, p :: ps = qs ++ .hole h :: rs →
      spell paths passed qs ≠ p.chars paths passed ++ more) : StraysIn paths passed h ps := by
  rw [spell_cons, List.append_assoc] at stands
  refine ⟨more, behind, List.append_cancel_left stands, fun qs rs split same => ?_⟩
  refine unowned (p :: qs) rs (by rw [split, List.cons_append]) ?_
  rw [spell_cons, same]

/-- A placeholder strays inside the first piece, which is of another kind, or behind it. -/
theorem StraysIn.here_or_tail (fresh : h ∉ passed) (strays : StraysIn paths passed h (p :: ps)) :
    (p ≠ .hole h ∧ ∃ before behind, spell paths passed (p :: ps) = before ++ (h.chars ++ behind) ∧
      before.length < (p.chars paths passed).length) ∨ StraysIn paths passed h ps := by
  obtain ⟨before, behind, stands, unowned⟩ := strays
  by_cases own : p = .hole h
  · have text : p.chars paths passed = h.chars := own ▸ Piece.chars_of_fresh fresh
    have same := stands
    rw [spell_cons, text] at same
    rcases Hole.at_start_or_behind same with ⟨rfl, -⟩ | ⟨more, front⟩
    · exact absurd rfl (unowned [] ps (own ▸ rfl))
    · rw [← text] at front
      subst front
      exact .inr (.behind stands unowned)
  · rcases lt_or_ge before.length (p.chars paths passed).length with inside | outside
    · exact .inl ⟨own, before, behind, stands, inside⟩
    · have front : p.chars paths passed <+: before ++ (h.chars ++ behind) := by
        rw [← stands, spell_cons]
        exact List.prefix_append _ _
      obtain ⟨more, rfl⟩ := List.prefix_of_prefix_length_le front (List.prefix_append _ _) outside
      exact .inr (.behind stands unowned)

theorem not_straysIn_nil : ¬ StraysIn paths passed h [] := by
  rintro ⟨before, behind, stands, -⟩
  have empty := (List.append_eq_nil_iff.1 stands.symm).2
  exact h.chars_ne_nil (List.append_eq_nil_iff.1 empty).1

/-- No placeholder strays in the word itself: all of them are among its pieces. -/
theorem not_straysIn_pieces (word : String) : ¬ StraysIn paths [] h (pieces word) := by
  rw [pieces]
  induction word.toList using scan_induction Hole.all with
  | nil => exact not_straysIn_nil
  | hole q _ cs ih =>
      rw [piecesFrom_hole]
      intro strays
      obtain ⟨other, before, behind, stands, inside⟩ | tail := strays.here_or_tail List.not_mem_nil
      · have text : (Piece.hole q).chars paths [] = q.chars := Piece.chars_of_fresh List.not_mem_nil
        rw [spell_cons, text] at stands
        rw [text] at inside
        obtain ⟨-, rfl⟩ | ⟨more, rfl⟩ := Hole.at_start_or_behind stands
        · exact other rfl
        · rw [List.length_append] at inside
          omega
      · exact ih tail
  | plain c cs other ih =>
      have spelled : spell paths [] (piecesFrom 0 (c :: cs)) = c :: cs := by
        simpa [pieces] using spell_pieces paths (.ofList (c :: cs))
      rw [piecesFrom_plain fun h => other h h.mem_all] at spelled ⊢
      intro strays
      obtain ⟨-, before, behind, stands, inside⟩ | tail := strays.here_or_tail List.not_mem_nil
      · obtain rfl : before = [] := List.eq_nil_of_length_eq_zero (Nat.lt_one_iff.1 inside)
        rw [spelled, List.nil_append] at stands
        exact other h h.mem_all (stands ▸ List.prefix_append _ _)
      · exact ih tail

/-- What stands in a text without braces and slashes is part of the word, as absolute paths begin
with a slash and placeholders with a brace. -/
theorem prefix_spell (absolute : paths.Absolute) {front : List Char} (brace : '\x7b' ∉ front)
    (slash : '/' ∉ front) (begins : front <+: spell paths passed ps) :
    front <+: spell paths [] ps := by
  induction ps generalizing front with
  | nil => exact begins
  | cons p ps ih =>
      cases front with
      | nil => exact List.nil_prefix
      | cons c front =>
          rw [spell_cons] at begins ⊢
          cases p with
          | plain d =>
              obtain ⟨rfl, rest⟩ := List.cons_prefix_cons.1 begins
              refine List.cons_prefix_cons.2 ⟨rfl, ih ?_ ?_ rest⟩
              · exact fun mem => brace (List.mem_cons_of_mem _ mem)
              · exact fun mem => slash (List.mem_cons_of_mem _ mem)
          | hole q =>
              by_cases mem : q ∈ passed
              · obtain ⟨cs, text⟩ := FilePath.isAbsolute_iff.1 (absolute q)
                rw [Piece.chars, if_pos mem, text, List.cons_append,
                  List.cons_prefix_cons] at begins
                exact absurd (begins.1 ▸ List.mem_cons_self ..) slash
              · rw [Piece.chars_of_fresh mem, q.chars_eq, List.cons_append,
                  List.cons_prefix_cons] at begins
                exact absurd (begins.1 ▸ List.mem_cons_self ..) brace

/-- If no path has a brace, a stray placeholder is one that strays in the word itself. -/
theorem StraysIn.of_braceless (absolute : paths.Absolute)
    (braceless : ∀ q, '\x7b' ∉ (paths.path q).text.toList) (fresh : h ∉ passed)
    (strays : StraysIn paths passed h ps) : StraysIn paths [] h ps := by
  induction ps with
  | nil => exact absurd strays not_straysIn_nil
  | cons p ps ih =>
      obtain ⟨other, before, behind, stands, inside⟩ | tail := strays.here_or_tail fresh
      · rw [spell_cons] at stands
        cases p with
        | plain c =>
            obtain rfl : before = [] := List.eq_nil_of_length_eq_zero (Nat.lt_one_iff.1 inside)
            rw [List.nil_append, h.chars_eq, List.cons_append] at stands
            obtain ⟨rfl, rest⟩ := List.cons.inj stands
            have brace := h.brace_not_mem_tail
            have slash := h.slash_not_mem
            rw [h.chars_eq, List.tail_cons] at brace
            rw [h.chars_eq, List.mem_cons, not_or] at slash
            obtain ⟨behind, begins⟩ :=
              prefix_spell absolute brace slash.2 (rest ▸ List.prefix_append _ _)
            have stands' : spell paths [] (.plain '\x7b' :: ps) = [] ++ (h.chars ++ behind) := by
              rw [List.nil_append, h.chars_eq, List.cons_append, begins]
              rfl
            exact .here other stands' inside
        | hole q =>
            by_cases mem : q ∈ passed
            · rw [Piece.chars, if_pos mem] at stands inside
              exact absurd (Hole.brace_mem_of_inside stands inside) (braceless q)
            · rw [Piece.chars_of_fresh mem] at stands inside
              obtain ⟨-, rfl⟩ | ⟨more, rfl⟩ := Hole.at_start_or_behind stands
              · exact absurd rfl other
              · rw [List.length_append] at inside
                omega
      · exact (ih tail).tail List.not_mem_nil

end Spell

/-- Paths without braces bring no placeholders along. -/
theorem not_strays_of_braceless {paths : Paths} (absolute : paths.Absolute)
    (braceless : ∀ h, '\x7b' ∉ (paths.path h).text.toList) (word : String) (h : Hole) :
    ¬ Strays paths word h :=
  fun strays => not_straysIn_pieces word (strays.of_braceless absolute braceless h.not_mem_earlier)

end LabelForge.Runtime
