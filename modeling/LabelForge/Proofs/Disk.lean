import LabelForge.Disk
import LabelForge.Proofs.FileTree

/-!
# LabelForge.Proofs.Disk

**What was written to a path is read from it.** Writing a file leaves all directories in place, and
the way along a path leads through directories only. So the path still leads to where the file was
written.
-/

namespace LabelForge

open Text (Bytes)
open FileTree (Entries)

namespace FileTree

variable {t t' : FileTree} {l m : Location} {es : Entries} {content : Bytes}

/-- Directories stay directories when a file is put where none of them is. -/
theorem at?_put_file (h : t.at? m = some (.directory es))
    (free : ∀ fs, t.at? l ≠ some (.directory fs)) (content : Bytes) :
    ∃ fs, (t.put l (.file content)).at? m = some (.directory fs) := by
  induction l generalizing t m with
  | nil =>
      cases m with
      | nil => exact absurd h (free es)
      | cons name m =>
          obtain ⟨fs, _, rfl, -⟩ := at?_cons_eq_some h
          exact absurd rfl (free fs)
  | cons name l ih =>
      cases m with
      | nil =>
          -- the directory gets an entry, or one of its entries is changed
          obtain rfl : t = .directory es := Option.some.inj h
          cases l with
          | nil => exact ⟨_, rfl⟩
          | cons next l =>
              rw [put]
              cases es.find? name <;> exact ⟨_, rfl⟩
      | cons other m =>
          obtain ⟨fs, child, rfl, found, below⟩ := at?_cons_eq_some h
          by_cases same : other = name
          · subst same
            have free' : ∀ gs, child.at? l ≠ some (.directory gs) := by
              intro gs here
              refine free gs ?_
              rw [at?_cons, child?, found]
              exact here
            obtain ⟨gs, kept⟩ := ih below free'
            refine ⟨gs, ?_⟩
            rw [put_cons found, at?_cons, child?, Entries.find?_set_self]
            exact kept
          · -- below another entry nothing is changed
            have beside (node : FileTree) :
                (directory (fs.set name node)).at? (other :: m) = some (.directory es) := by
              rw [at?_cons, child?, Entries.find?_set_ne same, found]
              exact below
            cases there : fs.find? name with
            | some node => exact ⟨es, put_cons there l _ ▸ beside _⟩
            | none =>
                cases l with
                | nil => exact ⟨es, beside _⟩
                | cons next l =>
                    refine ⟨es, ?_⟩
                    simp only [put, there]
                    exact h

/-- Writing leaves directories in place. -/
theorem at?_write (wrote : t.write l content = .ok t') (h : t.at? m = some (.directory es)) :
    ∃ fs, t'.at? m = some (.directory fs) := by
  unfold write at wrote
  split at wrote
  · cases wrote
  · cases wrote
    exact ⟨es, h⟩
  · split at wrote
    · cases wrote
      exact ⟨es, h⟩
    · cases wrote
  · rename_i old file
    cases wrote
    exact at?_put_file h (fun fs same => nomatch file.symm.trans same) content
  · rename_i none
    split at wrote
    · cases wrote
    · cases wrote
      exact at?_put_file h (fun fs same => nomatch none.symm.trans same) content

/-- If there is a file where something was written, it has what was written. -/
theorem read_write (wrote : t.write l content = .ok t') (file : t'.isFileAt l = true) :
    t'.read l = .ok content := by
  have put_read (there : (t.put l (.file content)).at? l = some (.file content)) :
      (t.put l (.file content)).read l = .ok content := by
    rw [read, there]
  unfold isFileAt at file
  unfold write at wrote
  split at wrote
  · cases wrote
  · rename_i device
    cases wrote
    rw [device] at file
    cases file
  · rename_i device
    split at wrote
    · cases wrote
      rw [device] at file
      cases file
    · cases wrote
  · rename_i old found
    cases wrote
    exact put_read (at?_put found _)
  · split at wrote
    · cases wrote
    · rename_i free _ parent
      cases wrote
      refine put_read ?_
      have below : l ≠ [] := by
        rintro rfl
        cases free
      obtain ⟨parents, name, rfl⟩ : ∃ parents name, l = parents ++ [name] :=
        ⟨_, _, (List.dropLast_concat_getLast below).symm⟩
      rw [parentFault, List.dropLast_concat] at parent
      split at parent
      · rename_i fs here
        rw [put_entry here, at?_entry (at?_put here _), Entries.find?_set_self]
      · cases parent
      · cases parent

end FileTree

namespace Disk

variable {d d' : Disk} {p : FilePath} {l : Location} {content : Bytes}

/-- A step leads where it led while all directories are in place. -/
theorem follow_mono {files files' : FileTree} {step : FilePath.Step} {m : Location}
    (kept : ∀ m es, files.at? m = some (.directory es) → ∃ fs, files'.at? m = some (.directory fs))
    (led : follow files m step = .ok l) : follow files' m step = .ok l := by
  unfold follow at led
  split at led
  · cases led
  · rename_i es here
    obtain ⟨fs, there⟩ := kept m es here
    simp only [follow, there]
    exact led
  · cases led

theorem foldlM_follow_mono {files files' : FileTree} {steps : List FilePath.Step} {m : Location}
    (kept : ∀ m es, files.at? m = some (.directory es) → ∃ fs, files'.at? m = some (.directory fs))
    (led : steps.foldlM (follow files) m = .ok l) : steps.foldlM (follow files') m = .ok l := by
  induction steps generalizing m with
  | nil => exact led
  | cons step steps ih =>
      rw [List.foldlM_cons] at led ⊢
      cases first : follow files m step with
      | error e => rw [first] at led; cases led
      | ok next =>
          rw [first] at led
          rw [follow_mono kept first]
          exact ih led

/-- A path leads where it led while all directories are in place. -/
theorem walk_mono {files : FileTree}
    (kept : ∀ m es, d.files.at? m = some (.directory es) → ∃ fs, files.at? m = some (.directory fs))
    (led : d.walk p = .ok l) : ({ d with files := files } : Disk).walk p = .ok l := by
  unfold walk walkSteps at led ⊢
  split at led
  · cases led
  · rename_i valid
    split at led
    · cases led
    · rename_i some
      split at led
      · cases led
      · rename_i short
        rw [if_neg valid, if_neg some, if_neg short]
        exact foldlM_follow_mono kept led

theorem target_eq_ok (h : d.target p = .ok l) : p.endsInSlash = false ∧ d.walk p = .ok l := by
  unfold target at h
  cases slash : p.endsInSlash with
  | true =>
      rw [slash] at h
      simp only [if_true, bind, Except.bind, throw, throwThe, MonadExceptOf.throw] at h
      split at h
      · cases h
      · split at h <;> cases h
  | false =>
      rw [slash] at h
      simp only [Bool.false_eq_true, if_false] at h
      cases led : d.walk p with
      | error e => rw [led] at h; cases h
      | ok m =>
          simp only [led, bind, Except.bind, throw, throwThe, MonadExceptOf.throw] at h
          split at h <;> cases h
          exact ⟨rfl, rfl⟩

/-- What makes a path one that is walked by given steps. -/
structure Walks (p : FilePath) (steps : List FilePath.Step) : Prop where
  steps : p.steps = steps
  nul : '\x00' ∉ p.text.toList
  named : p.text.isEmpty = false
  short : p.text.utf8ByteSize ≤ maxPath
  open_ : p.endsInSlash = false

variable {steps : List FilePath.Step}

theorem Walks.walk (h : Walks p steps) (d : Disk) :
    d.walk p = steps.foldlM (follow d.files) (if p.isAbsolute then [] else d.cwd) := by
  have nul : p.text.contains '\x00' = false := by
    rw [String.contains_char_eq]
    simpa using h.nul
  rw [Disk.walk, walkSteps, nul, h.named, h.steps, if_neg Bool.false_ne_true,
    if_neg Bool.false_ne_true, if_neg (Nat.not_lt.mpr h.short)]

theorem Walks.locate (h : Walks p steps) (d : Disk) :
    d.locate p = steps.foldlM (follow d.files) (if p.isAbsolute then [] else d.cwd) := by
  rw [Disk.locate, h.walk, h.open_]
  cases steps.foldlM (follow d.files) (if p.isAbsolute then [] else d.cwd) <;> rfl

theorem Walks.write {files : FileTree} (h : Walks p steps)
    (led : steps.foldlM (follow d.files) (if p.isAbsolute then [] else d.cwd) = .ok l)
    (free : d.files.isDirAt l = false) (wrote : d.files.write l content = .ok files) :
    d.write p content = .ok { d with files } := by
  simp only [Disk.write, target, h.open_, h.walk, led, free, wrote, bind, Except.bind, pure,
    Except.pure, Bool.false_eq_true, if_false]

/-- A path that is walked to a directory leads to one. -/
theorem Walks.isDir (h : Walks p steps)
    (led : steps.foldlM (follow d.files) (if p.isAbsolute then [] else d.cwd) = .ok l)
    (there : d.files.isDirAt l = true) : d.isDir p = true := by
  rw [Disk.isDir, h.locate, led]
  exact there

/-- The text of a file is found where the path leads. -/
theorem Walks.readText {text : String} (h : Walks p steps)
    (led : steps.foldlM (follow d.files) (if p.isAbsolute then [] else d.cwd) = .ok l)
    (found : d.files.read l = .ok (Text.bytesOf text)) : d.readText p = .ok text := by
  simp only [Disk.readText, h.locate, led, FileTree.readText, found, bind, Except.bind,
    Text.textOf?_bytesOf]
  rfl

/-- A path of one name. -/
theorem walks_out : Walks ⟨"out.csv"⟩ [.down "out.csv"] := by
  constructor <;> decide

theorem parent?_out : FilePath.parent? ⟨"out.csv"⟩ = some ⟨""⟩ := by decide

/-- A directory that is there need not be made. -/
theorem makeDirs_there (h : d.isDir p = true) : d.makeDirs p = (.ok (), d) := by
  have taken : d.makeDir p = .error .exists := by
    unfold isDir locate at h
    cases led : d.walk p with
    | error e =>
        rw [led] at h
        cases h
    | ok l =>
        cases there : d.files.at? l with
        | none =>
            simp [led, there, FileTree.isDirAt, bind, Except.bind, pure, Except.pure] at h
        | some node => simp only [makeDir, led, bind, Except.bind, FileTree.makeDir, there]
  unfold makeDirs
  rw [makeDirsTo, taken]
  simp only [makeLast, taken, h, if_true, ite_self]

/-- **What was written to a path is read from it**, if the path leads to a file then. -/
theorem read_write (wrote : d.write p content = .ok d') (file : d'.isFile p = true) :
    d'.read p = .ok content := by
  cases found : d.target p with
  | error e => simp only [write, found, bind, Except.bind, reduceCtorEq] at wrote
  | ok l =>
      cases put : d.files.write l content with
      | error e => simp only [write, found, put, bind, Except.bind, reduceCtorEq] at wrote
      | ok files =>
          simp only [write, found, put, bind, Except.bind, pure, Except.pure,
            Except.ok.injEq] at wrote
          subst wrote
          obtain ⟨noSlash, led⟩ := target_eq_ok found
          have located : ({ d with files := files } : Disk).locate p = .ok l := by
            rw [locate, walk_mono (fun m es here => FileTree.at?_write put here) led, noSlash]
            rfl
          simp only [isFile, located] at file
          simp only [read, located]
          exact FileTree.read_write put file

end Disk

end LabelForge
