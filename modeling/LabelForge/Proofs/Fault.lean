import LabelForge.Proofs.FileTree
import LabelForge.FileScript

/-!
# LabelForge.Proofs.Fault

**Scripts that are interrupted.** A script is cut off when its process dies, before an operation or
in the middle of it, or it goes on after an operation that has failed. Everything before that has
gone well, so the operation that is struck tells how far the script has come.

Design points:

* What is left of an operation that is not carried out to its end is a relation, `FileOp.Leaves`. A
  name is given or not, in one step; a file may have got any beginning of its text, and anything may
  be left of a directory that is removed.
* `ComesTo` follows a script up to the operation that is struck. A death and a failure differ only
  in what happens then.
-/

namespace LabelForge

open FileTree (Entries)

namespace FileOp

/-- What an operation that is not carried out to its end may leave of the files. -/
inductive Leaves (files : FileTree) : FileOp → FileTree → Prop where
  /-- Nothing has happened yet. -/
  | untouched (op : FileOp) : Leaves files op files
  /-- A directory on the way has been made, but not the last one. -/
  | onTheWay {l : Location} {k : Nat} {left : FileTree} (above : k < l.length)
      (made : files.makeDirs (l.take k) = .ok left) : Leaves files (.makeDirs l) left
  /-- The file has a beginning of its text. -/
  | torn {l : Location} {content : String} {k : Nat} {left : FileTree}
      (wrote : files.write l ((Text.bytesOf content).take k) = .ok left) :
    Leaves files (.writeText l content) left
  /-- Part of the directory is left. -/
  | remains {l : Location} (there : files.isDirAt l = true) (entries : Entries) :
    Leaves files (.removeDir l) (files.put l (.directory entries))

/-- The answer to an operation that fails. -/
def refusal (e : OsError) : (op : FileOp) → op.Reply
  | .isDir _ => false
  | .makeDirs _ => .error e
  | .readText _ => .error e
  | .writeText _ _ => .error e
  | .rename _ _ => .error e
  | .removeDir _ => .error e
  | .list _ => .error e

variable {files left : FileTree} {l : Location} {es fs : Entries} {name : FileName}

theorem Leaves.isDir (leaves : (FileOp.isDir l).Leaves files left) : left = files := by
  cases leaves
  rfl

theorem Leaves.rename {target : Location} (leaves : (FileOp.rename l target).Leaves files left) :
    left = files := by
  cases leaves
  rfl

/-- In a directory that is there, another one is made in one step. -/
theorem Leaves.makeDirs (h : files.at? l = some (.directory es))
    (leaves : (FileOp.makeDirs (l ++ [name])).Leaves files left) : left = files := by
  cases leaves with
  | untouched => rfl
  | @onTheWay _ k _ above made =>
      have within : k ≤ l.length := by
        rw [List.length_append, List.length_singleton] at above
        omega
      rw [List.take_append_of_le_length within, FileTree.makeDirs_above h] at made
      exact (Except.ok.inj made).symm

/-- Of a file that is written, only its directory may have changed. -/
theorem Leaves.writeText (h : files.at? l = some (.directory es))
    (found : es.find? name = some (.directory fs)) {file : FileName}
    (free : ∀ node, fs.find? file = some node → ∃ old, node = .file old) {content : String}
    (leaves : (FileOp.writeText (l ++ [name] ++ [file]) content).Leaves files left) :
    ∃ fs', left = files.put l (.directory (es.set name (.directory fs'))) := by
  cases leaves with
  | untouched => exact ⟨fs, by rw [Entries.set_same found, FileTree.put_same h]⟩
  | torn wrote =>
      rw [FileTree.write_file h found free] at wrote
      exact ⟨_, (Except.ok.inj wrote).symm⟩

/-- Of a directory that is removed, something may be left. -/
theorem Leaves.removeDir (h : files.at? l = some (.directory es))
    (found : es.find? name = some (.directory fs))
    (leaves : (FileOp.removeDir (l ++ [name])).Leaves files left) :
    ∃ fs', left = files.put l (.directory (es.set name (.directory fs'))) := by
  cases leaves with
  | untouched => exact ⟨fs, by rw [Entries.set_same found, FileTree.put_same h]⟩
  | remains there fs' => exact ⟨fs', FileTree.put_entry h name _⟩

end FileOp

namespace FileScript

variable {α : Type}

/-- A script comes to an operation: what follows it, and the files by then. -/
inductive ComesTo :
    FileScript α → FileTree → (op : FileOp) → (op.Reply → FileScript α) → FileTree → Prop where
  | here {op : FileOp} {next : op.Reply → FileScript α} {files : FileTree} :
    ComesTo (.step op next) files op next files
  | later {op op' : FileOp} {next : op.Reply → FileScript α} {next' : op'.Reply → FileScript α}
      {files now : FileTree}
      (comes : ComesTo (next (op.run files).1) (op.run files).2 op' next' now) :
    ComesTo (.step op next) files op' next' now

/-- The process dies at an operation of the script; the files that are left. -/
inductive Dies (script : FileScript α) (files : FileTree) (op : FileOp) (left : FileTree) :
    Prop where
  | intro {next : op.Reply → FileScript α} {now : FileTree}
      (comes : script.ComesTo files op next now) (leaves : op.Leaves now left)

/-- An operation of the script fails, and the script goes on; its result and the files that are
left. -/
inductive Fails (script : FileScript α) (files : FileTree) (op : FileOp) :
    α × FileTree → Prop where
  | intro {next : op.Reply → FileScript α} {now left : FileTree}
      (comes : script.ComesTo files op next now) (e : OsError) (leaves : op.Leaves now left) :
    Fails script files op ((next (op.refusal e)).run left)

end FileScript

end LabelForge
