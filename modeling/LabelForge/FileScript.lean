import LabelForge.FileTree

/-!
# LabelForge.FileScript

**Programs over a file tree, step by step.** A script is a tree of single file operations, each
with the rest of the script for every reply. Run alone, it is a function on file trees. Because
the steps are explicit, it can also be run together with other scripts, one step of one of them
at a time, or be cut off after any of its steps.

Design points:

* An operation is one step: nothing else happens while it runs. Writing a file is one step, and
  so are renaming and removing a directory.
* `Reply` gives the type of an operation's answer. Operations that can fail answer with a cause.
-/

namespace LabelForge

/-- A single file operation. -/
inductive FileOp where
  /-- Asks whether there is a directory. -/
  | isDir (at_ : Location)
  /-- Makes a directory and the directories on the way. -/
  | makeDirs (at_ : Location)
  /-- Reads a file as text. -/
  | readText (at_ : Location)
  /-- Writes a text to a file. -/
  | writeText (at_ : Location) (content : String)
  /-- Renames a file or directory. -/
  | rename (source target : Location)
  /-- Removes a directory with everything below it. -/
  | removeDir (at_ : Location)
  /-- Lists the names in a directory. -/
  | list (at_ : Location)
  deriving DecidableEq, Repr

namespace FileOp

/-- The type of an operation's answer. -/
abbrev Reply : FileOp → Type
  | .isDir _ => Bool
  | .makeDirs _ => Except OsError Unit
  | .readText _ => Except OsError String
  | .writeText _ _ => Except OsError Unit
  | .rename _ _ => Except OsError Unit
  | .removeDir _ => Except OsError Unit
  | .list _ => Except OsError (List FileName)

/-- The answer to a change of the tree, and the tree after it. -/
def changed (files : FileTree) : Except OsError FileTree → Except OsError Unit × FileTree
  | .ok files => (.ok (), files)
  | .error e => (.error e, files)

/-- Carries out an operation. -/
def run : (op : FileOp) → FileTree → op.Reply × FileTree
  | .isDir l, files => (files.isDirAt l, files)
  | .makeDirs l, files => changed files (files.makeDirs l)
  | .readText l, files => (files.readText l, files)
  | .writeText l content, files => changed files (files.write l (Text.bytesOf content))
  | .rename source target, files => changed files (files.rename source target)
  | .removeDir l, files => changed files (files.removeDir l)
  | .list l, files => (files.list l, files)

end FileOp

/-- A script of file operations that ends in a value. -/
inductive FileScript (α : Type) where
  /-- The end. -/
  | done (result : α)
  /-- An operation, and what follows for each answer to it. -/
  | step (op : FileOp) (next : op.Reply → FileScript α)

namespace FileScript

/-- One script after the other. -/
def bind (s : FileScript α) (f : α → FileScript β) : FileScript β :=
  match s with
  | .done a => f a
  | .step op next => .step op fun reply => (next reply).bind f

instance : Monad FileScript where
  pure := .done
  bind := bind

/-- The script of a single operation. -/
def ask (op : FileOp) : FileScript op.Reply :=
  .step op .done

/-- Runs a script alone. -/
def run : FileScript α → FileTree → α × FileTree
  | .done a, files => (a, files)
  | .step op next, files =>
    let (reply, files) := op.run files
    (next reply).run files

@[simp] theorem run_done (a : α) (files : FileTree) : (done a).run files = (a, files) := rfl

@[simp] theorem run_step (op : FileOp) (next : op.Reply → FileScript α) (files : FileTree) :
    (step op next).run files = (next (op.run files).1).run (op.run files).2 := rfl

/-- Running two scripts one after the other. -/
theorem run_bind (s : FileScript α) (f : α → FileScript β) (files : FileTree) :
    (s.bind f).run files = (f (s.run files).1).run (s.run files).2 := by
  induction s generalizing files with
  | done a => rfl
  | step op next ih => exact ih _ _

@[simp] theorem run_pure (a : α) (files : FileTree) :
    (pure a : FileScript α).run files = (a, files) := rfl

theorem run_seq (s : FileScript α) (f : α → FileScript β) (files : FileTree) :
    (s >>= f).run files = (f (s.run files).1).run (s.run files).2 :=
  run_bind s f files

end FileScript

end LabelForge
