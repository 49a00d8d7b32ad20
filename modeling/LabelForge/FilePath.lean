/-!
# LabelForge.FilePath

**Paths as they were given.** A path is kept as its text, because messages show it exactly as
somebody wrote it. What it denotes is read off its *steps*: the names between slashes, where an
empty name means nothing, a single dot stays in a directory and two dots lead to its parent.

Design points:

* The parent of a path is a matter of its text: the last step is cut off, together with the
  slashes and single dots around it. A path of one relative name has the empty path as parent.
* Joining with an absolute path gives that path.
-/

namespace LabelForge

/-- A path of the file system. -/
structure FilePath where
  text : String
  deriving DecidableEq, Repr, Inhabited

namespace FilePath

/-- One step of a path. -/
inductive Step where
  /-- To the entry of a name. -/
  | down (name : String)
  /-- To the parent directory. -/
  | up
  /-- To the directory itself. -/
  | stay
  deriving DecidableEq, Repr

/-- Splits characters at the slashes. -/
def splitSlashes : List Char → List (List Char)
  | [] => [[]]
  | c :: cs =>
    if c == '/' then [] :: splitSlashes cs
    else match splitSlashes cs with
      | [] => [[c]]
      | name :: rest => (c :: name) :: rest

/-- Whether the path starts at the root. -/
def isAbsolute (p : FilePath) : Bool :=
  p.text.toList.head? == some '/'

/-- Whether the path ends with a slash, and so can lead to nothing but a directory. -/
def endsInSlash (p : FilePath) : Bool :=
  p.text.toList.getLast? == some '/'

/-- The meaning of what stands between two slashes. -/
def step? (name : List Char) : Option Step :=
  if name.isEmpty then none
  else if name == ['.'] then some .stay
  else if name == ['.', '.'] then some .up
  else some (.down (.ofList name))

/-- The steps of a path. -/
def steps (p : FilePath) : List Step :=
  (splitSlashes p.text.toList).filterMap step?

/-- A path continued by another one. -/
def join (p q : FilePath) : FilePath :=
  if q.isAbsolute || p.text.isEmpty then q
  else if p.endsInSlash then ⟨p.text ++ q.text⟩
  else ⟨p.text ++ "/" ++ q.text⟩

/-- The entry of a name below a path. -/
def child (p : FilePath) (name : String) : FilePath :=
  p.join ⟨name⟩

/-- Drops slashes and single dots from the end; `cs` is reversed. A dot that starts the path
stays, and so does the slash of the root. -/
def trimReversed : List Char → List Char
  | ['/'] => ['/']
  | '/' :: rest => trimReversed rest
  | '.' :: '/' :: rest => trimReversed ('/' :: rest)
  | cs => cs

/-- The path without its last step; none for the root and the empty path. -/
def parent? (p : FilePath) : Option FilePath :=
  match trimReversed p.text.toList.reverse with
  | [] => none
  | ['/'] => none
  | cs => some ⟨.ofList (trimReversed (cs.dropWhile (· != '/'))).reverse⟩

/-- The name that the path ends in; none if it ends at a parent or at the root. -/
def fileName? (p : FilePath) : Option String :=
  match (p.steps.filter (· != .stay)).getLast? with
  | some (.down name) => some name
  | _ => none

end FilePath

end LabelForge
