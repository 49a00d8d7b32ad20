import LabelForge.Shell.Arithmetic
import LabelForge.Shell.State

/-!
# LabelForge.Shell.Expansion

**From words to texts.** Before a command runs, its words are expanded: values take the place of
parameters, the result of a piece that is not quoted is split into fields, and a field with wild
characters becomes the names of files.

Design points:

* A word is expanded to atoms first, which remember where a character comes from. Splitting and
  finding files are functions on atoms.
* How a script inside a word runs is a parameter, so the recursion follows the word.
-/

namespace LabelForge.Shell

/-- A part of an expanded word. -/
inductive Atom where
  /-- A character. An expanded one comes from a value. -/
  | char (c : Char) (quoted expanded : Bool)
  /-- Quotes, which make a field even if nothing is between them. -/
  | quotes
  /-- The parameters of a shell that has none. -/
  | nothing
  /-- The end of a field. -/
  | cut
  deriving DecidableEq, Repr

namespace Atom

/-- The atoms of a value. -/
def ofValue (quoted : Bool) (s : String) : List Atom :=
  s.toList.map fun c => .char c quoted true

/-- The atom of a word that takes the place of a value. Where it is not quoted it is split like the
value. -/
def inPlace : Atom → Atom
  | .char c quoted _ => .char c quoted true
  | a => a

/-- The characters of atoms; the ends of fields are blanks. -/
def plain : List Atom → List Char
  | [] => []
  | .char c _ _ :: rest => c :: plain rest
  | .cut :: rest => ' ' :: plain rest
  | _ :: rest => plain rest

/-- The text of atoms. -/
def text (atoms : List Atom) : String := .ofList (plain atoms)

/-- The characters of a pattern; the quoted ones stand for themselves. -/
def pattern : List Atom → List PatternChar
  | [] => []
  | .char c quoted _ :: rest => ⟨c, quoted⟩ :: pattern rest
  | _ :: rest => pattern rest

end Atom

/-! ### Fields -/

/-- A field that is being collected; the characters are reversed. -/
structure FieldState where
  chars : List PatternChar := []
  /-- Whether there is a field. -/
  present : Bool := false
  /-- Whether there were no parameters. -/
  nothing : Bool := false
  /-- Whether blanks ended the field before. -/
  afterBlank : Bool := false
  /-- The fields before, the last one first. -/
  done : List (List PatternChar) := []

namespace FieldState

/-- Ends the field. -/
def finish (f : FieldState) : FieldState :=
  if f.present && !(f.nothing && f.chars.isEmpty) then { done := f.chars.reverse :: f.done }
  else { done := f.done }

/-- Takes an atom. -/
def step (separators : List Char) (f : FieldState) : Atom → FieldState
  | .quotes => { f with present := true, afterBlank := false }
  | .nothing => { f with nothing := true }
  | .cut => f.finish
  | .char c quoted expanded =>
    if expanded && !quoted && separators.contains c then
      if c.isWhitespace then
        let g := f.finish
        { g with afterBlank := f.present || f.afterBlank }
      else if f.afterBlank && !f.present then { f with afterBlank := false }
      else { f with present := true }.finish
    else { f with chars := ⟨c, quoted⟩ :: f.chars, present := true, afterBlank := false }

end FieldState

/-- Splits atoms into fields. -/
def fields (separators : List Char) (atoms : List Atom) : List (List PatternChar) :=
  (atoms.foldl (FieldState.step separators) {}).finish.done.reverse

/-! ### Files -/

/-- Splits a pattern at its slashes. -/
def pathParts (ps : List PatternChar) : List (List PatternChar) :=
  ps.splitOnP fun p => p.char == '/'

/-- The paths that fit the parts of a pattern, from a directory whose path is `path`. -/
def findPaths (files : FileTree) : List (List PatternChar) → String → Location → List String
  | [], path, l => if (files.at? l).isSome then [path] else []
  | part :: rest, path, l =>
    let ending := if rest.isEmpty then "" else "/"
    let plain := String.ofList (part.map PatternChar.char)
    let glob := Glob.ofPattern part
    if glob.isWild then
      let names := match files.at? l with
        | some (.directory entries) => entries.names.map FileName.shown
        | _ => []
      let hidden := part.head?.any fun p => p.char == '.'
      let found := names.filter fun name =>
        glob.fits name.toList && (hidden || name.toList.head? != some '.')
      (found.mergeSort fun a b => (compare a b).isLE).flatMap fun name =>
        findPaths files rest (path ++ name ++ ending) (l ++ [.text name])
    else if part.isEmpty || plain == "." then findPaths files rest (path ++ plain ++ ending) l
    else if plain == ".." then findPaths files rest (path ++ plain ++ ending) l.dropLast
    else findPaths files rest (path ++ plain ++ ending) (l ++ [.text plain])

/-- The texts of a field: the files that fit it, or its characters. -/
def fieldTexts (d : Disk) (field : List PatternChar) : List String :=
  let plain := String.ofList (field.map PatternChar.char)
  if (Glob.ofPattern field).isWild then
    let start := if field.head?.any fun p => p.char == '/' then [] else d.cwd
    match findPaths d.files (pathParts field) "" start with
    | [] => [plain]
    | found => found
  else [plain]

/-! ### Words -/

/-- Runs a script and returns what it prints. -/
abbrev ScriptOutput := List Command → Action String

/-- The characters between fields. -/
def separators : Action (List Char) := do
  return ((← Action.valueOf? "IFS").getD " \t\n").toList

/-- The atoms of the parameters, each of them a field of its own. -/
def parameterAtoms (quoted : Bool) (parameters : List String) : List Atom :=
  let each := parameters.map fun p => (if quoted then [.quotes] else []) ++ Atom.ofValue quoted p
  if each.isEmpty then [.nothing] else [Atom.cut].intercalate each

/-- The atoms of a parameter. -/
def valueAtoms (name : String) (quoted : Bool) : Action (List Atom) := do
  if name == "@" || (name == "*" && !quoted) then
    return parameterAtoms quoted (← get).parameters
  else if name == "*" then
    let between := String.ofList ((← separators).take 1)
    return Atom.ofValue quoted (between.intercalate (← get).parameters)
  else
    match ← Action.parameter? name with
    | some value => return Atom.ofValue quoted value
    | none =>
      if (← get).options.contains 'u' then
        Action.grumble s!"{name}: parameter not set"
        throw (.exit 2)
      return []

/-- Removes the line feeds at the end of a text. -/
def dropFeeds (s : String) : String :=
  .ofList (s.toList.reverse.dropWhile (· == '\n')).reverse

mutual

/-- The atoms of a word. -/
def expandWord (run : ScriptOutput) : List Piece → Action (List Atom)
  | [] => return []
  | piece :: rest => do
    let atoms ← expandPiece run piece
    return atoms ++ (← expandWord run rest)

/-- The atoms of a piece. -/
def expandPiece (run : ScriptOutput) : Piece → Action (List Atom)
  | .text chars quoted => do
    if quoted && chars.isEmpty then return [.quotes]
    let atoms := chars.toList.map fun c => Atom.char c quoted false
    return if quoted then .quotes :: atoms else atoms
  | .value name quoted => valueAtoms name quoted
  | .length name quoted => do
    let value := (← Action.parameter? name).getD ""
    return Atom.ofValue quoted (toString value.utf8ByteSize)
  | .instead name kind orEmpty word quoted => do
    let value ← Action.parameter? name
    let isSet := match value with
      | some v => !(orEmpty && v.isEmpty)
      | none => false
    match kind with
    | .default =>
      if isSet then valueAtoms name quoted else return (← expandWord run word).map Atom.inPlace
    | .alternative => if isSet then return (← expandWord run word).map Atom.inPlace else return []
    | .assign =>
      unless isSet do
        let atoms ← expandWord run word
        Action.assign name (Atom.text atoms)
      valueAtoms name quoted
    | .failure =>
      unless isSet do
        let message := Atom.text (← expandWord run word)
        let plain := if orEmpty then "parameter not set or null" else "parameter not set"
        let message := if message.isEmpty then plain else message
        Action.grumble s!"{name}: {message}"
        throw (.exit 2)
      valueAtoms name quoted
  | .trimmed name atStart longest pattern quoted => do
    let glob := Glob.ofPattern (Atom.pattern (← expandWord run pattern))
    let value := ((← Action.parameter? name).getD "").toList
    let kept := if atStart then glob.trimStart longest value else glob.trimEnd longest value
    return Atom.ofValue quoted (.ofList kept)
  | .output script quoted => do
    return Atom.ofValue quoted (dropFeeds (← run script))
  | .sum expression quoted => do
    let text := Atom.text (← expandWord run expression)
    let vars := (← get).vars
    let value (name : String) : String := ((vars.lookup name).map Variable.value).getD ""
    match Arithmetic.evaluate value text with
    | .ok (i, changes) =>
      for (name, changed) in changes.reverse do Action.assign name (toString changed)
      return Atom.ofValue quoted (toString i)
    | .error e =>
      Action.grumble (e.message text)
      throw (.exit 2)
  | .noChange => do
    Action.grumble "Bad substitution"
    throw (.exit 2)

end

/-- The text of a word that is not split. -/
def expandText (run : ScriptOutput) (word : Word) : Action String :=
  return Atom.text (← expandWord run word)

/-- The glob of a word. -/
def expandGlob (run : ScriptOutput) (word : Word) : Action Glob :=
  return Glob.ofPattern (Atom.pattern (← expandWord run word))

/-- The texts of words. -/
def expandWords (run : ScriptOutput) : List Word → Action (List String)
  | [] => return []
  | word :: rest => do
    let atoms ← expandWord run word
    let found := fields (← separators) atoms
    let s ← get
    let texts := if s.options.contains 'f' then
        found.map fun field => String.ofList (field.map PatternChar.char)
      else found.flatMap (fieldTexts s.disk)
    return texts ++ (← expandWords run rest)

/-! ### Input -/

/-- Splits a line that is read into variables: all but the last of them get one field each, and
the last one gets the rest. -/
def splitLine (separators : List Char) : Nat → List Char → List (List Char)
  | 0, _ => []
  | 1, line =>
    let isBlank (c : Char) : Bool := separators.contains c && c.isWhitespace
    let line := ((line.dropWhile isBlank).reverse.dropWhile isBlank).reverse
    let inner := line.dropLast
    -- One separator at the end of a last field that holds no other is dropped.
    match line.getLast? with
    | some c =>
      if separators.contains c && !inner.any separators.contains then [inner] else [line]
    | none => [[]]
  | n + 1, line =>
    let isBlank (c : Char) : Bool := separators.contains c && c.isWhitespace
    let line := line.dropWhile isBlank
    let field := line.takeWhile fun c => !separators.contains c
    let after := (line.drop field.length).dropWhile isBlank
    let after := match after with
      | c :: cs => if separators.contains c then cs else after
      | [] => []
    field :: splitLine separators n after

end LabelForge.Shell
