import LabelForge.Shell.State

/-!
# LabelForge.Shell.Tool.Basic

**What tools have in common.** A tool gets its arguments as texts. Options come first or between
other arguments; the rest are operands, mostly the names of files.
-/

namespace LabelForge.Shell

open Text (Bytes)

namespace Tool

/-- A text between quotes, as messages show names. -/
def quoted (s : String) : String := "'" ++ s ++ "'"

/-- What a tool says after the message that it was not called as it should be. -/
def hint (tool : String) : String :=
  "Try " ++ quoted (tool ++ " --help") ++ " for more information."

/-- The options and the operands of a tool. -/
structure Arguments where
  options : List (Char × String) := []
  operands : List String := []
  deriving DecidableEq, Repr

namespace Arguments

/-- Whether an option was given. -/
def has (a : Arguments) (c : Char) : Bool := a.options.any fun (d, _) => d == c

/-- The values of an option. -/
def values (a : Arguments) (c : Char) : List String :=
  a.options.filterMap fun (d, v) => if d == c then some v else none

/-- The last value of an option. -/
def value? (a : Arguments) (c : Char) : Option String := (a.values c).getLast?

end Arguments

/-- The options in the letters of one argument: those without a value, and the last one with its
value, if it has one. The value is missing if it is the next argument. -/
def letters (valued : List Char) : List Char → List (Char × String) × Option (Char × Option String)
  | [] => ([], none)
  | c :: cs =>
    if valued.contains c then ([], some (c, if cs.isEmpty then none else some (.ofList cs)))
    else
      let (plain, last) := letters valued cs
      ((c, "") :: plain, last)

/-- Splits arguments into options and operands. The options in `valued` have a value. -/
def split (valued : List Char) : List String → Arguments
  | [] => {}
  | "--" :: rest => { operands := rest }
  | argument :: rest =>
    match argument.toList with
    | '-' :: c :: cs =>
      match letters valued (c :: cs) with
      | (plain, some (d, none)) =>
        match rest with
        | [] => { options := plain }
        | value :: rest =>
          let found := split valued rest
          { found with options := plain ++ (d, value) :: found.options }
      | (plain, some (d, some value)) =>
        let found := split valued rest
        { found with options := plain ++ (d, value) :: found.options }
      | (plain, none) =>
        let found := split valued rest
        { found with options := plain ++ found.options }
    | _ =>
      let found := split valued rest
      { found with operands := argument :: found.operands }

/-- The lines of bytes without their line feeds. -/
def linesOf (b : Bytes) : List Bytes :=
  let pieces := b.splitOn 10
  if pieces.getLast? == some [] then pieces.dropLast else pieces

/-- Bytes of lines. -/
def ofLines (ls : List Bytes) : Bytes := ls.flatMap fun l => l ++ [10]

/-- Bytes as characters of the same numbers. -/
def chars (b : Bytes) : List Char := b.map fun x => Char.ofNat x.toNat

/-- A text whose characters are the bytes of a text. -/
def byteText (s : String) : String := .ofList (chars (Text.bytesOf s))

/-- What a tool says of a file that it cannot read. Some name what they wanted to do. -/
def unreadable (tool file reason : String) : String :=
  match tool with
  | "head" => s!"head: cannot open {quoted file} for reading: {reason}"
  | "tail" => s!"tail: cannot open {quoted file} for reading: {reason}"
  | "tac" => s!"tac: failed to open {quoted file} for reading: {reason}"
  | "sort" => s!"sort: cannot read: {file}: {reason}"
  | "sed" => s!"sed: can\x27t read {file}: {reason}"
  | tool => s!"{tool}: {file}: {reason}"

/-- The contents of files, or the input if there are none. A file that cannot be read is
complained about. Returns whether all were read. -/
def contents (tool : String) (files : List String) : Action (List Bytes × Bool) := do
  let mut found := #[]
  let mut fine := true
  for file in if files.isEmpty then ["-"] else files do
    match ← Action.readFile file with
    | .ok b => found := found.push b
    | .error e =>
      fine := false
      Action.complain (unreadable tool file e.reason)
  return (found.toList, fine)

/-- The status of a tool. -/
def statusOf (fine : Bool) : Nat := if fine then 0 else 1

/-- A tool that changes the lines of its files. -/
def onLines (tool : String) (files : List String) (f : List Bytes → List Bytes) : Action Nat := do
  let (found, fine) ← contents tool files
  if !fine && tool == "sort" then return 2
  Action.out (ofLines (f (found.flatMap linesOf)))
  return statusOf fine

/-- Does something for each operand, and complains about those for which it is not possible. -/
def forEach (operands : List String) (f : String → Action (Except String Unit)) : Action Nat := do
  let mut fine := true
  for operand in operands do
    if let .error message ← f operand then
      fine := false
      Action.complain message
  return statusOf fine

/-- Does something for each operand, of which there has to be one; `what` says what is missing
otherwise. -/
def atLeastOne (tool what : String) (operands : List String)
    (f : String → Action (Except String Unit)) : Action Nat := do
  if operands.isEmpty then
    Action.complain s!"{tool}: missing {what}"
    Action.fail (hint tool)
  else forEach operands f

end Tool

end LabelForge.Shell
