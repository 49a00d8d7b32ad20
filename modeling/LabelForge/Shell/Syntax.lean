/-!
# LabelForge.Shell.Syntax

**Shell scripts as data.** A script is a list of commands. A command is made of words, and a word
of pieces: characters that stand for themselves, and pieces whose text is found out when the
command runs.

Design points:

* Every piece knows whether it is quoted. Only what an unquoted piece is replaced by is split into
  several words.
* A simple command keeps the number of its line for messages.
-/

namespace LabelForge.Shell

/-- What takes the place of a parameter without a value. -/
inductive Substitute where
  /-- A word. -/
  | default
  /-- A word, which also becomes the value. -/
  | assign
  /-- Nothing; a parameter with a value is replaced by the word. -/
  | alternative
  /-- The script ends with the word as its message. -/
  | failure
  deriving DecidableEq, Repr

/-- What a redirection does. -/
inductive Redirect where
  /-- Reads a file. -/
  | input
  /-- Writes a file. -/
  | output
  /-- Writes at the end of a file. -/
  | append
  /-- Uses another stream. -/
  | duplicate
  /-- Reads the text of the script itself. -/
  | here
  deriving DecidableEq, Repr

mutual

/-- A piece of a word. -/
inductive Piece where
  /-- Characters that stand for themselves. -/
  | text (chars : String) (quoted : Bool)
  /-- The value of a parameter. -/
  | value (name : String) (quoted : Bool)
  /-- The length of the value of a parameter. -/
  | length (name : String) (quoted : Bool)
  /-- The value of a parameter, or what takes its place. With `orEmpty` the empty value counts as
  no value. -/
  | instead (name : String) (kind : Substitute) (orEmpty : Bool) (word : List Piece)
      (quoted : Bool)
  /-- The value of a parameter without a start or an end that has a given pattern. -/
  | trimmed (name : String) (atStart longest : Bool) (pattern : List Piece) (quoted : Bool)
  /-- What a script prints. -/
  | output (script : List Command) (quoted : Bool)
  /-- The value of an arithmetic expression. -/
  | sum (expression : List Piece) (quoted : Bool)
  /-- A parameter with a change that does not exist, at which the script ends. -/
  | noChange

/-- A redirection of one of the streams 0, 1 and 2. -/
inductive Redirection where
  | mk (stream : Nat) (kind : Redirect) (target : List Piece)

/-- A command. -/
inductive Command where
  /-- Assignments, then the name of a command and its arguments. -/
  | simple (line : Nat) (assignments : List (String × List Piece)) (words : List (List Piece))
      (redirections : List Redirection)
  /-- Commands of which each reads what the one before prints. -/
  | pipeline (negated : Bool) (stages : List Command)
  /-- The second command runs if the first one succeeds. -/
  | both (first second : Command)
  /-- The second command runs if the first one fails. -/
  | either (first second : Command)
  /-- Commands in order. -/
  | group (body : List Command) (redirections : List Redirection)
  /-- Commands in order, in a shell of their own. -/
  | subshell (body : List Command) (redirections : List Redirection)
  /-- The first body whose test succeeds. -/
  | choice (branches : List (List Command × List Command)) (otherwise : List Command)
      (redirections : List Redirection)
  /-- A body that is repeated as long as a test has the wanted outcome. -/
  | loop (wanted : Bool) (test body : List Command) (redirections : List Redirection)
  /-- A body for each of some words, or for each parameter. -/
  | each (name : String) (words : Option (List (List Piece))) (body : List Command)
      (redirections : List Redirection)
  /-- The first body that has a pattern that fits a word. -/
  | select (word : List Piece) (arms : List (List (List Piece) × List Command))
      (redirections : List Redirection)
  /-- A name for a command. -/
  | define (name : String) (body : Command)
  /-- A command that nobody waits for. -/
  | background (command : Command)

end

/-- A word. -/
abbrev Word := List Piece

/-- A script. -/
abbrev Script := List Command

deriving instance Repr for Piece, Redirection, Command
instance : Inhabited Command := ⟨.group [] []⟩

end LabelForge.Shell
