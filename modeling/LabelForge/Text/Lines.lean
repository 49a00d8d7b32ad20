/-!
# LabelForge.Text.Lines

**Lines of a text.** A line ends with a line feed, and the carriage return before it belongs to
the end of the line. Text behind the last line feed is a line too, unless there is none.
-/

namespace LabelForge.Text

/-- Splits characters at the line feeds; there is always at least one piece. -/
def splitFeeds : List Char → List (List Char)
  | [] => [[]]
  | c :: cs =>
    if c == '\n' then [] :: splitFeeds cs
    else match splitFeeds cs with
      | [] => [[c]]
      | line :: rest => (c :: line) :: rest

/-- Drops the carriage return at the end of a line. -/
def dropReturn (line : List Char) : List Char :=
  if line.getLast? == some '\r' then line.dropLast else line

/-- The lines of characters. -/
def linesOfChars (cs : List Char) : List (List Char) :=
  let pieces := splitFeeds cs
  let last := pieces.getLastD []
  pieces.dropLast.map dropReturn ++ (if last.isEmpty then [] else [last])

/-- The lines of a text. -/
def lines (s : String) : List String :=
  (linesOfChars s.toList).map .ofList

end LabelForge.Text
