import LabelForge.Text.Grapheme
import LabelForge.TextTable.Style

/-!
# LabelForge.TextTable.Wrap

**Breaking a line that is too wide.** A line is broken at its blanks. A word that is wider than a
whole line is broken where the line ends; a shorter word goes to the next line instead.

Design points:

* A line with room for no more than two columns is complete, and so is one that has no room for
  more than two columns beside a blank when the next word does not fit.
* A word is broken between the characters that a reader sees. One that is wider than the line
  stands on a line of its own.
* Both parts of a broken word keep the style; codes at the very end of the first part are dropped,
  because they would style nothing.
* Every round takes a word or at least one character of a word, or completes a line that another
  round takes a word for, so the number of rounds is bounded by twice the length of the words.
-/

namespace LabelForge.TextTable

open Text (extent clusters)

/-- How many columns at the end of a line are not worth filling. -/
def slack : Nat := 2

/-- The words of a line, with an empty word between two blanks. -/
def splitBlanks : List Char → List (List Char)
  | [] => [[]]
  | c :: cs =>
    if c == ' ' then [] :: splitBlanks cs
    else match splitBlanks cs with
      | [] => [[c]]
      | word :: rest => (c :: word) :: rest

/-- The first clusters that fit into a width, and the others. -/
def takeClusters (width : Nat) : List (List Char) → List Char × List Char
  | [] => ([], [])
  | c :: cs =>
    if extent c ≤ width then
      let (head, tail) := takeClusters (width - extent c) cs
      (c ++ head, tail)
    else ([], (c :: cs).flatten)

/-- The part of a word that fits into a line, while it is being read. -/
structure Head where
  /-- All that has been read. -/
  read : List Char
  /-- What has been read up to the end of the last text. -/
  text : List Char
  /-- The style at the end of the last text. -/
  textStyle : Style
  /-- The style at the end. -/
  style : Style

/-- The first part of a word, as much as fits into a width, and the other part. -/
def breakPieces (width : Nat) (head : Head) : List Piece → List Char × List Char
  | [] => (head.read, [])
  | .code code :: rest =>
    breakPieces width { head with read := head.read ++ code, style := head.style.push code } rest
  | .text cs :: rest =>
    let through (cs : List Char) : Head :=
      ⟨head.read ++ cs, head.read ++ cs, head.style, head.style⟩
    if extent cs ≤ width then breakPieces (width - extent cs) (through cs) rest
    else
      let (fitting, others) := takeClusters width (clusters cs)
      let last := if fitting.isEmpty then head else through fitting
      (last.text ++ last.textStyle.ending,
        head.style.flatten ++ others ++ rest.flatMap Piece.toList)

/-- The first part of a word, as much as fits into a width, and the other part. -/
def breakWord (width : Nat) (word : List Char) : List Char × List Char :=
  breakPieces width ⟨[], [], [], []⟩ (pieces word)

/-- A blank behind text that is there. -/
def withBlank (line : List Char) : List Char :=
  if line.isEmpty then [] else line ++ [' ']

/-- How many columns a line takes, with a blank behind text that is there. -/
def columnsWithBlank (line : List Char) : Nat :=
  if line.isEmpty then 0 else columnsOf line + 1

/-- The lines that are complete with a line, and the line to go on with. -/
def completed (width : Nat) (line : List Char) : List (List Char) × List Char :=
  if columnsOf line > width - slack then ([line], []) else ([], line)

/-- Fills lines with words; `line` is the one that is being filled. -/
def fillLines (width : Nat) : (rounds : Nat) → (line : List Char) → List (List Char) →
    List (List Char)
  | 0, line, _ => [line]
  | _ + 1, line, [] => if line.isEmpty then [] else [line]
  | rounds + 1, line, word :: words =>
    let room := width - columnsWithBlank line
    if columnsWithBlank line + columnsOf word ≤ width then
      let (done, line) := completed width (withBlank line ++ word)
      done ++ fillLines width rounds line words
    else if !line.isEmpty && room ≤ slack then
      line :: fillLines width rounds [] (word :: words)
    else if columnsOf word > width then
      let (head, tail) := match line, breakWord room word with
        | [], ([], c :: cs) => ([c], cs)
        | _, parts => parts
      (withBlank line ++ head) :: fillLines width rounds [] (tail :: words)
    else
      let (done, next) := completed width word
      line :: done ++ fillLines width rounds next words

/-- The lines of a line that is wider than its column. -/
def wrap (width : Nat) (line : List Char) : List (List Char) :=
  let words := carryStyle [] (splitBlanks line)
  fillLines width (2 * (words.map fun word => word.length + 1).sum + 2) [] words

/-- The lines of a line in a column. -/
def fit (width : Nat) (line : List Char) : List (List Char) :=
  if columnsOf line > width then wrap width line else [line]

end LabelForge.TextTable
