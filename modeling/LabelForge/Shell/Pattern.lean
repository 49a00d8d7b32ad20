/-!
# LabelForge.Shell.Pattern

**Patterns for texts.** A glob stands for file names and for the arms of a selection; a basic
regular expression finds lines. Both are lists of elements that are matched from left to right.

Design points:

* Matching is a recursion on the pattern. An element that stands for any number of characters
  tries every rest of the text.
* Protected characters of a glob stand for themselves.
-/

namespace LabelForge.Shell

/-- A set of characters between brackets. -/
structure Bracket where
  negated : Bool
  ranges : List (Char × Char)
  deriving DecidableEq, Repr

namespace Bracket

/-- Whether a character is in a set. -/
def holds (b : Bracket) (c : Char) : Bool :=
  (b.ranges.any fun (lo, hi) => lo ≤ c && c ≤ hi) != b.negated

/-- The ranges of the named classes. -/
def classes : List (String × List (Char × Char)) := [
  ("digit", [('0', '9')]), ("alpha", [('a', 'z'), ('A', 'Z')]),
  ("alnum", [('a', 'z'), ('A', 'Z'), ('0', '9')]), ("upper", [('A', 'Z')]),
  ("lower", [('a', 'z')]), ("space", [(' ', ' '), ('\t', '\r')]),
  ("blank", [(' ', ' '), ('\t', '\t')]),
  ("punct", [('!', '/'), (':', '@'), ('[', '\x60'), ('\x7b', '~')])]

/-- Reads the ranges up to the closing bracket; returns what follows it. `first` tells that a
closing bracket would stand for itself. -/
def ranges? (first : Bool) : Nat → List Char → Option (List (Char × Char) × List Char)
  | 0, _ => none
  | _ + 1, [] => none
  | n + 1, '[' :: ':' :: cs =>
    let name := String.ofList (cs.takeWhile (· != ':'))
    match classes.lookup name, (cs.dropWhile (· != ':')).take 2 with
    | some found, [':', ']'] =>
      (ranges? false n ((cs.dropWhile (· != ':')).drop 2)).map fun (rs, after) =>
        (found ++ rs, after)
    | _, _ => none
  | n + 1, c :: cs =>
    if c == ']' && !first then some ([], cs)
    else match cs with
      | '-' :: hi :: after =>
        if hi == ']' then (ranges? false n cs).map fun (rs, after) => ((c, c) :: rs, after)
        else (ranges? false n after).map fun (rs, after) => ((c, hi) :: rs, after)
      | _ => (ranges? false n cs).map fun (rs, after) => ((c, c) :: rs, after)

/-- Reads a set behind its opening bracket; returns what follows the closing one. -/
def read? (cs : List Char) : Option (Bracket × List Char) :=
  let negated := cs.head? == some '!' || cs.head? == some '^'
  let cs := if negated then cs.drop 1 else cs
  (ranges? true (cs.length + 1) cs).map fun (ranges, after) => (⟨negated, ranges⟩, after)

end Bracket

/-- A list with all its rests. -/
def rests : List α → List (List α)
  | [] => [[]]
  | x :: xs => (x :: xs) :: rests xs

/-! ### Globs -/

/-- A character of a pattern. -/
structure PatternChar where
  char : Char
  /-- Whether the character stands for itself. -/
  literal : Bool
  deriving DecidableEq, Repr

/-- An element of a glob. -/
inductive GlobElement where
  | char (c : Char)
  | one
  | many
  | set (b : Bracket)
  deriving DecidableEq, Repr

/-- A glob. -/
abbrev Glob := List GlobElement

namespace Glob

/-- The glob of some characters. -/
def ofChars : Nat → List PatternChar → Glob
  | 0, _ => []
  | _ + 1, [] => []
  | n + 1, p :: ps =>
    if p.literal then .char p.char :: ofChars n ps
    else match p.char with
      | '*' => .many :: ofChars n ps
      | '?' => .one :: ofChars n ps
      | '[' =>
        let plain := (ps.takeWhile fun q => !q.literal || q.char != ']').map PatternChar.char
        match Bracket.read? (ps.map PatternChar.char) with
        | some (b, after) =>
          if plain.isEmpty then .char '[' :: ofChars n ps
          else .set b :: ofChars n (ps.drop (ps.length - after.length))
        | none => .char '[' :: ofChars n ps
      | c => .char c :: ofChars n ps

/-- The glob of some characters. -/
def ofPattern (ps : List PatternChar) : Glob := ofChars (ps.length + 1) ps

/-- Whether a glob can stand for several texts. -/
def isWild (g : Glob) : Bool :=
  g.any fun e => match e with
    | .char _ => false
    | _ => true

/-- Whether a glob fits a text. -/
def fits : Glob → List Char → Bool
  | [], cs => cs.isEmpty
  | .many :: g, cs => (rests cs).any (fits g)
  | .one :: g, cs => match cs with
    | [] => false
    | _ :: cs => fits g cs
  | .char c :: g, cs => match cs with
    | [] => false
    | d :: cs => c == d && fits g cs
  | .set b :: g, cs => match cs with
    | [] => false
    | d :: cs => b.holds d && fits g cs

/-- A text without the part at its start that a glob fits, the longest or the shortest one. -/
def trimStart (g : Glob) (longest : Bool) (cs : List Char) : List Char :=
  let lengths := List.range (cs.length + 1)
  let lengths := if longest then lengths.reverse else lengths
  match lengths.find? fun n => fits g (cs.take n) with
  | some n => cs.drop n
  | none => cs

/-- A text without the part at its end that a glob fits, the longest or the shortest one. -/
def trimEnd (g : Glob) (longest : Bool) (cs : List Char) : List Char :=
  let lengths := List.range (cs.length + 1)
  let lengths := if longest then lengths else lengths.reverse
  match lengths.find? fun n => fits g (cs.drop n) with
  | some n => cs.take n
  | none => cs

end Glob

/-! ### Regular expressions -/

/-- What one character is matched against. -/
inductive RegexAtom where
  | char (c : Char)
  | any
  | set (b : Bracket)
  deriving DecidableEq, Repr

/-- Whether an atom fits a character. -/
def RegexAtom.holds : RegexAtom → Char → Bool
  | .char c, d => c == d
  | .any, _ => true
  | .set b, d => b.holds d

/-- An element of a regular expression. -/
inductive RegexElement where
  /-- An atom, as often as the bounds allow. -/
  | times (atom : RegexAtom) (least : Nat) (most : Option Nat)
  /-- The start of the line. -/
  | lineStart
  /-- The end of the line. -/
  | lineEnd
  deriving DecidableEq, Repr

/-- A regular expression without groups. -/
abbrev Regex := List RegexElement

namespace Regex

/-- Reads an expression. In an extended one the plus sign and the question mark need no
backslash to be repetitions. -/
def ofChars (extended : Bool) : Nat → List Char → Regex
  | 0, _ => []
  | _ + 1, [] => []
  | n + 1, c :: cs =>
    let atom (a : RegexAtom) (after : List Char) : Regex :=
      match after with
      | '*' :: after => .times a 0 none :: ofChars extended n after
      | '\\' :: '+' :: after =>
        if extended then .times a 1 (some 1) :: ofChars extended n ('\\' :: '+' :: after)
        else .times a 1 none :: ofChars extended n after
      | '\\' :: '?' :: after =>
        if extended then .times a 1 (some 1) :: ofChars extended n ('\\' :: '?' :: after)
        else .times a 0 (some 1) :: ofChars extended n after
      | '+' :: after =>
        if extended then .times a 1 none :: ofChars extended n after
        else .times a 1 (some 1) :: ofChars extended n ('+' :: after)
      | '?' :: after =>
        if extended then .times a 0 (some 1) :: ofChars extended n after
        else .times a 1 (some 1) :: ofChars extended n ('?' :: after)
      | after => .times a 1 (some 1) :: ofChars extended n after
    match c, cs with
    | '^', _ => .lineStart :: ofChars extended n cs
    | '$', [] => [.lineEnd]
    | '.', _ => atom .any cs
    | '[', _ =>
      match Bracket.read? cs with
      | some (b, after) => atom (.set b) after
      | none => atom (.char '[') cs
    | '\\', d :: after => atom (.char d) after
    | _, _ => atom (.char c) cs

/-- The expression of a text. -/
def ofText (extended : Bool) (s : String) : Regex :=
  ofChars extended (s.length + 1) s.toList

/-- The expression that stands for a text itself. -/
def literal (s : String) : Regex :=
  s.toList.map fun c => .times (.char c) 1 (some 1)

/-- What is left of a text after an atom was matched, the longest match first. -/
def repeated (a : RegexAtom) : List Char → Option Nat → List (List Char)
  | cs, some 0 => [cs]
  | [], _ => [[]]
  | c :: cs, most =>
    if a.holds c then repeated a cs (most.map (· - 1)) ++ [c :: cs] else [c :: cs]

/-- What can be left of a text behind a match at its start. -/
def matchEnds (atStart : Bool) : Regex → List Char → List (List Char)
  | [], cs => [cs]
  | .lineStart :: r, cs => if atStart then matchEnds atStart r cs else []
  | .lineEnd :: r, cs => if cs.isEmpty then matchEnds atStart r cs else []
  | .times a least most :: r, cs =>
    let enough := (repeated a cs most).filter fun after => least ≤ cs.length - after.length
    enough.flatMap fun after => matchEnds (atStart && after.length == cs.length) r after

/-- The first match in a text: what stands before it, the match, and what follows. -/
def find? (r : Regex) : Bool → List Char → Option (List Char × List Char × List Char)
  | atStart, [] =>
    if (matchEnds atStart r []).isEmpty then none else some ([], [], [])
  | atStart, c :: cs =>
    match matchEnds atStart r (c :: cs) with
    | after :: _ => some ([], (c :: cs).take (cs.length + 1 - after.length), after)
    | [] => (find? r false cs).map fun (before, found, after) => (c :: before, found, after)

/-- Whether an expression matches somewhere in a line. -/
def occursIn (r : Regex) (line : List Char) : Bool := (find? r true line).isSome

end Regex

end LabelForge.Shell
