import LabelForge.Shell.Tool.Basic

/-!
# LabelForge.Shell.Tool.Lines

**Tools for lines.** They choose, cut, count and order the lines of their files or of their
input. All of them work on bytes.
-/

namespace LabelForge.Shell.Tool

open Text (Bytes)

/-- The number of an option, or a default. -/
def numberOf (s : Option String) (default : Nat) : Nat :=
  (s.bind String.toNat?).getD default

/-- Arguments in which a number behind a dash is the value of an option. -/
def withNumbers (arguments : List String) : List String :=
  match arguments with
  | argument :: rest =>
    match argument.toList with
    | '-' :: c :: cs =>
      if (c :: cs).all Char.isDigit then "-n" :: .ofList (c :: cs) :: rest else arguments
    | _ => arguments
  | [] => []

/-- How many of some things are the first ones that are asked for; a number behind a dash leaves as
many out at the end. -/
def firstCount (total : Nat) (n : String) : Nat :=
  match n.toList with
  | '-' :: digits => total - numberOf (some (.ofList digits)) 0
  | _ => min total (numberOf (some n) 0)

/-- Prints the first lines, or the first bytes. -/
def head : Tool := fun arguments => do
  let a := split ['n', 'c'] (withNumbers arguments)
  let (found, fine) ← contents "head" a.operands
  for content in found do
    match a.value? 'c' with
    | some n => Action.out (content.take (firstCount content.length n))
    | none =>
      let ls := linesOf content
      let n := firstCount ls.length ((a.value? 'n').getD "10")
      if n < ls.length then Action.out (ofLines (ls.take n)) else Action.out content
  return statusOf fine

/-- Prints the lines in the opposite order. -/
def tac : Tool := fun arguments => onLines "tac" (split [] arguments).operands List.reverse

/-- Prints the last lines or bytes, or those from a given one on. -/
def tail : Tool := fun arguments => do
  let a := split ['n', 'c'] (withNumbers arguments)
  let (found, fine) ← contents "tail" a.operands
  let keep {α : Type} (n : String) (xs : List α) : List α :=
    match n.toList with
    | '+' :: digits => xs.drop (numberOf (some (.ofList digits)) 1 - 1)
    | '-' :: digits => xs.drop (xs.length - numberOf (some (.ofList digits)) 10)
    | _ => xs.drop (xs.length - numberOf (some n) 10)
  for content in found do
    match a.value? 'c' with
    | some n => Action.out (keep n content)
    | none =>
      let ended := content.isEmpty || content.getLast? == some 10
      let kept := ofLines (keep ((a.value? 'n').getD "10") (linesOf content))
      Action.out (if ended then kept else kept.dropLast)
  return statusOf fine

/-- Counts lines, words and bytes. -/
def wc : Tool := fun arguments => do
  let a := split [] arguments
  let (found, fine) ← contents "wc" a.operands
  let words (b : Bytes) : Nat :=
    ((chars b).splitOnP Char.isWhitespace).countP fun w => !w.isEmpty
  let all := !(a.has 'l' || a.has 'w' || a.has 'c' || a.has 'm')
  let counts (b : Bytes) : List Nat :=
    (if all || a.has 'l' then [b.count 10] else []) ++
      (if all || a.has 'w' then [words b] else []) ++
      (if all || a.has 'c' then [b.length] else if a.has 'm' then [(Text.lenient b).length] else [])
  let width (b : Bytes) : Nat :=
    if (counts b).length == 1 then 0
    else if a.operands.isEmpty then 7
    else (toString b.length).length
  let line (b : Bytes) (name : String) : String :=
    let shown := (counts b).map fun n =>
      let s := toString n
      "".pushn ' ' (width b - s.length) ++ s
    " ".intercalate shown ++ (if name.isEmpty then "" else " " ++ name)
  if a.operands.isEmpty then
    for content in found do Action.sayLine (line content "")
  else
    for (content, name) in found.zip a.operands do Action.sayLine (line content name)
  return statusOf fine

/-- Whether a list of bytes comes before another one. -/
def before (x y : Bytes) : Bool := !(List.lex y x fun a b => a < b)

/-- The number at the start of a line, in units of its twelfth decimal. -/
def leadingNumber (b : Bytes) : Int :=
  let cs := (chars b).dropWhile fun c => c == ' ' || c == '\t'
  let negative := cs.head? == some '-'
  let cs := if negative then cs.drop 1 else cs
  let whole := cs.takeWhile Char.isDigit
  let fraction := match cs.drop whole.length with
    | '.' :: rest => rest.takeWhile Char.isDigit
    | _ => []
  let scaled := (String.ofList (whole ++ (fraction ++ List.replicate 12 '0').take 12)).toNat?.getD 0
  if negative then -scaled else scaled

/-- The part of a line from one field to another. -/
def sortKey (separator : Option UInt8) (first : Nat) (last : Option Nat) (line : Bytes) : Bytes :=
  let parts := match separator with
    | some c => line.splitOn c
    | none => (line.splitOn 32).filter fun p => !p.isEmpty
  let kept := (parts.drop (first - 1)).take ((last.map fun l => l + 1 - first).getD parts.length)
  [separator.getD 32].intercalate kept

/-- Orders lines. -/
def sort : Tool := fun arguments =>
  let a := split ['k', 't', 'o'] arguments
  let separator := (a.value? 't').bind fun s => (Text.bytesOf s).head?
  let digits (s : String) : String := .ofList (s.toList.takeWhile Char.isDigit)
  let key := (a.value? 'k').map fun k =>
    match k.splitOn "," with
    | [first] => (numberOf (some (digits first)) 1, none)
    | first :: last :: _ => (numberOf (some (digits first)) 1, (digits last).toNat?)
    | [] => (1, none)
  let letters := ((a.value? 'k').getD "").toList
  let numeric := a.has 'n' || letters.contains 'n'
  let reversed := a.has 'r' || letters.contains 'r'
  let keyOf (line : Bytes) : Bytes := match key with
    | some (first, last) => sortKey separator first last line
    | none => line
  let less (x y : Bytes) : Bool :=
    if numeric then leadingNumber x < leadingNumber y else !before y x
  let ordered (x y : Bytes) : Bool :=
    let (x, y) := if reversed then (y, x) else (x, y)
    less (keyOf x) (keyOf y) || (!less (keyOf y) (keyOf x) && before x y)
  onLines "sort" a.operands fun ls =>
    let sorted := ls.mergeSort ordered
    if a.has 'u' then
      sorted.foldr (fun l rest => match rest with
        | next :: _ =>
          if !less (keyOf l) (keyOf next) && !less (keyOf next) (keyOf l) then l :: rest.drop 1
          else l :: rest
        | [] => [l]) []
    else sorted

/-- Joins equal lines that follow each other. -/
def uniq : Tool := fun arguments =>
  let a := split [] arguments
  onLines "uniq" a.operands fun ls =>
    let groups := ls.splitBy fun x y => x == y
    let groups := groups.filter fun g =>
      if a.has 'd' then 1 < g.length else if a.has 'u' then g.length == 1 else true
    groups.map fun g =>
      let count := toString g.length
      let start := if a.has 'c' then "".pushn ' ' (7 - count.length) ++ count ++ " " else ""
      Text.bytesOf start ++ g.headD []

/-- The numbers of a list such as `1,3-5`; an open range goes up to a limit. -/
def numberList (limit : Nat) (s : String) : List Nat :=
  (s.splitOn ",").flatMap fun part =>
    match part.splitOn "-" with
    | [one] => one.toNat?.toList
    | [first, last] =>
      let lo := numberOf (some first) 1
      let hi := if last.isEmpty then limit else numberOf (some last) 0
      (List.range (hi + 1)).filter fun n => lo ≤ n
    | _ => []

/-- Cuts fields, or bytes, out of lines. -/
def cut : Tool := fun arguments =>
  let a := split ['d', 'f', 'c', 'b'] arguments
  let separator := ((a.value? 'd').bind fun s => (Text.bytesOf s).head?).getD 9
  onLines "cut" a.operands fun ls =>
    match a.value? 'f' with
    | some list =>
      ls.filterMap fun l =>
        let parts := l.splitOn separator
        if parts.length < 2 then (if a.has 's' then none else some l)
        else
          let kept := numberList parts.length list
          let chosen := (parts.zipIdx 1).filterMap fun (p, i) =>
            if kept.contains i then some p else none
          some ([separator].intercalate chosen)
    | none =>
      let list := (a.value? 'c').getD ((a.value? 'b').getD "")
      ls.map fun l =>
        let kept := numberList l.length list
        (l.zipIdx 1).filterMap fun (b, i) => if kept.contains i then some b else none

/-- The characters of a set of `tr`. -/
def characterSet : Nat → List Char → List Char
  | 0, _ => []
  | _ + 1, [] => []
  | n + 1, '[' :: ':' :: cs =>
    let name := String.ofList (cs.takeWhile (· != ':'))
    let ranges := (Bracket.classes.lookup name).getD []
    let all := (List.range 256).map Char.ofNat
    all.filter (fun c => ranges.any fun (lo, hi) => lo ≤ c && c ≤ hi) ++
      characterSet n ((cs.dropWhile (· != ':')).drop 2)
  | n + 1, '\\' :: c :: cs =>
    match c with
    | 'n' => '\n' :: characterSet n cs
    | 't' => '\t' :: characterSet n cs
    | 'r' => '\r' :: characterSet n cs
    | c =>
      let digits := ((c :: cs).takeWhile fun d => '0' ≤ d && d ≤ '7').take 3
      if digits.isEmpty then c :: characterSet n cs
      else Char.ofNat (digits.foldl (fun k d => k * 8 + (d.toNat - 48)) 0) ::
        characterSet n ((c :: cs).drop digits.length)
  | n + 1, lo :: '-' :: hi :: cs =>
    ((List.range (hi.toNat + 1)).filter fun k => lo.toNat ≤ k).map Char.ofNat ++ characterSet n cs
  | n + 1, c :: cs => c :: characterSet n cs

/-- Replaces or removes characters. -/
def tr : Tool := fun arguments => do
  let a := split [] arguments
  match a.operands with
  | [] =>
    Action.complain "tr: missing operand"
    return ← Action.fail (hint "tr")
  | [only] =>
    unless a.has 'd' || a.has 's' do
      Action.complain ("tr: missing operand after " ++ quoted only)
      Action.complain "Two strings must be given when translating."
      return ← Action.fail (hint "tr")
  | _ => pure ()
  let set (i : Nat) : List Char :=
    let s := byteText (a.operands[i]?.getD "")
    characterSet (s.length + 1) s.toList
  let first := set 0
  let isIn (c : Char) : Bool := first.contains c != (a.has 'c' || a.has 'C')
  let input := (← Action.readFile "-").toOption.getD []
  let toByte (c : Char) : UInt8 := c.toNat.toUInt8
  if a.has 'd' then
    Action.out ((chars input).filterMap fun c => if isIn c then none else some (toByte c))
  else
    let second := set 1
    let last := second.getLast?.getD ' '
    let change (c : Char) : Char :=
      if !isIn c then c
      else if a.has 'c' || a.has 'C' then last
      else match first.idxOf? c with
        | some i => if second.isEmpty then c else second[i]?.getD last
        | none => c
    let changed := (chars input).map change
    let squeezed := set (a.operands.length - 1)
    let kept := if a.has 's' then
        (changed.foldl (fun (done : List Char) c =>
          if done.head? == some c && squeezed.contains c then done else c :: done) []).reverse
      else changed
    Action.out (kept.map toByte)
  return 0

/-- Finds lines. -/
def grep : Tool := fun arguments => do
  let a := split ['e', 'm'] arguments
  let (patterns, files) := match a.values 'e' with
    | [] => (a.operands.take 1, a.operands.drop 1)
    | found => (found, a.operands)
  if patterns.isEmpty then
    Action.complain "Usage: grep [OPTION]... PATTERNS [FILE]..."
    return 2
  let fold (cs : List Char) : List Char := if a.has 'i' then cs.map Char.toLower else cs
  let alternatives := patterns.flatMap fun p => if a.has 'E' then p.splitOn "|" else [p]
  let expressions := alternatives.map fun p =>
    let p := String.ofList (fold (byteText p).toList)
    if a.has 'F' then Regex.literal p else Regex.ofText (a.has 'E') p
  let fits (line : Bytes) : Bool :=
    let cs := fold (chars line)
    let found := expressions.any fun r =>
      if a.has 'x' then Regex.occursIn (.lineStart :: r ++ [.lineEnd]) cs else r.occursIn cs
    found != a.has 'v'
  let mut fine := true
  let mut matched := false
  let names := if files.isEmpty then ["-"] else files
  for name in names do
    match ← Action.readFile name with
    | .error e =>
      fine := false
      Action.complain s!"grep: {name}: {e.reason}"
    | .ok content =>
      let start := if 1 < names.length && !a.has 'h' then name ++ ":" else ""
      let found := ((linesOf content).zipIdx 1).filter fun (line, _) => fits line
      matched := matched || !found.isEmpty
      if a.has 'q' then pure ()
      else if a.has 'c' then Action.sayLine (start ++ toString found.length)
      else if a.has 'l' then
        unless found.isEmpty do Action.sayLine name
      else
        for (line, i) in found do
          let number := if a.has 'n' then toString i ++ ":" else ""
          Action.out (Text.bytesOf (start ++ number) ++ line ++ [10])
  return if !fine then 2 else if matched then 0 else 1

/-! ### Editing lines -/

/-- A line that an edit names. -/
inductive Address where
  | line (n : Nat)
  | lastLine
  | matching (r : Regex)
  deriving DecidableEq, Repr

/-- Which lines an edit is for. -/
inductive Selection where
  | every
  | one (a : Address)
  /-- The lines from one to another. -/
  | range (first last : Address)
  /-- The other lines. -/
  | except (s : Selection)
  deriving DecidableEq, Repr

/-- What is done to a line. -/
inductive Edit where
  | delete
  | print
  /-- Prints the number of the line. -/
  | number
  | quit
  /-- Replaces matches; the line is printed after a change if that is wanted. -/
  | substitute (r : Regex) (by_ : List Char) (everywhere prints : Bool)
  deriving DecidableEq, Repr

/-- Splits at the first delimiter that no backslash protects. -/
def untilDelimiter (d : Char) : List Char → List Char × List Char
  | [] => ([], [])
  | '\\' :: c :: cs =>
    let (found, rest) := untilDelimiter d cs
    ((if c == d then [c] else ['\\', c]) ++ found, rest)
  | c :: cs =>
    if c == d then ([], cs)
    else
      let (found, rest) := untilDelimiter d cs
      (c :: found, rest)

/-- Reads an address; returns what follows it. -/
def readAddress? (extended : Bool) (cs : List Char) : Option (Address × List Char) :=
  match cs with
  | '$' :: cs => some (.lastLine, cs)
  | '/' :: cs =>
    let (pattern, rest) := untilDelimiter '/' cs
    some (.matching (Regex.ofText extended (.ofList pattern)), rest)
  | cs =>
    let digits := cs.takeWhile Char.isDigit
    if digits.isEmpty then none
    else some (.line (numberOf (some (.ofList digits)) 0), cs.drop digits.length)

/-- Reads which lines an edit is for; returns what follows it. -/
def readSelection (extended : Bool) (cs : List Char) : Selection × List Char :=
  let (selection, cs) : Selection × List Char := match readAddress? extended cs with
    | none => (.every, cs)
    | some (first, ',' :: rest) =>
      match readAddress? extended rest with
      | some (last, rest) => (.range first last, rest)
      | none => (.one first, ',' :: rest)
    | some (first, rest) => (.one first, rest)
  match cs.dropWhile (· == ' ') with
  | '!' :: cs => (.except selection, cs)
  | cs => (selection, cs)

/-- Reads an edit; returns what follows it. -/
def readEdit? (extended : Bool) (cs : List Char) : Option ((Selection × Edit) × List Char) :=
  let (selection, cs) := readSelection extended cs
  match cs with
  | 'd' :: cs => some ((selection, .delete), cs)
  | 'p' :: cs => some ((selection, .print), cs)
  | '=' :: cs => some ((selection, .number), cs)
  | 'q' :: cs => some ((selection, .quit), cs)
  | 's' :: d :: cs =>
    let (pattern, rest) := untilDelimiter d cs
    let (by_, rest) := untilDelimiter d rest
    let flags := rest.takeWhile fun c => c == 'g' || c == 'p'
    let r := Regex.ofText extended (.ofList pattern)
    let edit := Edit.substitute r by_ (flags.contains 'g') (flags.contains 'p')
    some ((selection, edit), rest.drop flags.length)
  | _ => none

/-- Reads edits that are separated by semicolons or line feeds. -/
def readEdits? (extended : Bool) : Nat → List Char → Option (List (Selection × Edit))
  | 0, _ => none
  | n + 1, cs =>
    match cs.dropWhile fun c => c.isWhitespace || c == ';' with
    | [] => some []
    | cs => do
      let (edit, rest) ← readEdit? extended cs
      return edit :: (← readEdits? extended n rest)

/-- The text that takes the place of a match. -/
def replacementOf (found : List Char) : List Char → List Char
  | [] => []
  | '\\' :: 'n' :: cs => '\n' :: replacementOf found cs
  | '\\' :: c :: cs => c :: replacementOf found cs
  | '&' :: cs => found ++ replacementOf found cs
  | c :: cs => c :: replacementOf found cs

/-- Replaces matches in a line. -/
def substitute (r : Regex) (by_ : List Char) (everywhere : Bool) :
    Nat → Bool → List Char → List Char
  | 0, _, cs => cs
  | n + 1, atStart, cs =>
    match r.find? atStart cs with
    | none => cs
    | some (before, found, after) =>
      let done := before ++ replacementOf found by_
      if !everywhere then done ++ after
      else match found, after with
        | [], [] => done
        | [], c :: after => done ++ c :: substitute r by_ everywhere n false after
        | _, after =>
          if after.isEmpty then done else done ++ substitute r by_ everywhere n false after

/-- A line that is being edited. -/
structure Line where
  number : Nat
  /-- The number of the last line. -/
  total : Nat
  text : List Char
  deriving DecidableEq, Repr

/-- Whether an address names a line. -/
def Address.names (l : Line) : Address → Bool
  | .line n => n == l.number
  | .lastLine => l.number == l.total
  | .matching r => r.occursIn l.text

/-- Whether a range that starts at a line goes on behind it. -/
def Address.liesBehind (l : Line) : Address → Bool
  | .line n => l.number < n
  | .lastLine => l.number < l.total
  | .matching _ => true

/-- Whether an edit is for a line, and whether its range goes on; `open_` tells that the range has
started before. -/
def Selection.holds (l : Line) (open_ : Bool) : Selection → Bool × Bool
  | .every => (true, false)
  | .one a => (a.names l, false)
  | .range first last =>
    if open_ then match last with
      | .matching r => (true, !r.occursIn l.text)
      | last => (true, last.liesBehind l)
    else if first.names l then (true, last.liesBehind l)
    else (false, false)
  | .except s =>
    let (held, goesOn) := s.holds l open_
    (!held, goesOn)

/-- What edits make of a line. -/
structure EditedLine where
  /-- What is printed at the end. -/
  text : Option (List Char)
  /-- What was printed before. -/
  printed : List (List Char) := []
  /-- Whether no line follows. -/
  stop : Bool := false
  /-- Which of the ranges go on, the last edit first. -/
  open_ : List Bool := []
  deriving DecidableEq, Repr

/-- Does an edit to a line. -/
def editStep (l : Line) (e : EditedLine) (s : Selection) (edit : Edit) (wasOpen : Bool) :
    EditedLine :=
  match e.text with
  | none => { e with open_ := wasOpen :: e.open_ }
  | some cs =>
    if e.stop then { e with open_ := wasOpen :: e.open_ }
    else
      let (held, goesOn) := s.holds { l with text := cs } wasOpen
      let e := { e with open_ := goesOn :: e.open_ }
      if !held then e
      else match edit with
        | .delete => { e with text := none }
        | .print => { e with printed := e.printed ++ [cs] }
        | .number => { e with printed := e.printed ++ [(toString l.number).toList] }
        | .quit => { e with stop := true }
        | .substitute r by_ everywhere prints =>
          let changed := substitute r by_ everywhere (cs.length + 2) true cs
          let shown := prints && r.occursIn cs
          { e with text := some changed, printed := e.printed ++ if shown then [changed] else [] }

/-- Edits all lines of a content; `quiet` leaves out what no edit prints. -/
def editAll (edits : List (Selection × Edit)) (quiet : Bool) (ls : List Bytes) : Bytes :=
  let total := ls.length
  let (out, _) := (ls.zipIdx 1).foldl (fun (out, ranges) (line, i) =>
    match ranges with
    | none => (out, none)
    | some ranges =>
      let text := chars line
      let e := (edits.zip ranges).foldl (fun e ((s, edit), wasOpen) =>
        editStep ⟨i, total, text⟩ e s edit wasOpen) { text := some text }
      let shown := e.printed ++ if quiet then [] else e.text.toList
      (out ++ shown.flatMap fun cs => cs.map (fun c => c.toNat.toUInt8) ++ [10],
        if e.stop then none else some e.open_.reverse))
    (([] : Bytes), some (edits.map fun _ => false))
  out

/-- Edits lines, in the files themselves if that is wanted. -/
def sed : Tool := fun arguments => do
  let a := split ['e'] arguments
  let (scripts, files) := match a.values 'e' with
    | [] => (a.operands.take 1, a.operands.drop 1)
    | found => (found, a.operands)
  let script := (byteText ("\n".intercalate scripts)).toList
  let some edits := readEdits? (a.has 'E' || a.has 'r') (script.length + 1) script
    | Action.fail ("sed: -e expression #1, char 1: unknown command: \x60" ++
        String.ofList (script.take 1) ++ "\x27")
  if a.has 'i' then
    forEach files fun path => do
      let edited ← Action.onDisk fun d => do
        d.write ⟨path⟩ (editAll edits (a.has 'n') (linesOf (← d.read ⟨path⟩)))
      return edited.mapError fun e => s!"sed: can\x27t read {path}: {e.reason}"
  else
    let (found, fine) ← contents "sed" files
    Action.out (editAll edits (a.has 'n') (found.flatMap linesOf))
    return if fine then 0 else 2

end LabelForge.Shell.Tool
