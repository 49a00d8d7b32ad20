import LabelForge.Shell.Syntax

/-!
# LabelForge.Shell.Parser

**Reading shell scripts.** The parser walks the characters of a script once, from left to right.

Design points:

* A script is read line by line. What stands before a fault is kept, because it runs before the
  fault is noticed.
* The text of a here-document is cut out of the script when its redirection is read, so the rest
  of the line goes on where it was.
* All functions are recursive in one number, which is a bound on the depth of the recursion. It is
  computed from the length of the script.
-/

namespace LabelForge.Shell

/-- Why a script cannot be read. -/
inductive SyntaxFault where
  /-- A quote is not closed. -/
  | openQuote
  /-- A back quote is not closed. -/
  | openBackquote
  /-- Something else is not closed. -/
  | missing (token : String)
  /-- A loop has no variable. -/
  | loopVariable
  /-- Something stands where it cannot; something else may be the only thing that can. -/
  | unexpected (token : String) (expecting : Option String)
  deriving DecidableEq, Repr

/-- The message of a fault. -/
def SyntaxFault.message : SyntaxFault → String
  | .openQuote => "Syntax error: Unterminated quoted string"
  | .openBackquote => "Syntax error: EOF in backquote substitution"
  | .missing token => "Syntax error: Missing \x27" ++ token ++ "\x27"
  | .loopVariable => "Syntax error: Bad for loop variable"
  | .unexpected token none => s!"Syntax error: {token} unexpected"
  | .unexpected token (some other) => s!"Syntax error: {token} unexpected (expecting {other})"

/-- What is left of a script, and the number of its first line. -/
structure Cursor where
  rest : List Char
  line : Nat
  deriving Repr, Inhabited

/-- A parser. A fault comes with its line. -/
abbrev Parser := StateT Cursor (Except (SyntaxFault × Nat))

namespace Parser

/-- Fails at the end of the script, which lies behind everything that is left. -/
def failAtEnd (fault : SyntaxFault) : Parser α := do
  let c ← get
  throw (fault, c.line + c.rest.count '\n')

/-- The script ends too early. -/
def unfinished : Parser α := failAtEnd (.unexpected "end of file" none)

/-! ### Characters -/

def dollar : Char := '$'
def backquote : Char := '\x60'
def apostrophe : Char := '\x27'
def openBrace : Char := '\x7b'
def closeBrace : Char := '\x7d'

/-- Whether a character may start a name. -/
def isNameStart (c : Char) : Bool := c.isAlpha || c == '_'

/-- Whether a character may stand in a name. -/
def isNameChar (c : Char) : Bool := c.isAlphanum || c == '_'

/-- Whether a character is the name of a special parameter. -/
def isSpecial (c : Char) : Bool :=
  c == '@' || c == '*' || c == '#' || c == '?' || c == '!' || c == '-' || c == dollar

/-- What is left. -/
def rest : Parser (List Char) := return (← get).rest

/-- The next character. -/
def peek : Parser (Option Char) := return (← rest).head?

/-- Passes over characters. -/
def skip (n : Nat) : Parser Unit :=
  modify fun c => {
    rest := c.rest.drop n
    line := c.line + (c.rest.take n).count '\n' }

/-- Whether the given text comes next. -/
def looksAt (s : String) : Parser Bool := return s.toList.isPrefixOf (← rest)

/-- Takes the characters for which a condition holds. -/
def takeWhile (p : Char → Bool) : Parser (List Char) := do
  let cs := (← rest).takeWhile p
  skip cs.length
  return cs

/-- A text between double quotes. -/
def inQuotes (s : String) : String := "\"" ++ s ++ "\""

/-- Whether a character ends a word. -/
def isMeta (c : Char) : Bool :=
  c == ' ' || c == '\t' || c == '\n' || c == ';' || c == '&' || c == '|' || c == '(' || c == ')' ||
    c == '<' || c == '>'

/-- The words that are part of the grammar where a command may start. -/
def reservedWords : List String :=
  ["if", "then", "elif", "else", "fi", "while", "until", "for", "do", "done", "case", "esac", "in",
    "!", String.singleton openBrace, String.singleton closeBrace]

/-- The words that end a list of commands. -/
def closingWords : List String :=
  ["then", "elif", "else", "fi", "do", "done", "esac", String.singleton closeBrace]

/-- How messages name what comes next. -/
def tokenName (cs : List Char) : String :=
  match cs with
  | [] => "end of file"
  | '\n' :: _ => "newline"
  | c :: rest =>
    if c == '<' || c == '>' then "redirection"
    else if isMeta c then
      let twice := rest.head? == some c && c != '(' && c != ')'
      inQuotes (if twice then .ofList [c, c] else c.toString)
    else
      let w := String.ofList (cs.takeWhile fun c => !isMeta c)
      if reservedWords.contains w then inQuotes w else "word"

/-- Passes over blanks and joined lines. -/
def skipBlanks (cs : List Char) : Nat :=
  match cs with
  | ' ' :: cs => skipBlanks cs + 1
  | '\t' :: cs => skipBlanks cs + 1
  | '\\' :: '\n' :: cs => skipBlanks cs + 2
  | _ => 0

/-- Passes over blanks, joined lines and a comment. -/
def blanks : Parser Unit := do
  skip (skipBlanks (← rest))
  if (← peek) == some '#' then discard (takeWhile (· != '\n'))

/-- Fails at what comes next. The end of a line counts as part of the next line. -/
def unexpected (expecting : Option String) : Parser α := do
  blanks
  let c ← get
  let line := if c.rest.head? == some '\n' then c.line + 1 else c.line
  throw (.unexpected (tokenName c.rest) expecting, line)

/-- Passes over blanks, comments and line ends. -/
def newlines : Nat → Parser Unit
  | 0 => return
  | n + 1 => do
    blanks
    if (← peek) == some '\n' then
      skip 1
      newlines n

/-- The plain word that comes next, up to the end of the word. -/
def plainWord : Parser String := return .ofList ((← rest).takeWhile fun c => !isMeta c)

/-- The reserved word that comes next, if there is one. -/
def reserved? : Parser (Option String) := do
  let w ← plainWord
  return if reservedWords.contains w then some w else none

/-- The characters up to the end of an arithmetic expression, and how many those are with the
end. -/
def arithmeticText : List Char → Nat → Option (List Char)
  | ')' :: ')' :: _, 0 => some []
  | '(' :: cs, depth => (arithmeticText cs (depth + 1)).map ('(' :: ·)
  | ')' :: cs, depth => (arithmeticText cs (depth - 1)).map (')' :: ·)
  | c :: cs, depth => (arithmeticText cs depth).map (c :: ·)
  | [], _ => none

/-- The characters up to a closing back quote, without the backslashes that protect, and how many
characters those are with the quote. -/
def backquoted : List Char → Option (List Char × Nat)
  | [] => none
  | '\\' :: c :: cs =>
    let kept := if c == backquote || c == '\\' || c == dollar then [c] else ['\\', c]
    (backquoted cs).map fun (text, n) => (kept ++ text, n + 2)
  | c :: cs =>
    if c == backquote then some ([], 1)
    else (backquoted cs).map fun (text, n) => (c :: text, n + 1)

/-- The text of a here-document and what follows it. -/
def hereText (delimiter : List Char) (tabs : Bool) : Nat → List Char → List Char × List Char
  | 0, cs => ([], cs)
  | n + 1, cs =>
    let line := cs.takeWhile (· != '\n')
    let after := (cs.dropWhile (· != '\n')).drop 1
    let line := if tabs then line.dropWhile (· == '\t') else line
    if cs.isEmpty then ([], [])
    else if line == delimiter then ([], after)
    else
      let ended := cs.contains '\n'
      let (text, after) := hereText delimiter tabs n after
      (line ++ (if ended then ['\n'] else []) ++ text, after)

/-- The characters of a word, and whether some of them are quoted. -/
def delimiterOf (w : Word) : List Char × Bool :=
  w.foldl (fun (cs, quoted) piece =>
    match piece with
    | .text chars q => (cs ++ chars.toList, quoted || q)
    | _ => (cs, quoted)) ([], false)

/-- The change of a parameter that stands behind its name. -/
def changeSigns : List (String × Substitute × Bool) := [
  (":-", .default, true), ("-", .default, false), (":=", .assign, true), ("=", .assign, false),
  (":+", .alternative, true), ("+", .alternative, false), (":?", .failure, true),
  ("?", .failure, false)]

/-- The signs in front of a pattern that is trimmed: the sign, whether it is trimmed at the start,
and whether the longest part is. -/
def trimSigns : List (String × Bool × Bool) :=
  [("##", true, true), ("#", true, false), ("%%", false, true), ("%", false, false)]

/-- Finds the sign that comes next. -/
def sign? (signs : List (String × α)) : Parser (Option α) := do
  let cs ← rest
  match signs.find? fun (s, _) => s.toList.isPrefixOf cs with
  | none => return none
  | some (s, a) =>
    skip s.length
    return some a

/-- The name of a parameter. -/
def parameterName : Parser String := do
  match ← peek with
  | none => unfinished
  | some c =>
    if isNameStart c then return .ofList (← takeWhile isNameChar)
    else if c.isDigit then return .ofList (← takeWhile Char.isDigit)
    else if isSpecial c then
      skip 1
      return c.toString
    else unexpected none

/-- Passes over a character that must come next. -/
def expect (c : Char) : Parser Unit := do
  if (← peek) == some c then skip 1 else unexpected (some (inQuotes c.toString))

/-- Passes over a reserved word that must come next. -/
def keyword (w : String) : Parser Unit := do
  blanks
  if (← plainWord) == w then skip w.length else unexpected (some (inQuotes w))

/-- Parses a text of its own. -/
def within (text : List Char) (p : Parser α) : Parser α := do
  match p.run ⟨text, (← get).line⟩ with
  | .ok (a, _) => return a
  | .error e => throw e

/-- Passes over the end of a command. Returns whether nobody waits for the command. -/
def separator : Parser Bool := do
  blanks
  if (← looksAt ";;") then return false
  match ← peek with
  | some ';' =>
    skip 1
    return false
  | some '&' =>
    skip 1
    return true
  | _ => return false

/-- Whether the next characters start a redirection: the stream and the length of its number. -/
def redirectionStart? (cs : List Char) : Option (Option Nat × Nat) :=
  let digits := cs.takeWhile Char.isDigit
  match (cs.drop digits.length).head? with
  | some c =>
    if c == '<' || c == '>' then
      some (if digits.isEmpty then none else (String.ofList digits).toNat?, digits.length)
    else none
  | none => none

/-- The signs of redirections, longer ones first. -/
def redirectSigns : List (String × Redirect) := [
  ("<<-", .here), ("<<", .here), ("<&", .duplicate), ("<", .input), (">>", .append),
  (">&", .duplicate), (">|", .output), (">", .output)]

/-- Whether the next characters assign a value: the length of the name. -/
def assignmentStart? (cs : List Char) : Option Nat :=
  let name := cs.takeWhile isNameChar
  match cs.head?, (cs.drop name.length).head? with
  | some c, some '=' => if isNameStart c then some name.length else none
  | _, _ => none

/-- Whether the next characters name a command that is being defined: the length of the name, and
that of all characters up to the closing parenthesis. -/
def definitionStart? (cs : List Char) : Option (Nat × Nat) :=
  let name := cs.takeWhile isNameChar
  match cs.head?, (cs.drop name.length).dropWhile (· == ' ') with
  | some c, '(' :: after =>
    match after.dropWhile (· == ' ') with
    | ')' :: rest => if isNameStart c then some (name.length, cs.length - rest.length) else none
    | _ => none
  | _, _ => none

mutual

/-- The piece behind a dollar sign. -/
def dollarPiece (quoted : Bool) : Nat → Parser Piece
  | 0 => unfinished
  | n + 1 => do
    if (← looksAt "((") then
      match arithmeticText ((← rest).drop 2) 0 with
      | some text =>
        skip (text.length + 4)
        return .sum (← within text (pieces (fun _ => false) true n)) quoted
      | none => failAtEnd (.missing "))")
    else if (← looksAt "(") then
      skip 1
      let script ← list n
      expect ')'
      return .output script quoted
    else if (← peek) == some openBrace then
      skip 1
      bracePiece quoted n
    else
      match ← peek with
      | some c =>
        if isNameStart c then return .value (.ofList (← takeWhile isNameChar)) quoted
        else if c.isDigit || isSpecial c then
          skip 1
          return .value c.toString quoted
        else return .text dollar.toString true
      | none => return .text dollar.toString true

/-- The piece behind a dollar sign and a brace. -/
def bracePiece (quoted : Bool) : Nat → Parser Piece
  | 0 => unfinished
  | n + 1 => do
    let close : Parser Unit := do
      match ← peek with
      | none => failAtEnd (if quoted then .openQuote else .missing (String.singleton closeBrace))
      | _ => expect closeBrace
    let strange : Parser Piece := do
      discard (pieces (· == closeBrace) quoted n)
      close
      return .noChange
    let closed (piece : Piece) : Parser Piece := do
      if (← peek) == some closeBrace || (← peek).isNone then
        close
        return piece
      else strange
    let cs ← rest
    if cs.head? == some '#' && (cs.drop 1).head? != some closeBrace then
      skip 1
      let name ← parameterName
      return ← closed (.length name quoted)
    match cs.head? with
    | none => close
    | some c =>
      unless isNameStart c || c.isDigit || isSpecial c do return ← strange
    let name ← parameterName
    match ← sign? changeSigns with
    | some (kind, orEmpty) =>
      let word ← pieces (· == closeBrace) quoted n
      close
      return .instead name kind orEmpty word quoted
    | none =>
      match ← sign? trimSigns with
      | some (atStart, longest) =>
        let word ← pieces (· == closeBrace) false n
        close
        return .trimmed name atStart longest word quoted
      | none => closed (.value name quoted)

/-- The pieces up to a character that ends the word. -/
def pieces (ends : Char → Bool) (quoted : Bool) : Nat → Parser Word
  | 0 => unfinished
  | n + 1 => do
    match ← peek with
    | none => return []
    | some c =>
      if ends c then return []
      else if c == '\\' then
        match (← rest).drop 1 with
        | [] =>
          skip 1
          return [.text "\\" true]
        | '\n' :: _ =>
          skip 2
          pieces ends quoted n
        | d :: _ =>
          skip 2
          let protects :=
            !quoted || d == dollar || d == backquote || d == '"' || d == '\\' || ends d
          let text := if protects then d.toString else String.ofList ['\\', d]
          return .text text true :: (← pieces ends quoted n)
      else if c == dollar then
        skip 1
        let piece ← dollarPiece quoted n
        return piece :: (← pieces ends quoted n)
      else if c == backquote then
        match backquoted ((← rest).drop 1) with
        | none => failAtEnd .openBackquote
        | some (text, length) =>
          let script ← within text (list n)
          skip (length + 1)
          return .output script quoted :: (← pieces ends quoted n)
      else if c == apostrophe && !quoted then
        let text := ((← rest).drop 1).takeWhile (· != apostrophe)
        skip (text.length + 1)
        if (← peek) != some apostrophe then failAtEnd .openQuote
        skip 1
        return .text (.ofList text) true :: (← pieces ends quoted n)
      else if c == '"' && !quoted then
        skip 1
        let inner ← pieces (· == '"') true n
        if (← peek) != some '"' then failAtEnd .openQuote
        skip 1
        return .text "" true :: inner ++ (← pieces ends quoted n)
      else if c == '"' && ends closeBrace then
        -- Between braces that are quoted themselves, quotes change nothing.
        skip 1
        pieces ends quoted n
      else
        let stops (d : Char) : Bool :=
          ends d || d == '\\' || d == dollar || d == backquote ||
            (!quoted && d == apostrophe) || ((!quoted || ends closeBrace) && d == '"')
        let text ← takeWhile fun d => !stops d
        return .text (.ofList text) quoted :: (← pieces ends quoted n)

/-- A word. -/
def word : Nat → Parser Word
  | 0 => unfinished
  | n + 1 => do
    blanks
    pieces isMeta false n

/-- A redirection. -/
def redirection : Nat → Parser Redirection
  | 0 => unfinished
  | n + 1 => do
    match redirectionStart? (← rest) with
    | none => unexpected none
    | some (stream, length) =>
      skip length
      let tabs ← looksAt "<<-"
      let reads := (← peek) == some '<'
      let some kind ← sign? redirectSigns | unexpected none
      let target ← word n
      if target.isEmpty then unexpected none
      let stream := stream.getD (if reads then 0 else 1)
      match kind with
      | .here =>
        let (delimiter, quoted) := delimiterOf target
        let cs ← rest
        let lineRest := cs.takeWhile (· != '\n')
        let body := (cs.dropWhile (· != '\n')).drop 1
        let (text, after) := hereText delimiter tabs (body.length + 1) body
        modify fun c => { c with rest := lineRest ++ '\n' :: after }
        let content ← if quoted then pure [Piece.text (.ofList text) true]
          else within text (pieces (fun _ => false) true n)
        return .mk stream .here content
      | kind => return .mk stream kind target

/-- Redirections behind a command. -/
def redirections : Nat → Parser (List Redirection)
  | 0 => unfinished
  | n + 1 => do
    blanks
    if (redirectionStart? (← rest)).isSome then
      let r ← redirection n
      return r :: (← redirections n)
    else return []

/-- The rest of a simple command. -/
def simple (line : Nat) (assignments : List (String × Word)) (words : List Word)
    (found : List Redirection) : Nat → Parser Command
  | 0 => unfinished
  | n + 1 => do
    blanks
    let cs ← rest
    if (redirectionStart? cs).isSome then
      let r ← redirection n
      simple line assignments words (found ++ [r]) n
    else
      match (if words.isEmpty then assignmentStart? cs else none) with
      | some length =>
        skip (length + 1)
        let value ← pieces isMeta false n
        simple line (assignments ++ [(.ofList (cs.take length), value)]) words found n
      | none =>
        let w ← word n
        if w.isEmpty then return .simple line assignments words found
        else simple line assignments (words ++ [w]) found n

/-- The branches of a choice, behind its first word. -/
def branches : Nat → Parser (List (Script × Script) × Script)
  | 0 => unfinished
  | n + 1 => do
    let test ← body n
    keyword "then"
    let found ← body n
    blanks
    match ← plainWord with
    | "elif" =>
      skip 4
      let (others, otherwise) ← branches n
      return ((test, found) :: others, otherwise)
    | "else" =>
      skip 4
      let otherwise ← body n
      keyword "fi"
      return ([(test, found)], otherwise)
    | _ =>
      keyword "fi"
      return ([(test, found)], [])

/-- The words of a loop up to the end of the line. -/
def wordList : Nat → Parser (List Word)
  | 0 => unfinished
  | n + 1 => do
    let w ← word n
    if w.isEmpty then return []
    else return w :: (← wordList n)

/-- The patterns of an arm. -/
def patterns : Nat → Parser (List Word)
  | 0 => unfinished
  | n + 1 => do
    let w ← word n
    blanks
    if (← peek) == some '|' then
      skip 1
      return w :: (← patterns n)
    expect ')'
    return [w]

/-- The arms of a selection. -/
def arms : Nat → Parser (List (List Word × Script))
  | 0 => unfinished
  | n + 1 => do
    newlines n
    if (← plainWord) == "esac" then
      skip 4
      return []
    if (← peek) == some '(' then skip 1
    let ps ← patterns n
    let found ← list n
    blanks
    if (← looksAt ";;") then
      skip 2
      return (ps, found) :: (← arms n)
    if (← plainWord) != "esac" then unexpected (some (inQuotes ";;"))
    keyword "esac"
    return [(ps, found)]

/-- The body of a loop. -/
def loopBody : Nat → Parser Script
  | 0 => unfinished
  | n + 1 => do
    newlines n
    keyword "do"
    let found ← body n
    keyword "done"
    return found

/-- A loop over words, behind its first word. -/
def eachLoop : Nat → Parser Command
  | 0 => unfinished
  | n + 1 => do
    blanks
    let name ← plainWord
    let isName := name.toList.head?.any isNameStart && name.toList.all isNameChar
    unless isName do throw (.loopVariable, (← get).line)
    skip name.length
    newlines n
    let words ← if (← plainWord) == "in" then
        skip 2
        let ws ← wordList n
        blanks
        let next ← peek
        unless next == some ';' || next == some '\n' do unexpected none
        pure (some ws)
      else pure none
    discard separator
    let found ← loopBody n
    return .each name words found (← redirections n)

/-- A single command. -/
def command : Nat → Parser Command
  | 0 => unfinished
  | n + 1 => do
    blanks
    let line := (← get).line
    if (← peek) == some '(' then
      skip 1
      let found ← body n
      expect ')'
      return .subshell found (← redirections n)
    match ← reserved? with
    | some "if" =>
      skip 2
      let (found, otherwise) ← branches n
      return .choice found otherwise (← redirections n)
    | some "while" =>
      skip 5
      let test ← body n
      let found ← loopBody n
      return .loop true test found (← redirections n)
    | some "until" =>
      skip 5
      let test ← body n
      let found ← loopBody n
      return .loop false test found (← redirections n)
    | some "for" =>
      skip 3
      eachLoop n
    | some "case" =>
      skip 4
      let w ← word n
      newlines n
      keyword "in"
      let found ← arms n
      return .select w found (← redirections n)
    | some w =>
      if w == String.singleton openBrace then
        skip 1
        let found ← body n
        keyword (String.singleton closeBrace)
        return .group found (← redirections n)
      else unexpected none
    | none =>
      match definitionStart? (← rest) with
      | some (length, all) =>
        let name := String.ofList ((← rest).take length)
        skip all
        newlines n
        return .define name (← command n)
      | none =>
        match ← simple line [] [] [] n with
        | .simple _ [] [] [] => unexpected none
        | .simple line assignments [w] rs =>
          if (← peek) == some '(' then
            skip 1
            unexpected (some (inQuotes ")"))
          else return .simple line assignments [w] rs
        | c => if (← peek) == some '(' then unexpected none else return c

/-- The stages of a pipeline. -/
def stages : Nat → Parser (List Command)
  | 0 => unfinished
  | n + 1 => do
    let c ← command n
    blanks
    if (← looksAt "|") && !(← looksAt "||") then
      skip 1
      newlines n
      return c :: (← stages n)
    else return [c]

/-- A pipeline. -/
def pipeline : Nat → Parser Command
  | 0 => unfinished
  | n + 1 => do
    blanks
    let negated := (← plainWord) == "!"
    if negated then skip 1
    match ← stages n with
    | [c] => return if negated then .pipeline true [c] else c
    | cs => return .pipeline negated cs

/-- Commands that depend on those before, behind the first of them. -/
def chain (first : Command) : Nat → Parser Command
  | 0 => unfinished
  | n + 1 => do
    blanks
    if (← looksAt "&&") then
      skip 2
      newlines n
      let second ← pipeline n
      chain (.both first second) n
    else if (← looksAt "||") then
      skip 2
      newlines n
      let second ← pipeline n
      chain (.either first second) n
    else return first

/-- The commands of a line. -/
def lineOfCommands : Nat → Parser Script
  | 0 => unfinished
  | n + 1 => do
    let c ← chain (← pipeline n) n
    let alone ← separator
    let c := if alone then .background c else c
    blanks
    match ← peek with
    | none => return [c]
    | some '\n' => return [c]
    | some ')' => return [c]
    | some ';' => return [c]
    | some _ =>
      match ← reserved? with
      | some w =>
        if closingWords.contains w then return [c]
        else return c :: (← lineOfCommands n)
      | none => return c :: (← lineOfCommands n)

/-- The commands of something that has to have some. -/
def body : Nat → Parser Script
  | 0 => unfinished
  | n + 1 => do
    let found ← list n
    if found.isEmpty && (← peek).isSome then unexpected none else return found

/-- The commands up to something that is no command. -/
def list : Nat → Parser Script
  | 0 => unfinished
  | n + 1 => do
    newlines n
    match ← peek with
    | none => return []
    | some ')' => return []
    | some ';' => return []
    | some _ =>
      match ← reserved? with
      | some w =>
        if closingWords.contains w then return []
        else
          let cs ← lineOfCommands n
          return cs ++ (← list n)
      | none =>
        let cs ← lineOfCommands n
        return cs ++ (← list n)

end

/-- The commands of a script up to its first fault, line by line. -/
def scriptFrom : Nat → Cursor → Script × Option (SyntaxFault × Nat)
  | 0, _ => ([], none)
  | n + 1, c =>
    match (newlines n).run c with
    | .error e => ([], some e)
    | .ok ((), c) =>
      if c.rest.isEmpty then ([], none)
      else match (lineOfCommands n).run c with
        | .error e => ([], some e)
        | .ok (commands, c) =>
          match c.rest with
          | [] => (commands, none)
          | '\n' :: _ =>
            let (others, fault) := scriptFrom n c
            (commands ++ others, fault)
          | _ =>
            match (unexpected none : Parser Unit).run c with
            | .error e => ([], some e)
            | .ok _ => ([], none)

end Parser

/-- Reads a script: its commands up to the first fault, and the fault with its line. -/
def parseScript (text : String) : Script × Option (SyntaxFault × Nat) :=
  let cs := text.toList
  Parser.scriptFrom (cs.length * 12 + 64) ⟨cs, 1⟩

end LabelForge.Shell
