import LabelForge.Shell.Tool.Basic

/-!
# LabelForge.Shell.Tool.Question

**Questions.** A question is a list of words: texts and operators. It is answered while it is
read, from left to right.

Design points:

* Whether a word is an operator depends on the words behind it. Three words with an operator
  between two of them are always a question about two texts.
* A reader returns the words from the last one on that it has read, so the next word is always the
  second.
-/

namespace LabelForge.Shell.Tool

/-- A word that can be part of a question without being a text. -/
inductive Operator where
  | unary (name : String)
  | binary (name : String)
  | negation
  | both
  | either
  | opening
  | closing
  deriving DecidableEq, Repr

/-- Why a question has no answer. -/
inductive QuestionFault where
  | noNumber (text : String)
  | noOperator (text : String)
  | missingArgument (operator : String)
  | unclosed
  deriving DecidableEq, Repr

/-- The message of a fault. -/
def QuestionFault.message : QuestionFault → String
  | .noNumber text => s!"Illegal number: {text}"
  | .noOperator text => s!"{text}: unexpected operator"
  | .missingArgument operator => s!"{operator}: argument expected"
  | .unclosed => "closing paren expected"

namespace Question

/-- The operators on one text. -/
def unaryNames : List String := [
  "-r", "-w", "-x", "-e", "-f", "-d", "-c", "-b", "-p", "-u", "-g", "-k", "-s", "-t", "-z", "-n",
  "-h", "-O", "-G", "-L", "-S"]

/-- The operators between two texts. -/
def binaryNames : List String := [
  "=", "!=", "<", ">", "-eq", "-ne", "-ge", "-gt", "-le", "-lt", "-nt", "-ot", "-ef"]

/-- The operator of a word. -/
def operator? (word : String) : Option Operator :=
  if unaryNames.contains word then some (.unary word)
  else if binaryNames.contains word then some (.binary word)
  else match word with
    | "!" => some .negation
    | "-a" => some .both
    | "-o" => some .either
    | "(" => some .opening
    | ")" => some .closing
    | _ => none

/-- The operator between two texts that a word is. -/
def binary? (word : String) : Option String :=
  if binaryNames.contains word then some word else none

/-- Whether the words behind a word make it a text. -/
def isText : List String → Bool
  | [] => true
  | [_] => false
  | word :: _ => (binary? word).isSome

/-- What the first of some words is; a text is no operator. -/
def first? : List String → Option Operator
  | [] => none
  | word :: rest =>
    match operator? word with
    | some (.unary name) => if isText rest then none else some (.unary name)
    | some .opening => if rest.isEmpty then none else some .opening
    | other => other

/-- The answer to a question about one text. -/
def aboutOne (d : Disk) (op text : String) : Bool :=
  let node := (d.locate ⟨text⟩).toOption.bind d.files.at?
  match op with
  | "-n" => !text.isEmpty
  | "-z" => text.isEmpty
  | "-e" => node.isSome
  | "-f" => d.isFile ⟨text⟩
  | "-d" => d.isDir ⟨text⟩
  | "-r" => node.isSome
  | "-w" => node.isSome
  | "-O" => node.isSome
  | "-G" => node.isSome
  | "-x" => d.isDir ⟨text⟩
  | "-s" => match node with
    | some (.file content) => !content.isEmpty
    | some (.directory _) => true
    | _ => false
  | "-c" => match node with
    | some (.device _) => true
    | _ => false
  | _ => false

/-- The comparison of two numbers. -/
def comparison? : String → Option (Int → Int → Bool)
  | "-eq" => some fun a b => a == b
  | "-ne" => some fun a b => a != b
  | "-lt" => some fun a b => a < b
  | "-le" => some fun a b => a ≤ b
  | "-gt" => some fun a b => a > b
  | "-ge" => some fun a b => a ≥ b
  | _ => none

/-- The number that a text is. -/
def number (text : String) : Except QuestionFault Int :=
  let cs := text.trimAscii.toString.toList
  let digits := match cs with
    | '+' :: cs => cs
    | cs => cs
  match (String.ofList digits).toInt? with
  | some i => .ok i
  | none => .error (.noNumber text)

/-- The answer to a question about two texts. -/
def aboutTwo (d : Disk) (op a b : String) : Except QuestionFault Bool :=
  match op with
  | "=" => .ok (a == b)
  | "!=" => .ok (a != b)
  | "<" => .ok (a < b)
  | ">" => .ok (b < a)
  | "-ef" => .ok ((d.locate ⟨a⟩).toOption == (d.locate ⟨b⟩).toOption)
  | op =>
    match comparison? op with
    | some f => do return f (← number a) (← number b)
    | none => .ok false

mutual

/-- Answers questions of which one is enough. -/
def anyOf (d : Disk) : Nat → Option Operator → List String →
    Except QuestionFault (Bool × List String)
  | 0, _, _ => .error .unclosed
  | n + 1, op, words => do
    let (a, words) ← allOf d n op words
    if first? (words.drop 1) == some .either then
      let words := words.drop 2
      let (b, words) ← anyOf d n (first? words) words
      return (a || b, words)
    else return (a, words)

/-- Answers questions all of which are needed. -/
def allOf (d : Disk) : Nat → Option Operator → List String →
    Except QuestionFault (Bool × List String)
  | 0, _, _ => .error .unclosed
  | n + 1, op, words => do
    let (a, words) ← negated d n op words
    if first? (words.drop 1) == some .both then
      let words := words.drop 2
      let (b, words) ← allOf d n (first? words) words
      return (a && b, words)
    else return (a, words)

/-- Answers a question that may be negated. -/
def negated (d : Disk) : Nat → Option Operator → List String →
    Except QuestionFault (Bool × List String)
  | 0, _, _ => .error .unclosed
  | n + 1, op, words => do
    if op == some .negation then
      let rest := words.drop 1
      if rest.isEmpty then return (true, words)
      let (a, words) ← negated d n (first? rest) rest
      return (!a, words)
    else simple d n op words

/-- Answers a question about one text or two, or one between parentheses. -/
def simple (d : Disk) : Nat → Option Operator → List String →
    Except QuestionFault (Bool × List String)
  | 0, _, _ => .error .unclosed
  | _ + 1, _, [] => .ok (false, [])
  | n + 1, op, word :: rest =>
    match op with
    | some .opening =>
      if first? rest == some .closing then .ok (false, rest)
      else do
        let (a, words) ← anyOf d n (first? rest) rest
        let words := words.drop 1
        if first? words == some .closing then return (a, words) else throw .unclosed
    | some (.unary name) =>
      match rest with
      | [] => .error (.missingArgument name)
      | text :: _ => .ok (aboutOne d name text, rest)
    | _ =>
      match rest with
      | [] => .ok (!word.isEmpty, [word])
      | next :: after =>
        match binary? next, after with
        | none, _ => .ok (!word.isEmpty, word :: rest)
        | some name, [] => .error (.missingArgument name)
        | some name, b :: _ => do return (← aboutTwo d name word b, after)

end

/-- Answers a question. `truth` tells what an odd number of negations before it has made of the
answer. -/
def answer (d : Disk) (truth : Bool) (words : List String) : Except QuestionFault Bool := do
  let op := match words with
    | [_, op, _] => if (binary? op).isSome then none else first? words
    | _ => first? words
  let (a, words) ← anyOf d (words.length * 4 + 4) op words
  match words with
  | word :: _ :: _ => throw (.noOperator word)
  | _ => return a == truth

/-- Answers a question of a few words, whose first or last words can have a meaning of their
own. -/
def start (d : Disk) : Bool → List String → Except QuestionFault Bool
  | truth, [] => .ok (!truth)
  | truth, [a, op, b] =>
    if (binary? op).isSome then answer d truth [a, op, b]
    else if a == "(" && b == ")" then answer d truth [op]
    else if a == "!" then start d (!truth) [op, b]
    else answer d truth [a, op, b]
  | truth, [a, b, c, e] =>
    if a == "(" && e == ")" then answer d truth [b, c]
    else if a == "!" then start d (!truth) [b, c, e]
    else answer d truth [a, b, c, e]
  | truth, words => answer d truth words

end Question

/-- Answers a question with a status. -/
def ask (name : String) (words : List String) : Action Nat := do
  match Question.start (← get).disk true words with
  | .ok answer => return if answer then 0 else 1
  | .error fault =>
    Action.grumble s!"{name}: {fault.message}"
    return 2

/-- Asks a question. -/
def test : Tool := ask "test"

/-- Asks a question between brackets. -/
def bracket : Tool := fun arguments => do
  if arguments.getLast? == some "]" then ask "[" arguments.dropLast
  else
    Action.grumble "[: missing ]"
    return 2

end LabelForge.Shell.Tool
