/-!
# LabelForge.CommandLine.Grammar

**Options and operands.** The words of a command line are options, which start with a hyphen, and
operands. A *grammar* lists the options of one command; reading by it gives the options and the
operands that were given, or the reason for which the command line is refused.

Design points:

* The value of an option is the next word, or stands behind an equals sign. A next word that
  starts with a hyphen is no value, unless it is a single hyphen.
* Words are read from left to right and the first one that cannot be accepted decides, so a wish
  for help counts only if everything before it is in order.
* Reading stops at a word that names another command.
-/

namespace LabelForge.CommandLine

/-- What an option takes. -/
inductive OptionKind where
  /-- Nothing; it is given at most once. -/
  | flag
  /-- Nothing; it counts how often it is given. -/
  | counter
  /-- A value of a certain form; it is given at most once. -/
  | value (accepts : String → Bool)

/-- An option of a grammar. -/
structure OptionSpec where
  name : String
  /-- The letter that stands for the option behind a single hyphen. -/
  letter : Option Char := none
  kind : OptionKind

/-- The options and operands of a command. -/
structure Grammar where
  options : List OptionSpec
  /-- How many operands there may be. -/
  operands : Nat := 0
  /-- The words that start another command. -/
  commands : List String := []
  /-- Whether the version may be asked for. -/
  hasVersion : Bool := false

/-- Why a command line is not obeyed. -/
inductive Refusal where
  /-- It is not well-formed. -/
  | usage
  /-- It asks for help. -/
  | help
  /-- It asks for the version. -/
  | version
  deriving DecidableEq, Repr

/-- What was given on a command line. -/
structure Given where
  /-- The options in their order, each with its value; a flag has an empty one. -/
  options : List (String × String) := []
  operands : List String := []
  deriving DecidableEq, Repr

namespace Given

/-- Whether an option was given. -/
def has (g : Given) (name : String) : Bool :=
  g.options.any fun p => p.1 == name

/-- The value of an option. -/
def value? (g : Given) (name : String) : Option String :=
  g.options.lookup name

/-- How often an option was given. -/
def count (g : Given) (name : String) : Nat :=
  (g.options.filter fun p => p.1 == name).length

/-- Adds an option. -/
def add (g : Given) (name value : String) : Given :=
  { g with options := g.options ++ [(name, value)] }

/-- Adds an option that may be given only once. -/
def addOnce (g : Given) (name value : String) : Except Refusal Given :=
  if g.has name then .error .usage else .ok (g.add name value)

end Given

/-- A word by its form. -/
inductive Word where
  /-- Two hyphens: all that follows are operands. -/
  | separator
  /-- An option by name, with the value behind the equals sign. -/
  | named (name : String) (value : Option String)
  /-- Options by letter. -/
  | letters (cs : List Char)
  /-- An operand, a value or a command. -/
  | plain
  deriving DecidableEq, Repr

/-- The form of a word. -/
def Word.ofText (s : String) : Word :=
  match s.toList with
  | ['-', '-'] => .separator
  | '-' :: '-' :: cs =>
    .named (.ofList (cs.takeWhile (· != '=')))
      (match cs.dropWhile (· != '=') with
        | [] => none
        | _ :: value => some (.ofList value))
  | ['-'] => .plain
  | '-' :: cs => .letters cs
  | _ => .plain

namespace Grammar

/-- Adds an operand; no operand is empty. -/
def addOperand (g : Grammar) (given : Given) (text : String) : Except Refusal Given :=
  if given.operands.length < g.operands && !text.isEmpty then
    .ok { given with operands := given.operands ++ [text] }
  else .error .usage

/-- Adds an option without a value. -/
def addPlain (given : Given) (o : OptionSpec) : Except Refusal Given :=
  match o.kind with
  | .flag => given.addOnce o.name ""
  | .counter => .ok (given.add o.name "")
  | .value _ => .error .usage

/-- Adds an option with a value. -/
def addValue (given : Given) (name : String) (accepts : String → Bool) (value : String) :
    Except Refusal Given :=
  if accepts value then given.addOnce name value else .error .usage

/-- Adds the option of a letter. -/
def addLetter (g : Grammar) (given : Given) (c : Char) : Except Refusal Given :=
  match g.options.find? fun o => o.letter == some c with
  | some o => addPlain given o
  | none =>
    if c == 'h' then .error .help
    else if c == 'V' && g.hasVersion then .error .version
    else .error .usage

/-- Why a name that belongs to no option is refused. -/
def refusalOf (g : Grammar) (name : String) (value : Option String) : Refusal :=
  if value.isSome then .usage
  else if name == "help" then .help
  else if name == "version" && g.hasVersion then .version
  else .usage

/-- Reads words. Returns what was given, and the words from the first command on. -/
def read (g : Grammar) (given : Given) : List String → Except Refusal (Given × List String)
  | [] => .ok (given, [])
  | word :: rest =>
    match Word.ofText word with
    | .separator => (rest.foldlM g.addOperand given).map fun given => (given, [])
    | .letters cs =>
      match cs.foldlM g.addLetter given with
      | .error e => .error e
      | .ok given => g.read given rest
    | .plain =>
      if g.commands.contains word then .ok (given, word :: rest)
      else match g.addOperand given word with
        | .error e => .error e
        | .ok given => g.read given rest
    | .named name value =>
      match g.options.find? fun o => o.name == name with
      | none => .error (g.refusalOf name value)
      | some o =>
        match o.kind, value, rest with
        | .value accepts, some value, rest =>
          match addValue given name accepts value with
          | .error e => .error e
          | .ok given => g.read given rest
        | .value accepts, none, value :: rest =>
          if Word.ofText value = .plain then
            match addValue given name accepts value with
            | .error e => .error e
            | .ok given => g.read given rest
          else .error .usage
        | .value _, none, [] => .error .usage
        | _, some _, _ => .error .usage
        | _, none, rest =>
          match addPlain given o with
          | .error e => .error e
          | .ok given => g.read given rest
termination_by words => words.length

end Grammar

end LabelForge.CommandLine
