import LabelForge.CommandLine.Grammar
import LabelForge.Config
import LabelForge.Logging

/-!
# LabelForge.CommandLine.Invocation

**What a command line asks for.** An invocation is one command with its options, and what was said
about messages.

Design points:

* What concerns messages may stand before the command and behind it; behind it counts more.
* A number may start with a plus sign. A path is not empty, every other text may be.
-/

namespace LabelForge

open CommandLine (OptionSpec Grammar Given Refusal)

/-- The options that making and running programs have in common. -/
structure EngineOptions where
  rules : FilePath
  input : FilePath
  store : FilePath
  config : Option FilePath := none
  /-- What the command line says about settings. -/
  overrides : Overrides := {}
  /-- The directory in which sandboxes are kept. -/
  workdir : Option FilePath := none
  /-- Where the labelled table is copied to. -/
  output : Option FilePath := none
  deriving DecidableEq, Repr

/-- A command. -/
inductive Command where
  /-- Makes a verified program. -/
  | compile (engine : EngineOptions) (expect emit : Option FilePath)
  /-- Runs a verified program on other data. -/
  | run (engine : EngineOptions)
  /-- Applies a label plan to a table. -/
  | apply (plan input output : FilePath) (marker : String)
  /-- Describes a table. -/
  | digest (input : FilePath)
  /-- Lists the verified programs of a store. -/
  | artifacts (store : FilePath)
  deriving DecidableEq, Repr

/-- When output is coloured. -/
inductive ColourChoice where
  | automatic
  | always
  | never
  deriving DecidableEq, Repr

/-- What a command line says about messages. -/
structure MessageOptions where
  /-- The level that was named. -/
  level : Option LogLevel := none
  verbose : Nat := 0
  quiet : Nat := 0
  colour : ColourChoice := .automatic
  format : LogFormat := .pretty
  file : Option FilePath := none
  deriving DecidableEq, Repr

/-- A command, and what was said about messages. -/
structure Invocation where
  command : Command
  messages : MessageOptions := {}
  deriving DecidableEq, Repr

namespace Invocation

/-! ### Grammars -/

/-- Whether a text can be a path. -/
def isPath (s : String) : Bool := !s.isEmpty

/-- The number of a text; only a zero may have a minus sign, and only if `minus` allows it. -/
def natural? (bits : Nat) (minus : Bool) (s : String) : Option Nat :=
  let (negative, digits) := match s.toList with
    | '+' :: cs => (false, cs)
    | '-' :: cs => (true, cs)
    | cs => (false, cs)
  let n := Number.digitsValue digits
  if digits.isEmpty || !digits.all Char.isDigit || n ≥ 2 ^ bits then none
  else if negative && (!minus || n != 0) then none
  else some n

/-- A number of attempts. -/
def attempts? : String → Option Nat := natural? 32 true

/-- A number of seconds. -/
def seconds? : String → Option Nat := natural? 64 false

/-- The words for the order of rules. -/
def tieBreakWords : List (String × TieBreak) := [
  ("specificity-then-priority", .specificityFirst), ("priority-then-specificity", .priorityFirst)]

/-- The words for the colours. -/
def colourWords : List (String × ColourChoice) :=
  [("auto", .automatic), ("always", .always), ("never", .never)]

/-- The words for the levels. -/
def levelWords : List (String × LogLevel) :=
  (LogLevel.all.drop 1).map fun l => (l.label, l)

/-- An option whose value is any text. -/
def ofText (name : String) : OptionSpec := { name, kind := .value fun _ => true }

/-- An option whose value is a path. -/
def ofPath (name : String) : OptionSpec := { name, kind := .value isPath }

/-- An option whose value is one of some words. -/
def ofWord (name : String) (words : List (String × α)) : OptionSpec :=
  { name, kind := .value fun s => (words.lookup s).isSome }

/-- An option whose value is a number. -/
def ofNumber (name : String) (parse? : String → Option Nat) : OptionSpec :=
  { name, kind := .value fun s => (parse? s).isSome }

/-- What may be said about messages. -/
def messageOptions : List OptionSpec := [
  { name := "verbose", letter := some 'v', kind := .counter },
  { name := "quiet", letter := some 'q', kind := .counter },
  ofWord "color" colourWords, ofWord "log-level" levelWords,
  ofWord "log-format" LogFormat.words, ofPath "log-file"]

/-- The options of making and running programs. -/
def engineOptions : List OptionSpec := [
  ofPath "rules", ofPath "input", ofPath "store", ofPath "config",
  ofWord "synthesizer" WriterKind.words, ofWord "tie-break" tieBreakWords,
  ofText "status-column", ofText "default-label", ofNumber "timeout-secs" seconds?,
  ofPath "workdir", ofPath "output"]

/-- The further options of making programs. -/
def compileOptions : List OptionSpec := [
  ofNumber "max-attempts" attempts?, { name := "strict", kind := .flag }, ofPath "expect",
  { name := "force", kind := .flag }, ofPath "emit"]

/-- The grammar of every command. -/
def grammars : List (String × Grammar) := [
  ("compile", { options := messageOptions ++ engineOptions ++ compileOptions }),
  ("run", { options := messageOptions ++ engineOptions }),
  ("apply", { options := messageOptions ++ [ofText "marker"], operands := 3 }),
  ("digest", { options := messageOptions, operands := 1 }),
  ("artifacts", { options := messageOptions ++ [ofPath "store"] })]

/-- The grammar of what stands before the command. -/
def outerGrammar : Grammar where
  options := messageOptions
  commands := "help" :: grammars.map Prod.fst
  hasVersion := true

/-! ### Reading -/

/-- Reads words by a grammar; they may not ask for more and for fewer messages. -/
def readBy (g : Grammar) (words : List String) : Except Refusal (Given × List String) := do
  let (given, rest) ← g.read {} words
  if given.has "verbose" && given.has "quiet" then throw .usage
  return (given, rest)

/-- The value of an option that must be given. -/
def demand (given : Given) (name : String) : Except Refusal String :=
  match given.value? name with
  | some value => .ok value
  | none => .error .usage

/-- The path of an option. -/
def path? (given : Given) (name : String) : Option FilePath :=
  (given.value? name).map FilePath.mk

/-- What an option says in one of some words. -/
def word? (given : Given) (name : String) (words : List (String × α)) : Option α :=
  (given.value? name).bind fun word => words.lookup word

/-- The store of a command. -/
def storeOf (given : Given) : FilePath :=
  (path? given "store").getD ⟨"rulesmith-store"⟩

/-- The options of making and running programs. -/
def engineOf (given : Given) : Except Refusal EngineOptions := do
  return {
    rules := ⟨← demand given "rules"⟩
    input := ⟨← demand given "input"⟩
    store := storeOf given
    config := path? given "config"
    overrides := {
      writer := word? given "synthesizer" WriterKind.words
      maxAttempts := (given.value? "max-attempts").bind attempts?
      timeoutSeconds := (given.value? "timeout-secs").bind seconds?
      tieBreak := word? given "tie-break" tieBreakWords
      statusColumn := given.value? "status-column"
      defaultLabel := given.value? "default-label"
      strictCounts := given.has "strict"
      force := given.has "force" }
    workdir := path? given "workdir"
    output := path? given "output" }

/-- The command of a name. -/
def commandOf (name : String) (given : Given) : Except Refusal Command := do
  match name, given.operands with
  | "compile", [] => return .compile (← engineOf given) (path? given "expect") (path? given "emit")
  | "run", [] => return .run (← engineOf given)
  | "apply", [plan, input, output] =>
    let base : Limits := {}
    return .apply ⟨plan⟩ ⟨input⟩ ⟨output⟩ ((given.value? "marker").getD base.marker)
  | "digest", [input] => return .digest ⟨input⟩
  | "artifacts", [] => return .artifacts (storeOf given)
  | _, _ => throw .usage

/-- What was said about messages, before the command and behind it. -/
def messagesOf (outer inner : Given) : MessageOptions :=
  let pick (name : String) : Option String := (inner.value? name).or (outer.value? name)
  let meant {α : Type} (name : String) (words : List (String × α)) : Option α :=
    (pick name).bind fun word => words.lookup word
  let count (name : String) : Nat :=
    if inner.has name then inner.count name else outer.count name
  { level := meant "log-level" levelWords
    verbose := count "verbose"
    quiet := count "quiet"
    colour := (meant "color" colourWords).getD .automatic
    format := (meant "log-format" LogFormat.words).getD .pretty
    file := (pick "log-file").map FilePath.mk }

/-- The invocation of the words of a command line. -/
def parse (words : List String) : Except Refusal Invocation := do
  let (outer, rest) ← readBy outerGrammar words
  match rest with
  | [] => throw .usage
  | name :: rest =>
    match grammars.lookup name with
    | none => throw (if rest.all fun w => (grammars.lookup w).isSome then .help else .usage)
    | some g =>
      let (inner, _) ← readBy g rest
      return { command := ← commandOf name inner, messages := messagesOf outer inner }

end Invocation

/-- The settings of messages; `terminal` tells whether the error output is looked at directly. -/
def MessageOptions.settings (m : MessageOptions) (terminal : Bool) : LogSettings where
  level := m.level.getD (.ofSteps (2 + (m.verbose : Int) - m.quiet))
  useEnvironment := m.level.isNone && m.verbose == 0 && m.quiet == 0
  withTimestamps := m.file.isSome
  withColours := match m.colour with
    | .always => true
    | .never => false
    | .automatic => m.file.isNone && terminal
  format := m.format
  file := m.file

end LabelForge
