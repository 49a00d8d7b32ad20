import LabelForge.FilePath
import LabelForge.Json.Query
import LabelForge.Number.Decimal

/-!
# LabelForge.Logging

**Where messages about the work go.** Messages are not part of what a command prints. They go to
the error output or to a file, if their level is wanted at all.
-/

namespace LabelForge

/-- How much is told. -/
inductive LogLevel where
  | off
  | error
  | warn
  | info
  | debug
  | trace
  deriving DecidableEq, Repr

namespace LogLevel

/-- All levels, from the quietest. -/
def all : List LogLevel := [.off, .error, .warn, .info, .debug, .trace]

/-- The word for a level. -/
def label : LogLevel → String
  | .off => "off"
  | .error => "error"
  | .warn => "warn"
  | .info => "info"
  | .debug => "debug"
  | .trace => "trace"

/-- The number that a text of decimal digits stands for; a plus sign may stand before them. -/
def number? (s : String) : Option Nat :=
  let digits := match s.toList with
    | '+' :: rest => rest
    | cs => cs
  if !digits.isEmpty && digits.all Char.isDigit then some (Number.digitsValue digits) else none

/-- The level of a text: a word in any case, or the number of the level. The empty text is the
level of errors. -/
def parse? (s : String) : Option LogLevel :=
  if s.isEmpty then some .error
  else match number? s with
    | some n => all[n]?
    | none => all.find? fun l => l.label == s.map Char.toLower

/-- The level that lies a number of steps above the quietest. -/
def ofSteps (n : Int) : LogLevel :=
  all.getD (min n.toNat (all.length - 1)) .off

end LogLevel

/-- How messages are written. -/
inductive LogFormat where
  | pretty
  | compact
  | json
  deriving DecidableEq, Repr

/-- The words for the formats. -/
def LogFormat.words : List (String × LogFormat) :=
  [("pretty", .pretty), ("compact", .compact), ("json", .json)]

/-- The word for a format. -/
def LogFormat.label : LogFormat → String
  | .pretty => "pretty"
  | .compact => "compact"
  | .json => "json"

/-- The settings of messages. -/
structure LogSettings where
  level : LogLevel := .warn
  /-- Whether the environment may say another level. -/
  useEnvironment : Bool := true
  withTimestamps : Bool := false
  withTarget : Bool := false
  withSpans : Bool := true
  withColours : Bool := true
  format : LogFormat := .pretty
  /-- The file for messages; none for the error output. -/
  file : Option FilePath := none
  deriving DecidableEq, Repr

namespace LogSettings

open Json

/-- Decodes the text of a level. -/
def levelDecoder : Decoder LogLevel := fun j => do
  match LogLevel.parse? (← asText j) with
  | some level => return level
  | none => throw .mismatch

/-- The settings with one of them changed, which is given by its name and a document. -/
def change (s : LogSettings) (name : String) (j : Json) : Except Fault LogSettings := do
  match name with
  | "level" => return { s with level := ← levelDecoder j }
  | "timestamps" => return { s with withTimestamps := ← asBool j }
  | "ansi" => return { s with withColours := ← asBool j }
  | "format" => return { s with format := ← asWord LogFormat.words j }
  | "file" => return { s with file := (← asOption asText j).map FilePath.mk }
  | _ => throw .mismatch

/-- The document of the settings. -/
def toJson (s : LogSettings) : Json := .ofMembers [
  ("level", .ofText s.level.label), ("use_env_filter", .bool s.useEnvironment),
  ("with_timestamps", .bool s.withTimestamps), ("with_target", .bool s.withTarget),
  ("with_spans", .bool s.withSpans), ("with_ansi", .bool s.withColours),
  ("format", .ofText s.format.label), ("log_file", .ofOption (fun p => .ofText p.text) s.file)]

end LogSettings

end LabelForge
