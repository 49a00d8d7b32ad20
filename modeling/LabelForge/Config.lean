import LabelForge.Disk
import LabelForge.Sandbox.Runtime
import LabelForge.Settings
import LabelForge.Synthesis.Chat
import LabelForge.Toml.Decoder
import LabelForge.Toml.Reader

/-!
# LabelForge.Config

**Where settings come from.** A setting is taken from the command line, else from a configuration
file, else from the defaults.

Design points:

* A file has up to three tables. The tables of the engine and of the whole file name their
  settings exactly; the others may hold more than is asked for.
* Counting strictly can be switched on in either place, but not off; a stored program is ignored
  only on the command line.
-/

namespace LabelForge

open Json

/-- Who writes the programs. -/
inductive WriterKind where
  /-- The rules are compiled into a label plan. -/
  | plan
  /-- A chat model is asked. -/
  | chat
  deriving DecidableEq, Repr

namespace WriterKind

/-- The words for the writers. -/
def words : List (String × WriterKind) := [("plan", .plan), ("chat", .chat)]

/-- The word for a writer. -/
def label : WriterKind → String
  | .plan => "plan"
  | .chat => "chat"

/-- The language in which a writer writes. -/
def language : WriterKind → Language
  | .plan => .labelPlan
  | .chat => .python

end WriterKind

/-- The engine's table of a configuration file. -/
structure EngineTable where
  maxAttempts : Option Nat := none
  timeoutSeconds : Option Nat := none
  statusColumn : Option String := none
  defaultLabel : Option String := none
  tieBreak : Option TieBreak := none
  marker : Option String := none
  outputBytes : Option Nat := none
  strictCounts : Option Bool := none
  deriving DecidableEq, Repr

/-- A configuration file. -/
structure Config where
  engine : EngineTable := {}
  writer : WriterKind := .plan
  chat : ChatSettings := {}
  /-- The runtime, in the place of that of the language. -/
  runtime : Option Runtime := none
  deriving DecidableEq, Repr

/-- What a command line says about settings. -/
structure Overrides where
  writer : Option WriterKind := none
  maxAttempts : Option Nat := none
  timeoutSeconds : Option Nat := none
  tieBreak : Option TieBreak := none
  statusColumn : Option String := none
  defaultLabel : Option String := none
  strictCounts : Bool := false
  force : Bool := false
  deriving DecidableEq, Repr

/-- All settings of a command. -/
structure Resolved where
  settings : Settings
  writer : WriterKind
  chat : ChatSettings
  runtime : Option Runtime
  deriving DecidableEq, Repr

/-- Why there is no configuration. -/
inductive ConfigError where
  /-- The file cannot be read. -/
  | unreadable (path : FilePath) (cause : OsError)
  /-- The file is no configuration. -/
  | invalid (path : FilePath)
  deriving DecidableEq, Repr

/-- The messages of a fault, from the outermost to its cause. -/
def ConfigError.chain : ConfigError → List String
  | .unreadable path cause => [s!"failed to read config {path.text}", cause.message]
  | .invalid path => [s!"invalid config {path.text}", "the text is no configuration"]

namespace EngineTable

/-- A field that may be missing. -/
def find (found : Found) (name : String) (d : Decoder α) : Except Fault (Option α) :=
  (found.lookup name).mapM d

/-- Decodes the engine's table. -/
def decoder : Decoder EngineTable := fun j => do
  let found ← Toml.exactRecord [
    .defaulted "max_attempts" (asNat 32), .defaulted "timeout_secs" (asNat 64),
    .defaulted "status_column" asText, .defaulted "default_label" asText,
    .defaulted "tie_break" (Toml.asWord TieBreak.words), .defaulted "completion_marker" asText,
    .defaulted "output_limit_bytes" (asNat 64), .defaulted "strict_counts" asBool] j
  return {
    maxAttempts := ← find found "max_attempts" (asNat 32)
    timeoutSeconds := ← find found "timeout_secs" (asNat 64)
    statusColumn := ← find found "status_column" asText
    defaultLabel := ← find found "default_label" asText
    tieBreak := ← find found "tie_break" (Toml.asWord TieBreak.words)
    marker := ← find found "completion_marker" asText
    outputBytes := ← find found "output_limit_bytes" (asNat 64)
    strictCounts := ← find found "strict_counts" asBool }

end EngineTable

namespace Config

/-- Decodes the writer's table: who writes, and the settings of the chat model. -/
def writerDecoder : Decoder (WriterKind × ChatSettings) := fun j =>
  match j with
  | .object _ => do
    let kind := Toml.asWord WriterKind.words
    let found ← Toml.record (.defaulted "kind" kind :: ChatSettings.fields) j
    return (← found.getD "kind" kind .plan, ← ChatSettings.ofFound found)
  | j => .error (unwanted j)

/-- Decodes the table of the runtime. -/
def runtimeDecoder : Decoder Runtime := fun j => do
  Runtime.ofFound (← Toml.record Runtime.fields j)

/-- Decodes a configuration. -/
def decoder : Decoder Config := fun j => do
  let found ← Toml.exactRecord [.defaulted "engine" EngineTable.decoder,
    .defaulted "synthesizer" writerDecoder, .defaulted "sandbox" runtimeDecoder] j
  let (writer, chat) ← found.getD "synthesizer" writerDecoder (.plan, {})
  return {
    engine := ← found.getD "engine" EngineTable.decoder {}
    writer
    chat
    runtime := ← (found.lookup "sandbox").mapM runtimeDecoder }

/-- The configuration of a text. -/
def parse? (text : String) : Option Config :=
  (Toml.read? text).bind fun j => (decoder j).toOption

/-- The configuration of a file. -/
def load (d : Disk) (path : FilePath) : Except ConfigError Config :=
  match d.readText path with
  | .error e => .error (.unreadable path e)
  | .ok content =>
    match parse? content with
    | some c => .ok c
    | none => .error (.invalid path)

/-- The configuration of a file, if there is a file. -/
def loadOptional (d : Disk) : Option FilePath → Except ConfigError Config
  | none => .ok {}
  | some path => load d path

/-- The settings of a command. -/
def resolve (c : Config) (o : Overrides) : Resolved :=
  let base : Settings := {}
  { settings := {
      maxAttempts := (o.maxAttempts.or c.engine.maxAttempts).getD base.maxAttempts
      limits := {
        timeout := ((o.timeoutSeconds.or c.engine.timeoutSeconds).map .ofSeconds).getD
          base.limits.timeout
        marker := c.engine.marker.getD base.limits.marker
        outputBytes := c.engine.outputBytes.getD base.limits.outputBytes }
      labels := {
        statusColumn := (o.statusColumn.or c.engine.statusColumn).getD base.labels.statusColumn
        defaultLabel := (o.defaultLabel.or c.engine.defaultLabel).getD base.labels.defaultLabel }
      tieBreak := (o.tieBreak.or c.engine.tieBreak).getD base.tieBreak
      strictCounts := o.strictCounts || c.engine.strictCounts.getD false
      force := o.force }
    writer := o.writer.getD c.writer
    chat := c.chat
    runtime := c.runtime }

end Config

/-- The settings of a command as a document. -/
def Resolved.toJson (r : Resolved) : Json := .ofMembers [
  ("max_attempts", .ofNat r.settings.maxAttempts), ("labels", r.settings.labels.toJson),
  ("tie_break", .ofText r.settings.tieBreak.label),
  ("strict_counts", .bool r.settings.strictCounts), ("force", .bool r.settings.force),
  ("limits", r.settings.limits.toJson), ("synthesizer", .ofText r.writer.label),
  ("language", .ofText r.writer.language.label), ("chat", r.chat.toJson),
  ("sandbox", .ofOption Runtime.toJson r.runtime)]

/-- What a document says about settings. -/
def Overrides.ofJson (j : Json) : Json.Asked Overrides := do
  return {
    writer := ← j.optional "synthesizer" (asWord WriterKind.words)
    maxAttempts := ← j.optional "max_attempts" (asNat 32)
    timeoutSeconds := ← j.optional "timeout_secs" (asNat 64)
    tieBreak := ← j.optional "tie_break" (asWord TieBreak.words)
    statusColumn := ← j.optional "status_column" asText
    defaultLabel := ← j.optional "default_label" asText
    strictCounts := ← j.defaulted "strict_counts" asBool false
    force := ← j.defaulted "force" asBool false }

end LabelForge
