import LabelForge.Synthesis.Endpoint
import LabelForge.Synthesis.Prompt
import LabelForge.Synthesis.Reply

/-!
# LabelForge.Synthesis.Chat

**Asking a chat model for programs.** The prompt of a request goes to an endpoint, with a key that
is found in the environment; the program is found in the reply.

Design points:

* How messages get to an endpoint and back is not known here. An *exchange* does it; it knows how
  many messages were exchanged before.
* A key of blanks is no key.
-/

namespace LabelForge

open Number

/-- The settings of a chat model. -/
structure ChatSettings where
  endpoint : String := "https://api.cerebras.ai/v1/chat/completions"
  model : String := "gpt-oss-120b"
  /-- The name of the variable that holds the key. -/
  keyVariable : String := "RULESMITH_API_KEY"
  /-- A number of single precision. -/
  temperature : Double := (Double.ofDecimal false 1 (-1)).toSingle
  maxTokens : Nat := 2048
  timeoutSeconds : Nat := 120
  deriving DecidableEq, Repr

/-- A message to a chat model. -/
structure ChatCall where
  settings : ChatSettings
  key : String
  prompt : Prompt
  deriving DecidableEq, Repr

/-- The answer of an endpoint: its status and its text. -/
structure ChatAnswer where
  status : Nat
  text : String
  deriving DecidableEq, Repr

/-- Exchanges a message for an answer, or says why there is none. The number is that of the
messages before. -/
abbrev Exchange := Nat → ChatCall → Except String ChatAnswer

/-- The exchange of a machine without a network. -/
def Exchange.offline : Exchange := fun _ call =>
  .error ((Endpoint.ofText call.settings.endpoint).refusal call.key)

namespace ChatSettings

open Json

/-- A number of single precision. -/
def asSingle : Decoder Double
  | .number (.int i) =>
    match Format.single.round (i.natAbs * Double.one) 1 with
    | some units => .ok (.finite (decide (i < 0)) units)
    | none => .ok (.infinite (decide (i < 0)))
  | j => (asDouble j).map Double.toSingle

/-- The fields of the settings. -/
def fields : List Field := [
  .defaulted "endpoint" asText, .defaulted "model" asText, .defaulted "api_key_env" asText,
  .defaulted "temperature" asSingle, .defaulted "max_tokens" (asNat 32),
  .defaulted "request_timeout_secs" (asNat 64)]

/-- The settings of some fields. -/
def ofFound (found : Found) : Except Fault ChatSettings := do
  let base : ChatSettings := {}
  return {
    endpoint := ← found.getD "endpoint" asText base.endpoint
    model := ← found.getD "model" asText base.model
    keyVariable := ← found.getD "api_key_env" asText base.keyVariable
    temperature := ← found.getD "temperature" asSingle base.temperature
    maxTokens := ← found.getD "max_tokens" (asNat 32) base.maxTokens
    timeoutSeconds := ← found.getD "request_timeout_secs" (asNat 64) base.timeoutSeconds }

/-- Decodes settings. -/
def decoder : Decoder ChatSettings := fun j => do ofFound (← gather fields j)

/-- The document of the settings; the temperature is a text. -/
def toJson (s : ChatSettings) : Json := .ofMembers [
  ("endpoint", .ofText s.endpoint), ("model", .ofText s.model),
  ("api_key_env", .ofText s.keyVariable),
  ("temperature", .ofText (s.temperature.plainTextIn .single)),
  ("max_tokens", .ofNat s.maxTokens), ("request_timeout_secs", .ofNat s.timeoutSeconds)]

/-- The key in an environment. -/
def key? (s : ChatSettings) (environment : List (String × String)) : Option String :=
  (environment.lookup s.keyVariable).filter fun key => !(Text.trim key).isEmpty

/-- The message of a missing key. -/
def missingKey (variable_ : String) : String :=
  s!"API key environment variable {variable_} is not set"

/-- Writes a program by asking. -/
def write (s : ChatSettings) (exchange : Exchange) (key : String) (calls : Nat)
    (r : SynthesisRequest) : Except GenerationError Candidate :=
  match exchange calls ⟨s, key, .ofRequest r⟩ with
  | .error reason => .error (.unavailable reason)
  | .ok answer =>
    if answer.status / 100 != 2 then .error (.httpStatus answer.status answer.text)
    else do
      return {
        attempt := r.attempt
        language := .python
        source := ← Reply.program answer.text
        diagnostics := r.prior.map PriorAttempt.diagnostics }

end ChatSettings

end LabelForge
