import LabelForge.Json.Decoder
import LabelForge.Synthesis.Request
import LabelForge.Text.Blank

/-!
# LabelForge.Synthesis.Reply

**Finding the program in a reply.** A chat model wraps its code in a fence of three backticks
more often than not. The fence is taken off, with the language tag behind it, and the blanks
around the code.

Design points:

* What follows the opening fence on its line is a tag only if it is made of letters, digits and
  the signs `_ - + .`; otherwise it belongs to the code.
* The opening and the closing fence are looked for one after the other, each on its own.
-/

namespace LabelForge.Reply

open Text

/-- Three backticks. -/
def fence : List Char := List.replicate 3 '\x60'

/-- Whether a character may stand in a language tag. -/
def isTagChar (c : Char) : Bool :=
  c.isAlphanum || c == '_' || c == '-' || c == '+' || c == '.'

/-- The rest of a text behind a beginning, if it begins so. -/
def dropStart? (start cs : List Char) : Option (List Char) :=
  if start.isPrefixOf cs then some (cs.drop start.length) else none

/-- The text in front of an ending, if it ends so. -/
def dropEnd? (ending cs : List Char) : Option (List Char) :=
  (dropStart? ending.reverse cs.reverse).map List.reverse

/-- The code behind an opening fence, without the language tag. -/
def dropTag (cs : List Char) : List Char :=
  let line := cs.takeWhile (· != '\n')
  match cs.dropWhile (· != '\n') with
  | _ :: body => if (trimChars line).all isTagChar then body else cs
  | [] => cs

/-- The code without an opening fence. -/
def dropOpening (cs : List Char) : List Char :=
  match dropStart? fence cs with
  | some rest => dropTag rest
  | none => cs

/-- The code without a closing fence. -/
def dropClosing (cs : List Char) : List Char :=
  match dropEnd? fence (trimEndChars cs) with
  | some rest => rest
  | none => cs

/-- The code in a text, as characters. -/
def stripChars (cs : List Char) : List Char :=
  trimChars (dropClosing (dropOpening (trimChars cs)))

/-- The code in a text. -/
def stripFences (s : String) : String :=
  .ofList (stripChars s.toList)

/-! ### Replies of a chat endpoint -/

open Json

/-- Decodes the message of a choice to its content. -/
def messageDecoder : Decoder (Option String) := fun j => do
  let content := asOption asText
  let found ← gather [.defaulted "content" content] j
  found.getD "content" content none

/-- Decodes a choice to the content of its message. -/
def choiceDecoder : Decoder (Option String) := fun j => do
  let found ← gather [.required "message" messageDecoder] j
  found.get "message" messageDecoder

/-- Decodes a reply to the contents of its choices. -/
def decoder : Decoder (List (Option String)) := fun j => do
  let choices := asList choiceDecoder
  let found ← gather [.defaulted "choices" choices] j
  found.getD "choices" choices []

/-- The program in the body of a reply. -/
def program (body : String) : Except GenerationError String :=
  match Json.decode decoder body with
  | .error fault => .error (.malformedResponse fault.message)
  | .ok (some content :: _) =>
    let program := stripFences content
    if program.isEmpty then .error .emptyProgram else .ok program
  | .ok _ => .error (.malformedResponse "response has no choices[0].message.content")

end LabelForge.Reply
