import LabelForge.Proofs.Json.Skip
import LabelForge.Proofs.Synthesis.Fence

/-!
# LabelForge.Proofs.Synthesis.Reply

**A program comes out of its reply.** `Response` is what a chat endpoint sends: choices with
messages of which some have a content, and whatever else it has to tell. It is decoded to these
contents, and a program that the first of them holds in a fence is the one that is found
(`program_wrap`).

Design points:

* The text of a response may be any of its texts: with blanks between its tokens, and with escapes
  for any of its characters.
-/

namespace LabelForge.Reply

open Json Text

/-- Whether a document is a message with a content, which may be missing. -/
inductive Message : Json → Option String → Prop where
  | text {ms : Members} {content : String} (once : ms.valuesOf "content" = [ofText content]) :
    Message (.object ms) (some content)
  | null {ms : Members} (once : ms.valuesOf "content" = [.null]) : Message (.object ms) none
  | missing {ms : Members} (missing : ms.valuesOf "content" = []) : Message (.object ms) none

/-- Whether a document is a choice whose message has a content. -/
inductive Choice : Json → Option String → Prop where
  | message {ms : Members} {j : Json} {content : Option String}
      (once : ms.valuesOf "message" = [j]) (h : Message j content) : Choice (.object ms) content

/-- Whether a document is a response whose choices have contents. -/
inductive Response : Json → List (Option String) → Prop where
  | choices {ms : Members} {items : Items} {contents : List (Option String)}
      (once : ms.valuesOf "choices" = [.array items])
      (h : List.Forall₂ Choice items.toList contents) : Response (.object ms) contents

/-! ### Decoding -/

theorem Message.decode {j : Json} {content : Option String} (h : Message j content)
    (whole : j.Whole) : messageDecoder j = .ok content := by
  cases h with
  | text once =>
      rw [messageDecoder, gather_once whole once rfl]
      rfl
  | null once =>
      rw [messageDecoder, gather_once whole once rfl]
      rfl
  | missing missing =>
      rw [messageDecoder, gather_missing whole missing (by decide)]
      rfl

theorem Choice.decode {j : Json} {content : Option String} (h : Choice j content)
    (whole : j.Whole) : choiceDecoder j = .ok content := by
  cases h with
  | message once h =>
      have decoded := h.decode (Members.Whole.value whole once)
      rw [choiceDecoder, gather_once whole once (Decoder.check_eq_ok decoded)]
      exact decoded

/-- A response is decoded to the contents of its choices. -/
theorem Response.decode {j : Json} {contents : List (Option String)} (h : Response j contents)
    (whole : j.Whole) : decoder j = .ok contents := by
  cases h with
  | @choices ms items contents once h =>
      have decoded : asList choiceDecoder (.array items) = .ok contents :=
        items.decode_whole Choice.decode h (Members.Whole.value whole once)
      rw [decoder, gather_once whole once (Decoder.check_eq_ok decoded)]
      exact decoded

/-- What is found in a response is what its first choice has for its content, without a fence. -/
theorem program_response {body content : String} {j : Json} {others : List (Option String)}
    (written : Written body j) (response : Response j (some content :: others)) :
    program body = if (stripFences content).isEmpty then .error .emptyProgram
      else .ok (stripFences content) := by
  have decoded : Json.decode decoder body = .ok (some content :: others) := by
    rw [Json.decode, written.read]
    simp only [response.decode written.whole]
    rfl
  rw [program, decoded]

/-- A program in a fence is what is found in a response whose first choice has it for its content,
if it is not empty and has no blanks around it. -/
theorem program_wrap (f : Fencing) {code body : String} {j : Json} {others : List (Option String)}
    (nonempty : code ≠ "") (trimmed : trim code = code) (written : Written body j)
    (response : Response j (some (.ofList (f.wrap code.toList)) :: others)) :
    program body = .ok code := by
  have found : stripFences (.ofList (f.wrap code.toList)) = code := by
    have chars : trimChars code.toList = code.toList := by
      simpa [trim] using congrArg String.toList trimmed
    rw [stripFences, String.toList_ofList, stripChars_wrap f chars, String.ofList_toList]
  rw [program_response written response, found, if_neg]
  simpa using nonempty

/-- Blanks around a fence with a tag, and a line that ends with a carriage return. -/
def taggedFencing : Fencing where
  tag := "python".toList
  opening := .returnFeed
  closing := .feed
  before := ['\n']
  after := [' ', '\u2028']
  isTag := List.all_eq_true.1 (by decide)
  before_blank := List.all_eq_true.1 (by decide)
  after_blank := List.all_eq_true.1 (by decide)

/-- A program that begins and ends with a fence. -/
def fencedCode : String := "\x60\x60\x60\nprint('caf\u00e9')\n\x60\x60\x60"

/-- A choice that says it, and tells of other things as well. -/
def fencedChoice : Json :=
  .ofMembers [("index", ofNat 0),
    ("message", .ofMembers [("role", ofText "assistant"),
      ("content", ofText (.ofList (taggedFencing.wrap fencedCode.toList)))]),
    ("logprobs", .null)]

/-- A choice that says nothing. -/
def silentChoice : Json :=
  .ofMembers [("message", .ofMembers [("content", .null)])]

/-- A response of both choices. -/
def fencedResponse : Json :=
  .ofMembers [("id", ofText "chat-1"), ("choices", .array (.ofList [fencedChoice, silentChoice])),
    ("usage", .ofMembers [("total_tokens", ofNat 12)])]

theorem program_wrap_fencedCode :
    fencedCode ≠ "" ∧ trim fencedCode = fencedCode ∧
      Written fencedResponse.pretty fencedResponse ∧
      Response fencedResponse [some (.ofList (taggedFencing.wrap fencedCode.toList)), none] ∧
      program fencedResponse.pretty = .ok fencedCode := by
  have nonempty : fencedCode ≠ "" := by decide
  have trimmed : trim fencedCode = fencedCode := by decide
  have written : Written fencedResponse.pretty fencedResponse := by
    have index : (ofNat 0).Plain := plain_ofNat (by decide)
    have tokens : (ofNat 12).Plain := plain_ofNat (by decide)
    have first : fencedChoice.Plain :=
      ⟨rfl, index, rfl, ⟨rfl, rfl, rfl, rfl, trivial⟩, rfl, trivial, trivial⟩
    have second : silentChoice.Plain := ⟨rfl, ⟨rfl, trivial, trivial⟩, trivial⟩
    exact written_pretty ⟨rfl, rfl, rfl, ⟨first, second, trivial⟩, rfl, ⟨rfl, tokens, trivial⟩,
      trivial⟩
  have response :
      Response fencedResponse [some (.ofList (taggedFencing.wrap fencedCode.toList)), none] :=
    .choices rfl (.cons (.message rfl (.text rfl)) (.cons (.message rfl (.null rfl)) .nil))
  exact ⟨nonempty, trimmed, written, response,
    program_wrap taggedFencing nonempty trimmed written response⟩

end LabelForge.Reply
