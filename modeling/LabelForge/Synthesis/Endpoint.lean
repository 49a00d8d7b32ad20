import LabelForge.Url.Reader

/-!
# LabelForge.Synthesis.Endpoint

**Where a question is sent.** An endpoint is given as a text, which may be no address at all.
Without a network nothing can be sent to it, and all that is left is to say so.

Design points:

* A user in the address is not part of the place to which a question is sent.
* A question is written before anybody looks where it goes: a key that cannot be written is noticed
  later than an address without a host, but earlier than a scheme that is not one of the web.
-/

namespace LabelForge

/-- What the text of an endpoint denotes. -/
inductive Endpoint where
  /-- No address. -/
  | malformed
  /-- An address without a host. -/
  | hostless (address : Url)
  /-- An address to which nothing can be sent. -/
  | foreign (address : Url)
  /-- An address of the web. -/
  | web (address : Url)
  deriving DecidableEq, Repr

namespace Endpoint

/-- How long the address of a message may be. -/
def maxAddress : Nat := 65534

/-- Whether messages can be sent to an address: it is one of the web, and the name of its host has
no characters that a message cannot have there. -/
def isDeliverable (u : Url) : Bool :=
  let isWritten := match u.authority with
    | some ⟨_, _, .name name, _⟩ => !name.any ("\"\x60\x7b\x7d".contains ·)
    | _ => true
  ["http".toList, "https".toList].contains u.scheme && isWritten &&
    u.toList.length ≤ maxAddress

/-- What a text denotes. -/
def ofText (s : String) : Endpoint :=
  match Url.parse? s with
  | none => .malformed
  | some u =>
    let u := u.withoutUser
    if !u.hasHost then .hostless u
    else if isDeliverable u then .web u
    else .foreign u

/-- Whether a key can be written in a message. -/
def isWritable (key : String) : Bool :=
  key.toList.all fun c => (' ' ≤ c && c != '\x7f') || c == '\t'

/-- Why nothing can be sent to an endpoint with a key when there is no network. -/
def refusal (key : String) : Endpoint → String
  | .malformed => "builder error"
  | .hostless u => s!"builder error for url ({u.render})"
  | .foreign u =>
    if isWritable key then s!"builder error for url ({u.render})" else "builder error"
  | .web u =>
    if isWritable key then s!"error sending request for url ({u.render})" else "builder error"

end Endpoint

end LabelForge
