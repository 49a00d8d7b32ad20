import LabelForge.Text.Blank
import LabelForge.Text.Lines
import LabelForge.Text.Utf8

/-!
# LabelForge.Sandbox.Capture

**Keeping the output of a process.** A program may print more than anybody wants to keep. Of each
stream the first half of the limit and the last half are kept, so the line that tells that the
program is complete survives a noisy program.

Design points:

* A capture takes the stream in the pieces in which it arrives. Its head is filled first; what
  comes after goes to the tail, which forgets its oldest bytes.
* Head and tail are decoded apart, with a note between them if bytes are missing.
* An odd limit gives the extra byte to the tail.
-/

namespace LabelForge

open Text (Bytes)

/-- What has been kept of a stream. -/
structure Capture where
  /-- How many bytes are kept at most. -/
  limit : Nat
  head : Bytes := []
  tail : Bytes := []
  /-- Whether bytes were dropped between the head and the tail. -/
  truncated : Bool := false
  deriving DecidableEq, Repr

namespace Capture

/-- How many bytes the head holds at most. -/
def headLimit (c : Capture) : Nat := c.limit / 2

/-- How many bytes the tail holds at most. -/
def tailLimit (c : Capture) : Nat := c.limit - c.limit / 2

/-- Takes the next piece of the stream. -/
def push (c : Capture) (piece : Bytes) : Capture :=
  let room := c.headLimit - c.head.length
  let tail := c.tail ++ piece.drop room
  let excess := tail.length - c.tailLimit
  { c with
    head := c.head ++ piece.take room
    tail := tail.drop excess
    truncated := c.truncated || 0 < excess }

/-- The note in the place of what is missing. -/
def note : String := "\n[... output truncated ...]\n"

/-- The text of what was kept. -/
def text (c : Capture) : String :=
  Text.lenientText c.head ++ (if c.truncated then note else "") ++ Text.lenientText c.tail

/-- The text that is kept of a stream that arrives in the given pieces. -/
def ofPieces (limit : Nat) (pieces : List Bytes) : String :=
  (pieces.foldl push { limit }).text

end Capture

/-- Whether a marker stands on a line of its own. -/
def hasMarkerLine (marker output : String) : Bool :=
  (Text.lines output).any fun line => Text.trim line == marker

end LabelForge
