import LabelForge.Json.Decoder

/-!
# LabelForge.Duration

**Spans of time.** A duration is a number of seconds and of nanoseconds. It is written as an
object of both numbers, and shown in messages with one decimal.

Design points:

* The nanoseconds stay below a thousand million; surplus ones are carried over on reading.
* The decimal that is shown rounds the double nearest to the duration.
-/

namespace LabelForge

/-- A span of time. -/
structure Duration where
  seconds : Nat
  nanos : Nat
  deriving DecidableEq, Repr

namespace Duration

open Number Json

/-- A duration of milliseconds. -/
def ofMillis (n : Nat) : Duration :=
  ⟨n / 1000, n % 1000 * 1000000⟩

/-- A duration of whole seconds. -/
def ofSeconds (n : Nat) : Duration :=
  ⟨n, 0⟩

/-- The duration in nanoseconds. -/
def totalNanos (d : Duration) : Nat :=
  d.seconds * 1000000000 + d.nanos

/-- The duration in seconds as a double. -/
def inSeconds (d : Duration) : Double :=
  (Double.ofNat d.seconds).add ((Double.ofNat d.nanos).div (Double.ofNat 1000000000))

/-- The duration in seconds with the given number of decimals. -/
def secondsText (d : Duration) (places : Nat) : String :=
  d.inSeconds.fixedText places

/-- The document of a duration. -/
def toJson (d : Duration) : Json :=
  .ofMembers [("secs", .ofNat d.seconds), ("nanos", .ofNat d.nanos)]

/-- Decodes a duration; members it does not know are refused. -/
def decoder : Decoder Duration := fun j => do
  let found ← gatherOnly [.required "secs" (asNat 64), .required "nanos" (asNat 32)] j
  let seconds ← found.get "secs" (asNat 64)
  let nanos ← found.get "nanos" (asNat 32)
  let total := seconds + nanos / 1000000000
  if total ≥ 2 ^ 64 then throw .mismatch
  return ⟨total, nanos % 1000000000⟩

end Duration

end LabelForge
