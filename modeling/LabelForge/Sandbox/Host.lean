import LabelForge.Disk
import LabelForge.Duration

/-!
# LabelForge.Sandbox.Host

**Starting processes.** The sandbox does not know which programs there are. It asks a host to
start one, with a time limit, and the host answers how the process ended.

Design points:

* A host is a function on the disk: what a process does to files is part of its answer.
* Standard input is always empty.
* A process that is stopped at its limit has printed what it printed until then.
-/

namespace LabelForge

/-- A process to start. -/
structure Launch where
  /-- The name or the path of the executable. -/
  executable : String
  arguments : List String
  /-- The directory in which the process works. -/
  directory : Location
  environment : List (String × String)
  deriving DecidableEq, Repr

/-- How a process ended. -/
inductive Ending where
  /-- By itself, with a code. -/
  | exited (code : Nat)
  /-- By a signal. -/
  | killed
  /-- It was still running at its limit, and was killed. -/
  | timedOut
  deriving DecidableEq, Repr

/-- A process that has ended. -/
structure Finished where
  ending : Ending
  stdout : Text.Bytes
  stderr : Text.Bytes
  wallTime : Duration
  deriving DecidableEq, Repr

/-- Starts processes and waits for their end, at most for the given time. -/
abbrev Host := Launch → Duration → Disk → Except OsError Finished × Disk

/-- The exit code of an ending. -/
def Ending.code? : Ending → Option Int
  | .exited code => some code
  | _ => none

end LabelForge
