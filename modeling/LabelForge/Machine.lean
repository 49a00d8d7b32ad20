import LabelForge.Shell.Start

/-!
# LabelForge.Machine

**The programs that processes can be started from.** A machine has shells, the common tools, and
programs of its own under given paths.

Design points:

* A limit of no time ends a process before it does anything.
* A path that leads to a file is refused if the file is no program; so is a directory. A path that
  leads nowhere is not found.
-/

namespace LabelForge.Machine

/-- A program: what a process of it does, given its arguments and the disk that it sees. -/
abbrev Installed := List (String × (List String → Disk → Finished × Disk))

/-- A process that is killed before it does anything. -/
def killedAtOnce : Finished := ⟨.timedOut, [], [], .ofMillis 0⟩

/-- Why a path cannot be started. -/
def refusal (launch : Launch) (d : Disk) : OsError :=
  match { d with cwd := launch.directory }.locate ⟨launch.executable⟩ with
  | .error e => e
  | .ok l =>
    if !launch.executable.toList.contains '/' then .notFound
    else match d.files.at? l with
      | none => .notFound
      | some _ => .noPermission

/-- What starting a program does; none if there is no such program. -/
def program? (installed : Installed) (launch : Launch) :
    Option (Duration → Disk → Finished × Disk) :=
  match installed.lookup launch.executable with
  | some run => some fun _ d =>
    let (finished, after) := run launch.arguments { d with cwd := launch.directory }
    (finished, { after with cwd := d.cwd })
  | none =>
    if Shell.isShell launch.executable then some (Shell.start launch)
    else (Shell.tool? launch.executable).map fun t => Shell.startTool t launch

/-- Whether a process can be given its name and its arguments. -/
def isWritten (launch : Launch) : Bool :=
  (launch.executable :: launch.arguments).all fun text => !text.contains '\x00'

/-- The host of a machine on which some programs are installed. -/
def host (installed : Installed) : Host := fun launch limit d =>
  if !isWritten launch then (.error .nulInArgument, d)
  else match program? installed launch with
  | none => (.error (refusal launch d), d)
  | some run =>
    if limit.totalNanos == 0 then (.ok killedAtOnce, d)
    else
      let (finished, d) := run limit d
      (.ok finished, d)

end LabelForge.Machine
