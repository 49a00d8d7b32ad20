import LabelForge.Command.Summary
import LabelForge.Machine

/-!
# LabelForge.CommandLine.Answer

**From the words of a command line to what is printed.** A command line that is not well-formed is
refused; otherwise its command is performed, and its result or its failure is printed.

Design points:

* A file for messages is opened before the command is performed, and kept if it is there.
* The program can be started as a process of its own, which is how label plans are applied in a
  sandbox. Such a process starts no further ones.
-/

namespace LabelForge.CommandLine

/-- The version of the program. -/
def versionText : String := "rulesmith 0.1.0"

/-- How the program is called. -/
def usageText : String :=
  "usage: rulesmith (compile | run | apply | digest | artifacts) [options]"

/-- What is printed when a command line is refused. -/
def Refusal.printed : Refusal → Printed
  | .usage => { stderr := endedLines [usageText], exitCode := 2 }
  | .help => { stdout := endedLines [usageText] }
  | .version => { stdout := endedLines [versionText] }

/-- Opens the file for messages. -/
def openLog (path : FilePath) (d : Disk) : Except OsError Disk :=
  match d.read path with
  | .ok _ => .ok d
  | .error .isDirectory => .error .isDirectory
  | .error _ => d.write path []

/-- Performs a command and prints its result. -/
def obey (s : Surroundings) (c : Command) (d : Disk) : Printed × Disk :=
  match (Command.perform s c).run d with
  | (.ok report, d) => (report.printed, d)
  | (.error e, d) => (e.printed, d)

/-- The answer to a command line. -/
def answer (s : Surroundings) (words : List String) (d : Disk) : Printed × Disk :=
  match Invocation.parse words with
  | .error refusal => (refusal.printed, d)
  | .ok invocation =>
    match invocation.messages.file with
    | none => obey s invocation.command d
    | some path =>
      match openLog path d with
      | .ok d => obey s invocation.command d
      | .error e =>
        ({ stderr := endedLines [s!"error: failed to initialize logging: {e.message}"]
           exitCode := 1 }, d)

/-- A host that starts nothing. -/
def noHost : Host := fun _ _ d => (.error .notFound, d)

/-- The program as a process. -/
def asProcess (s : Surroundings) (words : List String) (d : Disk) : Finished × Disk :=
  let (p, d) := answer { s with host := noHost } words d
  (⟨.exited p.exitCode, Text.bytesOf p.stdout, Text.bytesOf p.stderr, .ofMillis 0⟩, d)

/-- The host of a machine on which the program is installed. -/
def selfHost (s : Surroundings) : Host :=
  Machine.host [(s.executable, asProcess s)]

end LabelForge.CommandLine
