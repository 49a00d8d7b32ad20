/-!
# LabelForge.Program

**Candidate programs.** A program writer answers with the text of a program in one of two
languages: a Python script, or a label plan that this library runs itself.

Design points:

* A candidate is not trusted: it is a text with the number of the attempt that produced it.
* The language decides under which file name a verified program is kept.
-/

namespace LabelForge

/-- The language of a program. -/
inductive Language where
  /-- A Python script. -/
  | python
  /-- A label plan document. -/
  | labelPlan
  deriving DecidableEq, Repr

/-- The word for a language in documents. -/
def Language.label : Language → String
  | .python => "python"
  | .labelPlan => "label_plan"

/-- The words for the languages. -/
def Language.words : List (String × Language) :=
  [("python", .python), ("label_plan", .labelPlan)]

/-- The name of the file that holds a verified program. -/
def Language.fileName : Language → String
  | .python => "program.py"
  | .labelPlan => "program.plan.json"

/-- An attempt at a program. -/
structure Candidate where
  /-- The attempt that produced it, counted from one. -/
  attempt : Nat
  language : Language
  source : String
  /-- What the program was asked to repair. -/
  diagnostics : Option String := none
  deriving DecidableEq, Repr

end LabelForge
