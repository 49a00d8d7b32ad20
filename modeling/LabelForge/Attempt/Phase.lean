/-!
# LabelForge.Attempt.Phase

**The phases of an attempt.** A program is generated, executed and validated; a program that
passes is promoted. Whatever fails leads back to generating, as long as the budget of attempts
is not spent, and otherwise to the end.

```text
generate --generated--> execute --succeeded--> validate --passed--> promote
    ^                      |                       |
    +------- failed -------+-----------------------+   (budget left)
                       any failure, budget spent --> fail
```
-/

namespace LabelForge

/-- A phase. -/
inductive Phase where
  | generate
  | execute
  | validate
  /-- The end: a program passed. -/
  | promote
  /-- The end: no program passed. -/
  | fail
  deriving DecidableEq, Repr

/-- What happened in a phase. -/
inductive PhaseEvent where
  | generated
  | generationFailed
  | executionSucceeded
  | executionFailed
  | validationPassed
  | validationFailed
  deriving DecidableEq, Repr

namespace Phase

/-- The word for a phase. -/
def label : Phase → String
  | .generate => "GENERATE"
  | .execute => "EXECUTE"
  | .validate => "VALIDATE"
  | .promote => "PROMOTE"
  | .fail => "FAIL"

/-- All phases. -/
def all : List Phase := [.generate, .execute, .validate, .promote, .fail]

/-- Whether nothing follows. -/
def isTerminal : Phase → Bool
  | .promote => true
  | .fail => true
  | _ => false

/-- Where a failure leads on the given attempt. -/
def afterFailure (attempt budget : Nat) : Phase :=
  if attempt < budget then .generate else .fail

/-- The phase after an event; none if the event cannot happen. -/
def next (p : Phase) (e : PhaseEvent) (attempt budget : Nat) : Option Phase :=
  match p, e with
  | .generate, .generated => some .execute
  | .generate, .generationFailed => some (afterFailure attempt budget)
  | .execute, .executionSucceeded => some .validate
  | .execute, .executionFailed => some (afterFailure attempt budget)
  | .validate, .validationPassed => some .promote
  | .validate, .validationFailed => some (afterFailure attempt budget)
  | _, _ => none

end Phase

end LabelForge
