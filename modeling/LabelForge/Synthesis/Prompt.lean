import LabelForge.Rule.Document
import LabelForge.Synthesis.Request
import LabelForge.Text.Blank

/-!
# LabelForge.Synthesis.Prompt

**Asking a chat model for a Python script.** The prompt shows the digest of the table, the rules
as a document and the tie-break policy in words, and says what the script must do. After a failed
attempt it begins with the error and the program that caused it.
-/

namespace LabelForge

/-- The two messages sent to a chat model. -/
structure Prompt where
  system : String
  user : String
  deriving DecidableEq, Repr

namespace Prompt

/-- The role that the model is given. -/
def systemText : String :=
  "You are a Senior Python Data Engineer. You write clean, production-grade Pandas code. " ++
  "You ONLY return raw Python code. No markdown, no ```python blocks, no explanations."

/-- What the script must do. -/
def contract (r : SynthesisRequest) : String :=
  let allowed := ", ".intercalate (r.rules.vocabulary ++ [r.labels.defaultLabel])
  "\n".intercalate [
    "## INSTRUCTIONS",
    "1. Import pandas (and numpy if needed) at the top.",
    "2. Define a function `apply_rules(df)` that:",
    "   - Adds a column named '" ++ r.labels.statusColumn ++ "' with default value '" ++
      r.labels.defaultLabel ++ "'.",
    "   - Translates EACH rule's `condition.all` clauses into a vectorized Pandas mask. " ++
      "Every clause of a rule must hold for the rule to match. A clause on a missing value is " ++
      "false. A rule with no clauses matches every row.",
    "   - Labels each row with the `action` of the winning matching rule, following CONFLICT " ++
      "RESOLUTION.",
    "   - Only these labels may appear: " ++ allowed ++ ".",
    "   - Never drops, duplicates, or reorders rows, and keeps every input column.",
    "   - Uses only vectorized Pandas operations. No for loops over rows.",
    "   - Returns the modified DataFrame.",
    "3. The `if __name__ == \"__main__\"` block must:",
    "   - Read the input CSV path from sys.argv[1] and the output CSV path from sys.argv[2].",
    "   - Load the input with pandas and call `apply_rules(df)`.",
    "   - Save the result to the output path with index=False.",
    "   - Print \"" ++ r.marker ++ "\" as the LAST line of stdout.",
    "4. Use ONLY pandas, numpy, and the standard library. No input(). No network access.",
    "5. Return ONLY raw Python code. No markdown fences, no explanations."]

/-- The table, the rules and the policy. -/
def context (r : SynthesisRequest) : String :=
  "## DATA SCHEMA\n" ++ r.schema.render ++ "\n## BUSINESS RULES (as JSON)\n" ++ r.rules.print ++
    "\n\n## CONFLICT RESOLUTION\n" ++ r.policy.instruction

/-- The question put to the model. -/
def userText (r : SynthesisRequest) : String :=
  match r.prior with
  | none =>
    "Write a complete Python script that labels every row of a dataset according to business " ++
      "rules.\n\n" ++ context r ++ "\n\n" ++ contract r
  | some prior =>
    "Your previous code FAILED.\n\n## ERROR\n" ++ Text.trim prior.diagnostics ++
      "\n\n## BROKEN CODE\n" ++ Text.trim prior.source ++ "\n\n" ++ context r ++ "\n\n" ++
      contract r ++ "\n\n## TASK\nFix the defect described under ERROR. Return ONLY the " ++
      "complete corrected Python code."

/-- The prompt of a request. -/
def ofRequest (r : SynthesisRequest) : Prompt :=
  ⟨systemText, userText r⟩

end Prompt

end LabelForge
