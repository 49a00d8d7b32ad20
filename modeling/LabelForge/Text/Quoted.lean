import LabelForge.Text.Printable

/-!
# LabelForge.Text.Quoted

**Quoted texts as they appear in messages.** A text is put between double quotes; a quote, a
backslash and the common control characters get a short escape, every other character that
cannot be shown as it is is written by number in braces.

Design points:

* An apostrophe is not escaped.
* A character that extends its neighbour is written by number even where the neighbour is there,
  so that the quoted form never depends on what stands before it.
-/

namespace LabelForge.Text

/-- The lower-case hexadecimal digits of a number. -/
def hexDigits (n : Nat) : List Char :=
  Nat.toDigits 16 n

/-- One character of a quoted text. -/
def quoteChar (c : Char) : List Char :=
  match c with
  | '\x00' => ['\\', '0']
  | '\t' => ['\\', 't']
  | '\n' => ['\\', 'n']
  | '\r' => ['\\', 'r']
  | '"' => ['\\', '"']
  | '\\' => ['\\', '\\']
  | c => if isPrintable c then [c] else '\\' :: 'u' :: '\x7b' :: hexDigits c.toNat ++ ['\x7d']

/-- A text between double quotes. -/
def quoted (s : String) : String :=
  .ofList ('"' :: s.toList.flatMap quoteChar ++ ['"'])

end LabelForge.Text
