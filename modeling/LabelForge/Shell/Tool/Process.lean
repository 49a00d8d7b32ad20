import LabelForge.Shell.Printf
import LabelForge.Shell.Tool.Basic

/-!
# LabelForge.Shell.Tool.Process

**Tools that need no files.** They print texts and numbers, and wait.
-/

namespace LabelForge.Shell.Tool

/-- Prints its arguments; escapes in them are replaced. -/
def echo : Tool := fun arguments => do
  let (silent, words) := match arguments with
    | "-n" :: rest => (true, rest)
    | all => (false, all)
  let (bytes, goesOn) := Format.unescapeText (" ".intercalate words)
  Action.out (bytes ++ if silent || !goesOn then [] else [10])
  return 0

/-- Prints its arguments with a format. -/
def printf : Tool := fun arguments => do
  let print (format : String) (rest : List String) : Action Nat := do
    let (bytes, complaints, status) := Format.print format rest
    Action.out bytes
    for complaint in complaints do Action.grumble s!"printf: {complaint}"
    return status
  match arguments with
  | "--" :: format :: rest => print format rest
  | format :: rest =>
    match format.toList with
    | '-' :: c :: _ =>
      Action.grumble s!"printf: Illegal option -{c}"
      return 2
    | _ => print format rest
  | [] =>
    Action.grumble "printf: usage: printf format [arg ...]"
    return 2

/-- The milliseconds of a time such as `1.5` or `2m`. -/
def millis? (s : String) : Option Nat :=
  let cs := s.toList
  let (cs, unit) := match cs.getLast? with
    | some 's' => (cs.dropLast, 1)
    | some 'm' => (cs.dropLast, 60)
    | some 'h' => (cs.dropLast, 3600)
    | _ => (cs, 1)
  let whole := cs.takeWhile Char.isDigit
  let fraction := match cs.drop whole.length with
    | '.' :: rest => some rest
    | [] => some []
    | _ => none
  match fraction with
  | some fraction =>
    if !fraction.all Char.isDigit || (whole ++ fraction).isEmpty then none
    else
      (String.ofList (whole ++ (fraction ++ ['0', '0', '0']).take 3)).toNat?.map (· * unit)
  | none => if s == "infinity" then some 1000000000000 else none

/-- Waits. -/
def sleep : Tool := fun arguments => do
  match arguments.mapM millis? with
  | none =>
    let wrong := arguments.filter fun s => (millis? s).isNone
    for s in wrong do Action.complain ("sleep: invalid time interval " ++ quoted s)
    Action.fail (hint "sleep")
  | some times =>
    if times.isEmpty then
      Action.complain "sleep: missing operand"
      return ← Action.fail (hint "sleep")
    Action.wait times.sum
    return 0

/-- Prints the numbers of a range. -/
def seq : Tool := fun arguments => do
  let (separator, arguments) := match arguments with
    | "-s" :: separator :: rest => (separator, rest)
    | argument :: rest =>
      match argument.toList with
      | '-' :: 's' :: separator => (String.ofList separator, rest)
      | _ => ("\n", arguments)
    | [] => ("\n", [])
  let (wide, arguments) := match arguments with
    | "-w" :: rest => (true, rest)
    | all => (false, all)
  if let some wrong := arguments.find? fun s => s.toInt?.isNone then
    Action.complain ("seq: invalid floating point argument: " ++ quoted wrong)
    return ← Action.fail (hint "seq")
  let (first, step, last) : Int × Int × Int := match arguments.filterMap String.toInt? with
    | [last] => (1, 1, last)
    | [first, last] => (first, 1, last)
    | first :: step :: last :: _ => (first, step, last)
    | [] => (1, 1, 0)
  if arguments.isEmpty then
    Action.complain "seq: missing operand"
    return ← Action.fail (hint "seq")
  if step == 0 then
    Action.complain ("seq: invalid Zero increment value: " ++ quoted (arguments[1]?.getD "0"))
    return ← Action.fail (hint "seq")
  let count := if (step > 0 && first ≤ last) || (step < 0 && last ≤ first) then
      ((last - first) / step).toNat + 1 else 0
  let texts := (List.range count).map fun (i : Nat) => toString (first + step * i)
  let width := if wide then (texts.map String.length).foldl max 0 else 0
  let texts := texts.map fun s => "".pushn '0' (width - s.length) ++ s
  unless texts.isEmpty do Action.sayLine (separator.intercalate texts)
  return 0

/-- Prints a line again and again: to another command, which reads as much of it as it needs, or
until the end of time. -/
def yes : Tool := fun arguments => do
  let line := Text.bytesOf ((if arguments.isEmpty then "y" else " ".intercalate arguments) ++ "\n")
  Action.out ((List.replicate (Action.endless / line.length) line).flatten)
  match (← get).stdout with
  | .buffer index => if index < 2 then Action.expire else return 0
  | _ => Action.expire

/-- Prints the variables that commands get to see. -/
def env : Tool := fun _ => do
  for (name, v) in (← get).vars do
    if v.exported then Action.sayLine (name ++ "=" ++ v.value)
  return 0

/-- Prints the directory. -/
def pwd : Tool := fun _ => do
  let l := (← get).disk.cwd
  Action.sayLine (if l.isEmpty then "/" else String.join (l.map fun name => "/" ++ name.shown))
  return 0

end LabelForge.Shell.Tool
