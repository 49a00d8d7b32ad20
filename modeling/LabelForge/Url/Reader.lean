import LabelForge.Url.Basic

/-!
# LabelForge.Url.Reader

**Reading addresses.** Whatever somebody may have typed is taken for an address if there is some
way to do so, and is then written in one way: schemes and hosts in small letters, no steps to the
parent in a path, and by number what must not stand where it is.

Design points:

* Control characters and blanks around an address do not matter, and tabs and line ends do not
  matter anywhere.
* For a special scheme a backslash is a slash, and the number of slashes before the host does not
  matter.
* An address of a file may have a host, but is not required to; a host on the own machine is left
  out. A path begins with the drive, if there is one, and that is never left.
-/

namespace LabelForge.Url

/-- Whether a character ends the part of an address that comes before the path. -/
def endsHost (isSpecial : Bool) (c : Char) : Bool :=
  c == '/' || c == '?' || c == '#' || (isSpecial && c == '\\')

/-- Splits characters in front of the first one that fits. -/
def splitBefore (p : Char → Bool) (cs : List Char) : List Char × List Char :=
  (cs.takeWhile fun c => !p c, cs.dropWhile fun c => !p c)

/-- The scheme in front of the first colon, and what follows. -/
def scheme? (cs : List Char) : Option (List Char × List Char) :=
  let fits (c : Char) : Bool := c.isAlphanum || c == '+' || c == '-' || c == '.'
  match splitBefore (fun c => !fits c) cs with
  | (first :: others, ':' :: rest) =>
    if first.isAlpha then some ((first :: others).map Char.toLower, rest) else none
  | _ => none

/-! ### Hosts and users -/

/-- Reads a user before the last at sign of what comes before the path. -/
def readUser? (isSpecial : Bool) (cs : List Char) :
    Option (List Char × Option (List Char) × List Char) :=
  let (region, path) := splitBefore (endsHost isSpecial) cs
  if !region.contains '@' then some ([], none, cs)
  else
    let host := (region.reverse.takeWhile (· != '@')).reverse
    let given := region.take (region.length - host.length - 1)
    if given.isEmpty && host.isEmpty && !path.isEmpty then none
    else
      let (user, password) := splitBefore (· == ':') given
      let encoded := percentEncode isBarredInUser
      let password := match password with
        | ':' :: c :: cs => some (encoded (c :: cs))
        | _ => none
      some (encoded user, password, host ++ path)

/-- Splits off the text of a host; a colon between brackets belongs to it. -/
def splitHost (isSpecial : Bool) : (inBrackets : Bool) → List Char → List Char × List Char
  | _, [] => ([], [])
  | inBrackets, c :: cs =>
    if endsHost isSpecial c || (c == ':' && !inBrackets) then ([], c :: cs)
    else
      let (host, rest) := splitHost isSpecial (c == '[' || (inBrackets && c != ']')) cs
      (c :: host, rest)

/-- Reads a service number; the one of the scheme counts as none. -/
def readService? (scheme : List Char) (cs : List Char) : Option (Option Nat × List Char) :=
  let digits := cs.takeWhile Char.isDigit
  let rest := cs.drop digits.length
  let service := Number.digitsValue digits
  if 65535 < service || !rest.head?.all (endsHost true) then none
  else if digits.isEmpty || defaultService? scheme == some service then some (none, rest)
  else some (some service, rest)

/-- Reads what stands between the slashes and the path. -/
def readAuthority? (scheme cs : List Char) : Option (Authority × List Char) := do
  let isSpecial := isSpecial scheme
  let (user, password, cs) ← readUser? isSpecial cs
  let (text, rest) := splitHost isSpecial false cs
  if isSpecial && text.isEmpty then none
  let host ← if isSpecial then Host.ofSpecial? text else Host.ofOther? text
  let isNamed := !user.isEmpty || password.isSome
  if host == .name [] && (isNamed || rest.head? == some ':') then none
  let (service, rest) ← match rest with
    | ':' :: rest => readService? scheme rest
    | rest => some (none, rest)
  return (⟨user, password, host, service⟩, rest)

/-! ### Paths -/

/-- Whether a segment stays in a directory. -/
def isHere (name : List Char) : Bool :=
  [".", "%2e"].contains (String.ofList (name.map Char.toLower))

/-- Whether a segment leads to the parent. -/
def isUp (name : List Char) : Bool :=
  ["..", "%2e.", ".%2e", "%2e%2e"].contains (String.ofList (name.map Char.toLower))

/-- Whether a segment is the letter of a drive; a bar may be written for the colon. -/
def isDrive : List Char → Bool
  | [c, ':'] | [c, '|'] => c.isAlpha
  | _ => false

/-- A path without its last segment; the drive of a file stays. -/
def shorten (isFile : Bool) (names : List (List Char)) : List (List Char) :=
  match isFile, names with
  | true, [drive] => if isDrive drive then [drive] else []
  | _, names => names.dropLast

/-- Goes along segments from a path. -/
def follow (isFile : Bool) (names : List (List Char)) : List (List Char) → List (List Char)
  | [] => names
  | name :: rest =>
    let here (names : List (List Char)) := if rest.isEmpty then names ++ [[]] else names
    if isUp name then follow isFile (here (shorten isFile names)) rest
    else if isHere name then follow isFile (here names) rest
    else
      let written := match isFile && names.isEmpty && isDrive name, name with
        | true, c :: _ => [c, ':']
        | _, name => percentEncode isBarredInPath name
      follow isFile (names ++ [written]) rest

/-- Splits a path at its slashes. -/
def splitPath (isSpecial : Bool) : List Char → List (List Char)
  | [] => [[]]
  | c :: cs =>
    if c == '/' || (isSpecial && c == '\\') then [] :: splitPath isSpecial cs
    else match splitPath isSpecial cs with
      | [] => [[c]]
      | name :: rest => (c :: name) :: rest

/-- The path of a text, with or without a slash at its start. -/
def readPath (isFile isSpecial : Bool) (cs : List Char) : Path :=
  let names := splitPath isSpecial cs
  let names := match names with
    | [] :: next :: rest => next :: rest
    | names => names
  let path := follow isFile [] names
  if isFile then
    match path.dropWhile List.isEmpty with
    | [] => .segments [[]]
    | path => .segments path
  else .segments path

/-! ### Addresses -/

/-- An address with the query and the fragment that a text consists of. -/
def withRest (u : Url) (cs : List Char) : Url :=
  let (query, fragment) := splitBefore (· == '#') cs
  { u with
    query := match query with
      | '?' :: query => some (percentEncode (isBarredInQuery (isSpecial u.scheme)) query)
      | _ => none
    fragment := match fragment with
      | _ :: fragment => some (percentEncode isBarredInFragment fragment)
      | [] => none }

/-- Splits a path from the query and the fragment behind it. -/
def splitQuery (cs : List Char) : List Char × List Char :=
  splitBefore (fun c => c == '?' || c == '#') cs

/-- Reads an address with a host. -/
def readHosted? (scheme cs : List Char) : Option Url := do
  let (authority, rest) ← readAuthority? scheme cs
  let (path, rest) := splitQuery rest
  let path :=
    if path.isEmpty && !isSpecial scheme then .segments []
    else readPath false (isSpecial scheme) path
  return withRest ⟨scheme, some authority, path, none, none⟩ rest

/-- Reads an address of a file. -/
def readFile? (scheme cs : List Char) : Option Url := do
  let isSlash (c : Char) : Bool := c == '/' || c == '\\'
  let (host, cs) ← match cs with
    | a :: b :: rest =>
      if isSlash a && isSlash b then
        let (text, path) := splitBefore (endsHost true) rest
        if text.isEmpty || isDrive text then some (.name [], rest)
        else do
          let host ← Host.ofSpecial? text
          some (if host == .name "localhost".toList then .name [] else host, path)
      else some (.name [], cs)
    | _ => some (.name [], cs)
  let (path, rest) := splitQuery cs
  let authority : Authority := ⟨[], none, host, none⟩
  return withRest ⟨scheme, some authority, readPath true true path, none, none⟩ rest

/-- Reads an address without a special scheme. -/
def readOther? (scheme cs : List Char) : Option Url :=
  match cs with
  | '/' :: '/' :: rest => readHosted? scheme rest
  | _ =>
    let (path, rest) := splitQuery cs
    let path := match path with
      | '/' :: _ => readPath false false path
      | _ => .text (percentEncode isControl path)
    some (withRest ⟨scheme, none, path, none, none⟩ rest)

/-- What of a text is read: nothing around it that is not shown, and no tabs and line ends. -/
def significant (cs : List Char) : List Char :=
  let isBlank (c : Char) : Bool := c ≤ ' '
  let trimmed := ((cs.dropWhile isBlank).reverse.dropWhile isBlank).reverse
  trimmed.filter fun c => c != '\t' && c != '\n' && c != '\r'

/-- The address that a text stands for. -/
def parse? (s : String) : Option Url := do
  let (scheme, rest) ← scheme? (significant s.toList)
  if scheme == "file".toList then readFile? scheme rest
  else if isSpecial scheme then
    readHosted? scheme (rest.dropWhile fun c => c == '/' || c == '\\')
  else readOther? scheme rest

end LabelForge.Url
