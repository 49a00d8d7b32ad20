import LabelForge.Number.Decimal
import LabelForge.Url.Domain
import LabelForge.Url.PercentCode

/-!
# LabelForge.Url.Host

**Hosts.** A host is given by a name or by the number of its address, of which there are two kinds:
one of 32 bits and one of eight pieces with 16 bits each.

Design points:

* A name whose last label is a number is the address of the first kind. Its parts may be decimal,
  octal or hexadecimal, and the last one fills all bits that are left.
* An address of the second kind stands in brackets. The longest run of zeros among its pieces is
  left out when it is written, unless it is a single piece.
* The name of a host at an address without a special scheme is not interpreted.
-/

namespace LabelForge.Url

open Text (hexValue?)

/-- A host. -/
inductive Host where
  /-- A name, which may be empty. -/
  | name (text : List Char)
  /-- An address of 32 bits. -/
  | short (address : Nat)
  /-- An address of eight pieces. -/
  | long (pieces : List Nat)
  deriving DecidableEq, Repr

namespace Host

/-! ### Short addresses -/

/-- What a part of a short address stands for. -/
inductive Part where
  | number (value : Nat)
  | other
  deriving DecidableEq, Repr

/-- The value of digits to a base. -/
def valueIn? (base : Nat) (digits : List Char) : Option Nat :=
  digits.foldlM (fun value c => do
    let digit ← hexValue? c
    if digit < base then some (value * base + digit) else none) 0

/-- Reads a part of a short address; a mark without digits is zero. -/
def number? : List Char → Option Nat
  | [] => none
  | '0' :: 'x' :: digits => valueIn? 16 digits
  | '0' :: 'X' :: digits => valueIn? 16 digits
  | '0' :: c :: digits => valueIn? 8 (c :: digits)
  | digits => valueIn? 10 digits

/-- The labels of a name without an empty one at its end. -/
def partsOf (name : List Char) : List (List Char) :=
  let parts := splitDots name
  if parts.getLast? == some [] then parts.dropLast else parts

/-- Whether the last label of a name is a number. -/
def endsInNumber (name : List Char) : Bool :=
  match (partsOf name).getLast? with
  | none => false
  | some last => (!last.isEmpty && last.all Char.isDigit) || (number? last).isSome

/-- The short address that some parts stand for; all but the last one count a byte each. -/
def shortOf? (parts : List (List Char)) : Option Nat := do
  if 4 < parts.length then none
  let numbers ← parts.mapM number?
  let first := numbers.dropLast
  let last ← numbers.getLast?
  if first.any (255 < ·) || 256 ^ (4 - first.length) ≤ last then none
  return (first.zipIdx.map fun (n, i) => n * 256 ^ (3 - i)).sum + last

/-- The text of a short address. -/
def shortText (address : Nat) : List Char :=
  ['.'].intercalate ([3, 2, 1, 0].map fun i => Number.natDigits (address / 256 ^ i % 256))

/-! ### Long addresses -/

/-- What has been read of a long address. -/
structure Pieces where
  pieces : List Nat
  /-- How many pieces stand before those that are left out. -/
  gap : Option Nat

/-- A number up to 255 without a zero before it. -/
def byte? (digits : List Char) : Option Nat :=
  if digits.isEmpty || !digits.all Char.isDigit then none
  else if 1 < digits.length && digits.head? == some '0' then none
  else
    let value := Number.digitsValue digits
    if value ≤ 255 then some value else none

/-- The last two pieces of a long address that are given as a short one. -/
def lastPieces? (cs : List Char) : Option (List Nat) := do
  match ← (splitDots cs).mapM byte? with
  | [a, b, c, d] => return [a * 256 + b, c * 256 + d]
  | _ => none

/-- Reads the pieces of a long address; at most `room` more of them. -/
def readPieces : (room : Nat) → Pieces → List Char → Option Pieces
  | _, p, [] => some p
  | 0, _, _ => none
  | room + 1, p, ':' :: cs =>
    if p.gap.isSome then none
    else readPieces room { p with gap := some p.pieces.length } cs
  | room + 1, p, cs =>
    let digits := (cs.take 4).takeWhile fun c => (hexValue? c).isSome
    let add (values : List Nat) : Pieces := { p with pieces := p.pieces ++ values }
    match cs.drop digits.length, valueIn? 16 digits with
    | [], some value => some (add [value])
    | '.' :: _, _ => if digits.isEmpty || room == 0 then none else (lastPieces? cs).map add
    | ':' :: next :: rest, some value => readPieces room (add [value]) (next :: rest)
    | _, _ => none

/-- The long address between two brackets. -/
def longOf? (cs : List Char) : Option (List Nat) := do
  let p ← match cs with
    | ':' :: ':' :: rest => readPieces 7 ⟨[], some 0⟩ rest
    | ':' :: _ => none
    | [] | [_] => none
    | cs => readPieces 8 ⟨[], none⟩ cs
  match p.gap with
  | none => if p.pieces.length == 8 then return p.pieces else none
  | some gap =>
    return p.pieces.take gap ++ List.replicate (8 - p.pieces.length) 0 ++ p.pieces.drop gap

/-- Where the first of the longest runs of zeros begins, and its length. -/
def longestRun (pieces : List Nat) : Nat × Nat :=
  (List.range pieces.length).foldl (fun best i =>
    let length := ((pieces.drop i).takeWhile (· == 0)).length
    if best.2 < length then (i, length) else best) (0, 0)

/-- Pieces with colons between them. -/
def piecesText (pieces : List Nat) : List Char :=
  [':'].intercalate (pieces.map (Nat.toDigits 16))

/-- The text of a long address. -/
def longText (pieces : List Nat) : List Char :=
  let (start, length) := longestRun pieces
  if length < 2 then piecesText pieces
  else piecesText (pieces.take start) ++ ':' :: ':' :: piecesText (pieces.drop (start + length))

/-! ### Hosts -/

/-- The host between two brackets. -/
def bracketed? (cs : List Char) : Option Host :=
  match cs.reverse with
  | ']' :: reversed => (longOf? reversed.reverse).map .long
  | _ => none

/-- The host of an address with a special scheme. -/
def ofSpecial? (cs : List Char) : Option Host := do
  match cs with
  | '[' :: rest => bracketed? rest
  | _ =>
    let name ← domainForm? (← percentText? cs)
    if name.isEmpty then none
    else if endsInNumber name then return .short (← shortOf? (partsOf name))
    else return .name name

/-- The host of an address without a special scheme. -/
def ofOther? (cs : List Char) : Option Host :=
  match cs with
  | '[' :: rest => bracketed? rest
  | _ =>
    if cs.any ("\x00\t\n\r #/:<>?@[\\]^|".contains ·) then none
    else some (.name (percentEncode isControl cs))

/-- The text of a host. -/
def toList : Host → List Char
  | .name text => text
  | .short address => shortText address
  | .long pieces => '[' :: longText pieces ++ [']']

end Host

end LabelForge.Url
