import LabelForge.TextTable.Wrap

/-!
# LabelForge.TextTable.Arrangement

**How wide the columns of a table are.** A column gets the width of its widest line while there is
enough room. Where there is not, the narrow columns keep their widths and the wide ones share what
is left.

Design points:

* A width is *open* until it is settled. The share of an open width is the free room divided by
  the number of open widths, and grows whenever a narrower column is settled.
* First the columns that fit into their share are settled; then those that become clearly narrower
  than their share once their lines are broken.
* What cannot be divided evenly goes to the columns on the left.
-/

namespace LabelForge.TextTable

/-- The lines of all cells of a column. -/
abbrev Column := List (List Char)

/-- The width of the widest line; at least one. -/
def naturalWidth (c : Column) : Nat :=
  (c.map columnsOf).foldl max 1

/-- The room for the longest line after the lines have been broken: one column for every byte of
its UTF-8 form, which is never too little. -/
def brokenWidth (width : Nat) (c : Column) : Nat :=
  ((c.flatMap (fit width)).map fun line => (line.map Char.utf8Size).sum).foldl max 0

/-- Columns with the widths that are settled. -/
abbrev Widths := List (Column × Option Nat)

/-- How many widths are open. -/
def openCount (ws : Widths) : Nat :=
  (ws.filter fun w => w.2.isNone).length

/-- Goes over the columns once and settles open widths; `choose` is given the share of a column.
Returns the room that is left as well. -/
def sweep (choose : Nat → Column → Option Nat) (room count : Nat) : Widths → Nat × Widths
  | [] => (room, [])
  | (c, some w) :: rest =>
    let (room, rest) := sweep choose room count rest
    (room, (c, some w) :: rest)
  | (c, none) :: rest =>
    match choose (room / count) c with
    | some w =>
      let (room, rest) := sweep choose (room - w) (count - 1) rest
      (room, (c, some w) :: rest)
    | none =>
      let (room, rest) := sweep choose room count rest
      (room, (c, none) :: rest)

/-- Goes over the columns as often as given. -/
def sweeps (choose : Nat → Column → Option Nat) : Nat → Nat × Widths → Nat × Widths
  | 0, s => s
  | times + 1, (room, ws) => sweeps choose times (sweep choose room (openCount ws) ws)

/-- Settles a column that fits into its share. -/
def ifFits (share : Nat) (c : Column) : Option Nat :=
  if naturalWidth c ≤ share then some (naturalWidth c) else none

/-- Settles a column that leaves some of its share unused when its lines are broken. -/
def ifBroken (share : Nat) (c : Column) : Option Nat :=
  if brokenWidth share c + 3 ≤ share then some (brokenWidth share c) else none

/-- Gives every open width its share; the first ones get one more until nothing is left over. -/
def distribute (share : Nat) : (extra : Nat) → Widths → List Nat
  | _, [] => []
  | extra, (_, some w) :: rest => max 1 w :: distribute share extra rest
  | 0, (_, none) :: rest => max 1 share :: distribute share 0 rest
  | extra + 1, (_, none) :: rest => (share + 1) :: distribute share extra rest

/-- The widths of columns in a room. Every sweep but the last one settles a column, so there need
not be more sweeps than columns. -/
def arrange (room : Nat) (columns : List Column) : List Nat :=
  let start : Widths := columns.map fun c => (c, none)
  let (room, ws) := sweeps ifBroken columns.length (sweeps ifFits columns.length (room, start))
  let count := openCount ws
  distribute (room / count) (room % count) ws

end LabelForge.TextTable
