import LabelForge.Json.Basic

/-!
# LabelForge.Toml.Table

**Tables under construction.** A configuration fills its tables line by line, and a table may be
filled in one place only. So while it is read, every table remembers how it came about.

Design points:

* A header opens a table; tables on the way to it that are not there are made. Such a table may
  get a header of its own later, once.
* A dotted name makes tables as well. They belong to the table in which the name stands, and take
  further dotted names, but no header.
* Arrays of tables are filled by headers only; the last table is the open one.
-/

namespace LabelForge.Toml

/-- How a table came about. -/
inductive Origin where
  /-- On the way to a table with a header. -/
  | implied
  /-- By a header. -/
  | header
  /-- By a dotted name. -/
  | dotted
  deriving DecidableEq, Repr

/-- What a name stands for. -/
inductive Node where
  /-- A value, which is complete. -/
  | value (document : Json)
  | table (origin : Origin) (entries : List (String × Node))
  /-- Tables under one name, the last one first. -/
  | tables (elements : List (List (String × Node)))

/-- The entries of a table. -/
abbrev Entries := List (String × Node)

namespace Entries

/-- Sets the entry of a name; a new one comes last. -/
def set (name : String) (node : Node) : Entries → Entries
  | [] => [(name, node)]
  | (other, old) :: rest =>
    if other == name then (name, node) :: rest else (other, old) :: set name node rest

end Entries

/-- Opens the table of a header. -/
def openTable : List String → Entries → Option Entries
  | [], _ => none
  | [name], entries =>
    match entries.lookup name with
    | none => some (Entries.set name (.table .header []) entries)
    | some (.table .implied inner) => some (Entries.set name (.table .header inner) entries)
    | _ => none
  | name :: rest, entries =>
    match entries.lookup name with
    | none => do
      let inner ← openTable rest []
      some (Entries.set name (.table .implied inner) entries)
    | some (.table origin inner) => do
      let inner ← openTable rest inner
      some (Entries.set name (.table origin inner) entries)
    | some (.tables (last :: others)) => do
      let last ← openTable rest last
      some (Entries.set name (.tables (last :: others)) entries)
    | _ => none

/-- Opens the next table of an array. -/
def openElement : List String → Entries → Option Entries
  | [], _ => none
  | [name], entries =>
    match entries.lookup name with
    | none => some (Entries.set name (.tables [[]]) entries)
    | some (.tables elements) => some (Entries.set name (.tables ([] :: elements)) entries)
    | _ => none
  | name :: rest, entries =>
    match entries.lookup name with
    | none => do
      let inner ← openElement rest []
      some (Entries.set name (.table .implied inner) entries)
    | some (.table origin inner) => do
      let inner ← openElement rest inner
      some (Entries.set name (.table origin inner) entries)
    | some (.tables (last :: others)) => do
      let last ← openElement rest last
      some (Entries.set name (.tables (last :: others)) entries)
    | _ => none

/-- Puts a value under a dotted name. `within` tells whether the entries are those of a table that
a dotted name has led to, and whether such a name made it. -/
def putValue (within : Option Bool) (j : Json) : List String → Entries → Option Entries
  | [], _ => none
  | [name], entries =>
    if within == some false || (entries.lookup name).isSome then none
    else some (Entries.set name (.value j) entries)
  | name :: rest, entries =>
    match entries.lookup name with
    | none => do
      let inner ← putValue (some true) j rest []
      some (Entries.set name (.table .dotted inner) entries)
    | some (.table .header _) => none
    | some (.table origin inner) => do
      let inner ← putValue (some (origin == .dotted)) j rest inner
      some (Entries.set name (.table origin inner) entries)
    | some (.tables (last :: others)) => do
      let last ← putValue (some false) j rest last
      some (Entries.set name (.tables (last :: others)) entries)
    | _ => none

/-- Changes the open table, to which a header has led. -/
def inOpen (f : Entries → Option Entries) : List String → Entries → Option Entries
  | [], entries => f entries
  | name :: rest, entries =>
    match entries.lookup name with
    | some (.table origin inner) => do
      let inner ← inOpen f rest inner
      some (Entries.set name (.table origin inner) entries)
    | some (.tables (last :: others)) => do
      let last ← inOpen f rest last
      some (Entries.set name (.tables (last :: others)) entries)
    | _ => none

mutual

/-- The document of a node. -/
def Node.document : Node → Json
  | .value j => j
  | .table _ entries => .ofMembers (documents entries)
  | .tables elements => .ofItems (elementDocuments elements).reverse

/-- The documents of entries. -/
def documents : List (String × Node) → List (String × Json)
  | [] => []
  | (name, node) :: rest => (name, node.document) :: documents rest

/-- The documents of tables. -/
def elementDocuments : List (List (String × Node)) → List Json
  | [] => []
  | entries :: rest => .ofMembers (documents entries) :: elementDocuments rest

end

end LabelForge.Toml
