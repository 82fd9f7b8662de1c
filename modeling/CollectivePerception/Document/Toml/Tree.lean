/-
This file defines the tree of tables that a TOML document builds up, line by line. How a
table came about decides what may still be added to it: a table that a header opened is
open to its own lines only, one that was merely passed on the way to another may still
get a header, and one made by a dotted key takes further dotted keys. A document that
defines anything twice is refused.
-/

import CollectivePerception.Document

namespace CollectivePerception.Toml

/-! ### Trees -/

/-- How a table came about. -/
inductive TableKind
  /-- A header names it. -/
  | header
  /-- It lies on the way to a table that a header names. -/
  | passed
  /-- It lies on the way of a dotted key. -/
  | dotted
deriving DecidableEq, Repr

/-- What a name in a table stands for. -/
inductive Node
  | value (document : Document)
  | table (kind : TableKind) (entries : List (String × Node))
  /-- The tables of a list, the newest first. -/
  | tables (newestFirst : List (List (String × Node)))
deriving Inhabited

/-- The entries of one table. -/
abbrev Entries := List (String × Node)

namespace Entries

def get? (entries : Entries) (name : String) : Option Node :=
  (entries.find? fun entry => entry.1 == name).map (·.2)

/-- The entries with one of them set, in its place or at the end. -/
def set (entries : Entries) (name : String) (node : Node) : Entries :=
  if entries.any fun entry => entry.1 == name then
    entries.map fun entry => if entry.1 == name then (name, node) else entry
  else
    entries ++ [(name, node)]

/-! ### Descending -/

/-- Changes the table at the end of a path. Tables that are missing on the way are made;
of a list of tables the newest one is meant. A dotted key does not enter a table that a
header has opened. -/
def change (dotted : Bool) (act : TableKind → Entries → Option Entries) :
    List String → TableKind → Entries → Option Entries
  | [], kind, entries => act kind entries
  | part :: path, _, entries =>
    match entries.get? part with
    | none =>
      let kind := if dotted then .dotted else .passed
      (change dotted act path kind []).map fun inner => entries.set part (.table kind inner)
    | some (.table kind inner) =>
      if dotted && kind == .header then
        none
      else
        (change dotted act path kind inner).map fun inner =>
          entries.set part (.table kind inner)
    | some (.tables (newest :: older)) =>
      (change dotted act path .header newest).map fun newest =>
        entries.set part (.tables (newest :: older))
    | some (.tables []) => none
    | some (.value _) => none

/-! ### Adding -/

/-- Gives a name in a table its value. The table is reached by a dotted path, and only
a table of dotted keys may be. -/
def define (path : List String) (name : String) (value : Document) (kind : TableKind)
    (entries : Entries) : Option Entries :=
  change true
    (fun kind entries =>
      if (kind == .dotted) == path.isEmpty then none
      else if (entries.get? name).isSome then none
      else some (entries ++ [(name, .value value)]))
    path kind entries

/-- Gives a name its value below the table of a header. -/
def assign (header path : List String) (name : String) (value : Document)
    (entries : Entries) : Option Entries :=
  change false (define path name value) header .header entries

/-- Opens the table of a header. -/
def openTable (path : List String) (name : String) (entries : Entries) : Option Entries :=
  change false
    (fun _ entries =>
      match entries.get? name with
      | none => some (entries.set name (.table .header []))
      | some (.table .passed inner) => some (entries.set name (.table .header inner))
      | some _ => none)
    path .header entries

/-- Opens another table of a list of tables. -/
def openElement (path : List String) (name : String) (entries : Entries) : Option Entries :=
  change false
    (fun _ entries =>
      match entries.get? name with
      | none => some (entries.set name (.tables [[]]))
      | some (.tables older) => some (entries.set name (.tables ([] :: older)))
      | some _ => none)
    path .header entries

end Entries

/-! ### The finished tree -/

mutual

/-- The document that a node stands for. -/
def Node.toDocument : Node → Document
  | .value document => document
  | .table _ entries => .table (entriesToTable entries)
  | .tables newestFirst => .list (elementsToTables newestFirst).reverse

/-- The table with given entries. -/
def entriesToTable : List (String × Node) → Document.Table
  | [] => []
  | (name, node) :: rest => (name, node.toDocument) :: entriesToTable rest

/-- The tables of a list. -/
def elementsToTables : List (List (String × Node)) → List Document
  | [] => []
  | element :: rest => .table (entriesToTable element) :: elementsToTables rest

end

end CollectivePerception.Toml
