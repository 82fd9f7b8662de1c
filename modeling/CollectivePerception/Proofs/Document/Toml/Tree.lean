/-
This file says how the tree of tables grows under the lines of a written TOML document. A line
changes the table of the last header. As the rest of the tree stays the same, the tree can be seen
as that table put into its surroundings (`Entries.Reaches`); an entry with a new name comes at the
end of the table, and a header leads on to the table that it opens. A document becomes a tree in
which the plain values of every table stand before the tables in it (`Node.ofDocument`), and which
has the same values under the same names.
-/

import CollectivePerception.Document.Toml.Tree
import CollectivePerception.Document.Toml.Writing
import CollectivePerception.Proofs.Document.Table
import Mathlib.Data.List.Basic

namespace CollectivePerception.Toml

namespace Entries

/-! ### Entries -/

section

variable {entries before : Entries} {name other : String} {node inner : Node}

theorem get?_cons (entry : String × Node) (rest : Entries) (name : String) :
    get? (entry :: rest) name = if entry.1 = name then some entry.2 else get? rest name :=
  findNamed_cons entry rest name

theorem get?_append (first second : Entries) (name : String) :
    get? (first ++ second) name = (first.get? name).or (second.get? name) :=
  findNamed_append first second name

theorem get?_eq_none_iff : entries.get? name = none ↔ name ∉ entries.map Prod.fst :=
  findNamed_eq_none_iff

theorem get?_last (absent : before.get? name = none) :
    get? (before ++ [(name, node)]) name = some node := by
  rw [get?_append, absent, Option.none_or, get?_cons, if_pos rfl]

theorem set_of_absent (absent : entries.get? name = none) :
    entries.set name node = entries ++ [(name, node)] := by
  rw [set, findNamed_eq_none_iff_any.mp absent]
  rfl

theorem set_last (absent : before.get? name = none) :
    set (before ++ [(name, inner)]) name node = before ++ [(name, node)] := by
  have kept : (before.map fun entry => if entry.1 == name then (name, node) else entry) =
      before := by
    refine (List.map_congr_left fun entry member => if_neg fun same => ?_).trans
      (List.map_id before)
    exact get?_eq_none_iff.mp absent (List.mem_map.mpr ⟨entry, member, eq_of_beq same⟩)
  have present : ((before ++ [(name, inner)]).any fun entry => entry.1 == name) = true := by
    simp
  rw [set, if_pos present, List.map_append, kept, List.map_singleton, if_pos (beq_self_eq_true _)]

end

/-! ### Tables in their surroundings -/

/-- A path leads to a table, whichever it is, that has been put into its surroundings. -/
def Reaches (path : List String) (put : Entries → Entries) : Prop :=
  ∀ act entries, change false act path .header (put entries) =
    (act .header entries).map put

section

variable {path : List String} {put : Entries → Entries} {before older : Entries} {name : String}

theorem reaches_root : Reaches [] id := by
  intro act entries
  rw [Option.map_id]
  rfl

/-- A path of two parts leads on from where its first part leads to. -/
theorem change_append (dotted : Bool) (act : TableKind → Entries → Option Entries)
    (path more : List String) (kind : TableKind) (entries : Entries) :
    change dotted act (path ++ more) kind entries =
      change dotted (change dotted act more) path kind entries := by
  induction path generalizing kind entries with
  | nil => rfl
  | cons part path inductionHypothesis =>
    rw [List.cons_append, change, change]
    simp only [inductionHypothesis]

/-- A name in a table leads on to the table of that name. -/
theorem Reaches.table (reaches : Reaches path put) (absent : before.get? name = none) :
    Reaches (path ++ [name]) fun entries => put (before ++ [(name, .table .header entries)]) := by
  intro act entries
  rw [change_append, reaches, change, get?_last absent]
  simp only [change, Bool.false_and, Bool.false_eq_true, if_false, Option.map_map]
  congr 1
  funext inner
  exact congrArg put (set_last absent)

/-- A name in a table leads on to the newest of the tables of that name. -/
theorem Reaches.tables {older : List Entries} (reaches : Reaches path put)
    (absent : before.get? name = none) :
    Reaches (path ++ [name]) fun entries =>
      put (before ++ [(name, .tables (entries :: older))]) := by
  intro act entries
  rw [change_append, reaches, change, get?_last absent]
  simp only [change, Option.map_map]
  congr 1
  funext inner
  exact congrArg put (set_last absent)

/-! ### Growth -/

/-- A value with a new name comes at the end of its table. -/
theorem Reaches.assign_eq {value : Document} (reaches : Reaches path put)
    (absent : before.get? name = none) :
    (put before).assign path [] name value = some (put (before ++ [(name, .value value)])) := by
  rw [assign, reaches, define, change, absent]
  rfl

/-- A table with a new name comes at the end of the table that it lies in. -/
theorem Reaches.openTable_eq (reaches : Reaches path put) (absent : before.get? name = none) :
    (put before).openTable path name = some (put (before ++ [(name, .table .header [])])) := by
  rw [openTable, reaches, absent]
  simp only [set_of_absent absent, Option.map_some]

/-- A table with the given tables of a name in it, the newest first, if there are any. -/
def withTables (before : Entries) (name : String) : List Entries → Entries
  | [] => before
  | newest :: older => before ++ [(name, .tables (newest :: older))]

/-- One more table of a name becomes the newest of them. -/
theorem Reaches.openElement_eq (reaches : Reaches path put) (absent : before.get? name = none)
    (older : List Entries) :
    (put (before.withTables name older)).openElement path name =
      some (put (before.withTables name ([] :: older))) := by
  rw [openElement, reaches]
  cases older with
  | nil =>
    rw [withTables, absent]
    simp only [set_of_absent absent, Option.map_some]
    rfl
  | cons newest older =>
    rw [withTables, get?_last absent]
    simp only [set_last absent, Option.map_some]
    rfl

end

end Entries

/-! ### Documents as trees -/

mutual

/-- The node of a document that is written with a header for each table. -/
def Node.ofDocument : Document → Node
  | .table table => .table .header (Entries.part false table ++ Entries.part true table)
  | .list items =>
    if isSection (.list items) then .tables (Entries.ofItems items).reverse
    else .value (.list items)
  | document => .value document

/-- The plain values of a table, or the tables and lists of tables in it. -/
def Entries.part (sections : Bool) : List (String × Document) → Entries
  | [] => []
  | (name, value) :: rest =>
    if isSection value == sections then (name, Node.ofDocument value) :: Entries.part sections rest
    else Entries.part sections rest

/-- The entries of the tables of a list. -/
def Entries.ofItems : List Document → List Entries
  | [] => []
  | .table table :: rest =>
    (Entries.part false table ++ Entries.part true table) :: Entries.ofItems rest
  | _ :: rest => Entries.ofItems rest

end

/-- The entries of a table that is written, in the order in which they are written. -/
def Entries.ofTable (table : Document.Table) : Entries := part false table ++ part true table

/-- The table that is written, in the order in which it is written. -/
def reordered (table : Document.Table) : Document.Table := entriesToTable (Entries.ofTable table)

section

variable {table : Document.Table} {entries : Entries} {name : String} {sections : Bool}

theorem Entries.ofItems_tables (tables : List Document.Table) :
    ofItems (tables.map .table) = tables.map ofTable := by
  induction tables with
  | nil => rfl
  | cons table tables inductionHypothesis =>
    rw [List.map_cons, ofItems, inductionHypothesis]
    rfl

theorem elementsToTables_eq (elements : List Entries) :
    elementsToTables elements = elements.map fun element => .table (entriesToTable element) := by
  induction elements with
  | nil => rfl
  | cons element elements inductionHypothesis =>
    rw [elementsToTables, inductionHypothesis, List.map_cons]

theorem isSection_tables (first : Document.Table) (others : List Document.Table) :
    isSection (.list ((first :: others).map .table)) = true := by
  simp [isSection, isTable]

/-- Of a list of tables, each table is reordered. -/
theorem toDocument_ofDocument_tables (first : Document.Table) (others : List Document.Table) :
    (Node.ofDocument (.list ((first :: others).map .table))).toDocument =
      .list ((first :: others).map fun table => .table (reordered table)) := by
  rw [Node.ofDocument, if_pos (isSection_tables first others), Node.toDocument,
    Entries.ofItems_tables, elementsToTables_eq, List.map_reverse, List.reverse_reverse,
    List.map_map]
  rfl

/-- A part of a table has no other names than the table. -/
theorem Entries.get?_part_of_absent (absent : name ∉ table.map Prod.fst) :
    (part sections table).get? name = none := by
  induction table with
  | nil => rfl
  | cons entry rest inductionHypothesis =>
    rw [List.map_cons, List.mem_cons, not_or] at absent
    rw [part]
    split
    · rw [get?_cons, if_neg (Ne.symm absent.1), inductionHypothesis absent.2]
    · exact inductionHypothesis absent.2

/-- The tree has the nodes of the table's values under the table's names. -/
theorem Entries.get?_ofTable (distinct : (table.map Prod.fst).Nodup) :
    (ofTable table).get? name = (table.get? name).map Node.ofDocument := by
  induction table with
  | nil => rfl
  | cons entry rest inductionHypothesis =>
    obtain ⟨key, value⟩ := entry
    rw [List.map_cons, List.nodup_cons] at distinct
    have others := inductionHypothesis distinct.2
    rw [ofTable, get?_append] at others ⊢
    rw [part, part, Document.Table.get?_cons]
    cases isSection value with
    | false =>
      rw [if_pos (beq_self_eq_true _), if_neg (by decide), get?_cons]
      by_cases same : key = name
      · rw [if_pos same, if_pos same, Option.some_or, Option.map_some]
      · rw [if_neg same, if_neg same, others]
    | true =>
      rw [if_neg (by decide), if_pos (beq_self_eq_true _), get?_cons]
      by_cases same : key = name
      · subst same
        rw [get?_part_of_absent distinct.1, if_pos rfl, if_pos rfl, Option.none_or,
          Option.map_some]
      · rw [if_neg same, if_neg same, others]

theorem get?_entriesToTable :
    Document.Table.get? (entriesToTable entries) name =
      (entries.get? name).map Node.toDocument := by
  induction entries with
  | nil => rfl
  | cons entry rest inductionHypothesis =>
    rw [entriesToTable, Document.Table.get?_cons, Entries.get?_cons, inductionHypothesis]
    split <;> rfl

/-- Reordering a table keeps what is found under a name, but for the order of the tables in it. -/
theorem get?_reordered (distinct : (table.map Prod.fst).Nodup) :
    (reordered table).get? name =
      (table.get? name).map fun value => (Node.ofDocument value).toDocument := by
  rw [reordered, get?_entriesToTable, Entries.get?_ofTable distinct, Option.map_map]
  rfl

end

end CollectivePerception.Toml
